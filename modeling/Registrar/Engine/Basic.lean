import Registrar.Engine.Dispatch

/-! The engine: registrations, claims and exits. A call holds the session lock from beginning to
end, so that its chunks and their transactions follow one another. -/
namespace Registrar
set_option autoImplicit false

open Contract
open Program (request observe)

def maxIdentities : Nat := 1000

structure EngineSettings where
  maxBatchSize : Nat
  registry : Address
  /-- Absent when the delegation ledger is not in use. -/
  delegation : Option Address
  payoutOverride : Option Address

structure Engine where
  gateway : Gateway
  settings : EngineSettings
  statuses : StatusSource
  /-- A remote signer is at hand. -/
  canResign : Bool
  /-- A secondary signer is at hand. -/
  canAuthorize : Bool

namespace Engine

def signer (e : Engine) : Address := e.gateway.signer.address

/-- Identities in one chunk: at least one, at most `maxIdentities`. -/
def chunkSize (e : Engine) : Nat :=
  Nat.min (Nat.max e.settings.maxBatchSize 1) maxIdentities

def dispatcher (e : Engine) : Dispatcher :=
  ⟨e.gateway, e.settings.registry, e.settings.delegation⟩

def reconciler (e : Engine) : Reconciler :=
  ⟨e.canAuthorize, e.signer⟩

/-! ## Reading both authorities -/

def readStatuses (e : Engine) (keys : List PublicKey) :
    Program (Except Error StatusSnapshot) := do
  match ← e.statuses.read keys .registry with
  | .error err => return .error err
  | .ok registry =>
    if e.settings.delegation.isNone then return .ok ⟨registry, none⟩
    match ← e.statuses.read keys .delegationLedger with
    | .error err => return .error err
    | .ok delegation => return .ok ⟨registry, some delegation⟩

/-! ## The payout policy -/

/-- The keys that the remote signer holds, asked for when first needed. -/
abbrev Listing := Option (List PublicKey)

/-- A listing that fails counts as one without keys. -/
def listed (listing : Listing) : Program (List PublicKey) :=
  match listing with
  | some keys => .done keys
  | none => do
    match ← request .listKeys with
    | .ok keys => return keys
    | .error _ => return []

/-- Whether the recipient of an intent is to be replaced: the override names another one, and the
identity is going to be registered as far as its registry status and exclusions tell. -/
def overrideFor (e : Engine) (exclusions : ExclusionTable) (statuses : StatusSnapshot)
    (intent : SignedRegistration) : Option Address :=
  match e.settings.payoutOverride with
  | none => none
  | some payout =>
    let candidate :=
      (statuses.identity intent.pubkey).registry.isUnregistered
        && !(exclusions.entry intent.pubkey).registry
    if payout = intent.message.feeRecipient || !candidate then none else some payout

/-- The intent with its message signed anew for another recipient; `none` when that fails. -/
def resign (intent : SignedRegistration) (payout : Address) :
    Program (Option PreparedRegistration) := do
  let message := { intent.message with feeRecipient := payout }
  match ← request (.signRegistration message) with
  | .ok signed =>
    if signed.message = message then return some ⟨signed, payout, .overrideResigned⟩
    observe (.omitted intent.pubkey .resign)
    return none
  | .error _ =>
    observe (.omitted intent.pubkey .resign)
    return none

/-- Applies the payout policy to one intent; an identity whose message cannot be signed anew is
dropped. -/
def prepareOne (e : Engine) (exclusions : ExclusionTable) (statuses : StatusSnapshot)
    (intent : SignedRegistration) (listing : Listing) :
    Program (Option PreparedRegistration × Listing) := do
  match e.overrideFor exclusions statuses intent with
  | none => return (some (.unchanged intent), listing)
  | some payout =>
    if !e.canResign then return (some ⟨intent, payout, .override⟩, listing)
    let keys ← listed listing
    if keys.contains intent.pubkey then
      let prepared ← resign intent payout
      return (prepared, some keys)
    return (some (.unchanged intent), some keys)

def prepareFrom (e : Engine) (exclusions : ExclusionTable) (statuses : StatusSnapshot) :
    List SignedRegistration → Listing → Program (List PreparedRegistration)
  | [], _ => .done []
  | intent :: rest, listing => do
    let (prepared, listing) ← e.prepareOne exclusions statuses intent listing
    let others ← e.prepareFrom exclusions statuses rest listing
    return prepared.toList ++ others

def prepare (e : Engine) (exclusions : ExclusionTable) (statuses : StatusSnapshot)
    (chunk : List SignedRegistration) : Program (List PreparedRegistration) :=
  e.prepareFrom exclusions statuses chunk none

/-! ## Registrations -/

def processChunk (e : Engine) (exclusions : ExclusionTable) (chunk : List SignedRegistration) :
    Program (Except Error (List ReconciliationResult)) := do
  match ← e.readStatuses (chunk.map (·.pubkey)) with
  | .error err => return .error err
  | .ok statuses =>
    let prepared ← e.prepare exclusions statuses chunk
    let plan ← e.reconciler.reconcile exclusions statuses prepared
    match ← e.dispatcher.dispatch plan with
    | (.error err, _) => return .error err
    | (.ok (), plan) => return .ok plan.results

def processChunks (e : Engine) (exclusions : ExclusionTable) :
    List (List SignedRegistration) → Program (Except Error (List ReconciliationResult))
  | [] => .done (.ok [])
  | chunk :: rest => do
    match ← e.processChunk exclusions chunk with
    | .error err => return .error err
    | .ok results =>
      match ← e.processChunks exclusions rest with
      | .error err => return .error err
      | .ok others => return .ok (results ++ others)

/-- The intents without repetition, cut into chunks. -/
def chunksOf (e : Engine) (intents : List SignedRegistration) : List (List SignedRegistration) :=
  let unique := dedup SignedRegistration.pubkey intents
  (chunkRanges unique.length e.chunkSize).map (·.slice unique)

/-- One result for each reported identity, in the order in which the identities first came. Nothing
at all is asked for no intents. -/
def processRegistrations (e : Engine) (intents : List SignedRegistration) :
    Program (Except Error (List ReconciliationResult)) :=
  if intents.isEmpty then .done (.ok [])
  else do
    request (.acquire .session)
    let exclusions ← request .exclusions
    let results ← e.processChunks exclusions (e.chunksOf intents)
    request (.release .session)
    return results

/-! ## Claims and exits -/

def outcomeOf (attempt : TxAttempt) : TransactionOutcome :=
  match attempt.status with
  | .confirmed h => .confirmed h
  | .unknown h reason => .unknown h reason
  | .failed h reason => .failed h reason
  | .notRequired | .alreadySatisfied => .failed attempt.txHash "no transaction outcome"

/-- Sends the action for an identity that the ledger holds under the engine's account. -/
def actOne (e : Engine) (ledger : Address) (action : DelegationAction) (statuses : StatusMap)
    (report : DelegationReport) : Program (Option DelegationActionResult) := do
  let status := statuses.status report.pubkey
  if status.isUnregistered then
    observe (.omitted report.pubkey .notDelegated)
    return none
  if status.representative ≠ e.signer then
    observe (.omitted report.pubkey .unauthorized)
    return none
  let attempt ← e.gateway.sendAndConfirm (action.label ++ ":" ++ report.pubkey.toHex) ledger
    (Ledger.encodeAction action report)
  let outcome := outcomeOf attempt
  observe (.acted action outcome)
  return some ⟨report.pubkey, action, outcome⟩

def actAll (e : Engine) (ledger : Address) (action : DelegationAction) (statuses : StatusMap) :
    List DelegationReport → Program (List DelegationActionResult)
  | [] => .done []
  | report :: rest => do
    let first ← e.actOne ledger action statuses report
    let others ← e.actAll ledger action statuses rest
    return first.toList ++ others

def processUnique (e : Engine) (ledger : Address) (action : DelegationAction)
    (reports : List DelegationReport) : Program (Except Error (List DelegationActionResult)) := do
  match ← e.statuses.read (reports.map (·.pubkey)) .delegationLedger with
  | .error err => return .error err
  | .ok statuses => return .ok (← e.actAll ledger action statuses reports)

/-- One transaction for each identity that may be acted for. -/
def processAction (e : Engine) (action : DelegationAction) (reports : List DelegationReport) :
    Program (Except Error (List DelegationActionResult)) :=
  if reports.isEmpty then .done (.ok [])
  else
    match e.settings.delegation with
    | none =>
      .done (.error (.config (action.label ++ " requires the delegation ledger to be enabled")))
    | some ledger => do
      request (.acquire .session)
      let results ← e.processUnique ledger action (dedup DelegationReport.pubkey reports)
      request (.release .session)
      return results

def processClaims (e : Engine) (reports : List DelegationReport) :
    Program (Except Error (List DelegationActionResult)) :=
  e.processAction .claim reports

def processExits (e : Engine) (reports : List DelegationReport) :
    Program (Except Error (List DelegationActionResult)) :=
  e.processAction .exit reports

end Engine

end Registrar
