import Registrar.Engine.StatusReader

/-! The plan for one chunk: each identity classified, the signatures for delegations gathered, and
one batch laid out for each authority. -/
namespace Registrar
set_option autoImplicit false

open Contract
open Program (request observe)

structure Plan where
  /-- The reported identities in the order of the intents. -/
  results : List ReconciliationResult
  registryBatch : List Registry.Entry
  delegationBatch : List Ledger.Entry
deriving DecidableEq

namespace Plan

def empty : Plan := ⟨[], [], []⟩

def isNoop (p : Plan) : Bool :=
  p.registryBatch.isEmpty && p.delegationBatch.isEmpty

/-- Records a status for every result whose identity is among the given ones. -/
def applyStatus (p : Plan) (authority : Authority) (identities : List PublicKey)
    (status : DispatchStatus) : Plan :=
  { p with
    results := p.results.map fun r =>
      if identities.contains r.pubkey then r.setStatus authority status else r }

/-! ## One identity -/

def omission? : IdentityState → Option Omission
  | .excluded => some .excluded
  | .unauthorized _ => some .unauthorized
  | .inconsistent => some .inconsistent
  | _ => none

/-- Representative and payout recipient of the result: those on record for an identity that is
registered, else the engine's own account and the intended recipient. -/
def parties (signer : Address) (intended : Address) : IdentityState → Address × Address
  | .registryOnly representative payout _ => (representative, payout)
  | .fullyDelegated representative payout => (representative, payout)
  | _ => (signer, intended)

def resultFor (prepared : PreparedRegistration) (state : IdentityState)
    (representative payout : Address) (secondary : Option EcdsaSignature) : ReconciliationResult :=
  let result :=
    { ReconciliationResult.start prepared.pubkey representative payout with
      secondarySignature := secondary }
  let result :=
    if state.needsRegistration then result else result.setStatus .registry .alreadySatisfied
  match secondary, state with
  | none, .fullyDelegated .. => result.setStatus .delegationLedger .alreadySatisfied
  | _, _ => result

def rowsFor (prepared : PreparedRegistration) (state : IdentityState)
    (representative payout : Address) (secondary : Option EcdsaSignature) : Plan :=
  let message := prepared.registration.message
  { results := [resultFor prepared state representative payout secondary]
    registryBatch :=
      if state.needsRegistration then
        [⟨prepared.pubkey, payout, message.gasLimit, message.timestamp,
          prepared.registration.signature⟩]
      else []
    delegationBatch :=
      match secondary with
      | some signature => [⟨prepared.pubkey, payout, signature, state.needsRegistration⟩]
      | none => [] }

def append (p q : Plan) : Plan :=
  ⟨p.results ++ q.results, p.registryBatch ++ q.registryBatch,
    p.delegationBatch ++ q.delegationBatch⟩

instance : Append Plan := ⟨append⟩

end Plan

/-! ## All identities of a chunk -/

structure Reconciler where
  /-- A secondary signer is at hand. -/
  canAuthorize : Bool
  signer : Address

namespace Reconciler

def secondarySignature (r : Reconciler) (prepared : PreparedRegistration)
    (representative : Address) : Program (Except Error EcdsaSignature) :=
  if r.canAuthorize then request (.authorize prepared.registration representative)
  else
    .done (.error (.secondarySignature prepared.pubkey.toHex "no secondary signer configured"))

/-- The part of the plan that one identity makes up; nothing for one that is omitted. -/
def planOne (r : Reconciler) (exclusions : ExclusionTable) (statuses : StatusSnapshot)
    (prepared : PreparedRegistration) : Program Plan := do
  let key := prepared.pubkey
  let state := classify (statuses.identity key) (exclusions.entry key) r.signer
  observe (.classified key state)
  match Plan.omission? state with
  | some reason =>
    observe (.omitted key reason)
    return .empty
  | none =>
    let (representative, payout) := Plan.parties r.signer prepared.payoutRecipient state
    if state.needsDelegation then
      match ← r.secondarySignature prepared representative with
      | .error _ =>
        observe (.omitted key .secondarySignature)
        return .empty
      | .ok signature => return Plan.rowsFor prepared state representative payout (some signature)
    else return Plan.rowsFor prepared state representative payout none

/-- Every identity in turn, against one reading of the authorities and one exclusion list. -/
def reconcile (r : Reconciler) (exclusions : ExclusionTable) (statuses : StatusSnapshot) :
    List PreparedRegistration → Program Plan
  | [] => .done .empty
  | prepared :: rest => do
    let first ← r.planOne exclusions statuses prepared
    let others ← r.reconcile exclusions statuses rest
    return first ++ others

end Reconciler

end Registrar
