import Registrar.Proofs.Abi
import Registrar.Proofs.Accounting
import Registrar.Proofs.SettlingNode
import Registrar.Proofs.Soundness

/-! Claims and exits: what becomes of each report of a call. The reports are dealt with one by one,
and how the transaction of one ends has no bearing on those behind it. -/
namespace Registrar
set_option autoImplicit false

open Contract
open Program

/-! ## The call data of an action -/

namespace Contract.Ledger

theorem length_encode_signatureValue (s : EcdsaSignature) :
    (signatureValue s).encode.length = 96 := by
  rw [signatureValue, Abi.Value.encode, Abi.length_layout]
  simp [Abi.Value.ofNat, Abi.Value.isDynamic, Abi.Value.encode, FixedBytes.length_bytes]

theorem length_encodeAction_lt (action : DelegationAction) (report : DelegationReport) :
    (encodeAction action report).length < 2 ^ 256 := by
  have padded := Abi.length_padded_le report.pubkey.bytes
  have static : (signatureValue report.signature).isDynamic = false := rfl
  rw [encodeAction, Abi.Function.call, Abi.encodeAll, List.length_append,
    Abi.Function.length_selector, Abi.length_layout]
  simp only [List.map_cons, List.map_nil, List.sum_cons, List.sum_nil, Abi.Value.ofNat, static,
    Abi.Value.isDynamic, Abi.Value.encode, length_encode_signatureValue, List.length_append,
    Abi.length_wordOf, FixedBytes.length_bytes, if_true] at padded ⊢
  simp only [Bool.false_eq_true, if_false]
  omega

theorem selector_actionFunction_ne {action other : DelegationAction} (h : action ≠ other) :
    (actionFunction action).selector ≠ (actionFunction other).selector := by
  have ne : claim.selector ≠ exit.selector := by decide +kernel
  cases action <;> cases other
  · exact absurd rfl h
  · exact ne
  · exact ne.symm
  · exact absurd rfl h

/-- The report is read back from the call data, and only as the action that it was for. -/
theorem decodeAction?_encodeAction (action other : DelegationAction) (report : DelegationReport) :
    decodeAction? other (encodeAction action report) =
      if other = action then some report else none := by
  by_cases same : other = action
  · have admits : Abi.Kind.admitsAll (actionFunction action).arguments
        [.bytes report.pubkey.bytes, .ofNat report.reportedBalance.toNat,
          signatureValue report.signature] = true := by
      cases action <;> rfl
    have solid : Abi.Kind.areSolid (actionFunction action).arguments = true := by
      cases action <;> rfl
    have arguments :=
      Abi.Function.arguments?_call admits solid (length_encodeAction_lt action report)
    have balance := Abi.Value.toNat?_ofNat report.reportedBalance.isLt
    rw [if_pos same, same, decodeAction?, encodeAction, arguments]
    dsimp only
    rw [balance, signatureOf?_signatureValue]
    simp
  · rw [if_neg same, decodeAction?, encodeAction,
      Abi.Function.arguments?_call_of_ne (selector_actionFunction_ne (Ne.symm same))]

end Contract.Ledger

/-! ## Outcomes -/

/-- The status that an outcome is told as elsewhere. -/
def TransactionOutcome.asStatus : TransactionOutcome → DispatchStatus
  | confirmed h => .confirmed h
  | failed h reason => .failed h reason
  | unknown h reason => .unknown h reason

/-- The outcome of an attempt is its status: an attempt never has a status without transaction. -/
theorem Engine.asStatus_outcomeOf (a : TxAttempt) : (outcomeOf a).asStatus = a.status := by
  have attempted := a.isAttempted_status
  unfold outcomeOf
  cases status : a.status with
  | confirmed h | failed h reason | unknown h reason => rfl
  | notRequired | alreadySatisfied =>
    rw [status] at attempted
    cases attempted

theorem Complete.omitted {t : List Exchange} (h : Complete t) : omitted t = [] := by
  refine List.filterMap_eq_nil_iff.2 fun x hx => ?_
  unfold Exchange.omission?
  split
  · rename_i k reason hq
    exact absurd hq (h x hx k reason)
  · rfl

theorem Gateway.sendAndConfirm_complete {g : Gateway} {label : String} {target : Address}
    {data : Bytes} {t : List Exchange} {a : TxAttempt}
    (h : (g.sendAndConfirm label target data).Yields t a) : Complete t := by
  intro x hx k reason hq
  have sends := (sendAndConfirm_sends g label target data).question_of_yields h x hx
  rw [hq] at sends
  cases sends

namespace Engine

variable {e : Engine} {ledger : Address} {action : DelegationAction} {statuses : StatusMap}

/-! ## One report -/

/-- Why nothing is sent for an identity: the ledger does not hold it, or not under the engine's own
account. -/
def refusal? (e : Engine) (statuses : StatusMap) (k : PublicKey) : Option Omission :=
  if (statuses.status k).isUnregistered then some .notDelegated
  else if (statuses.status k).representative ≠ e.signer then some .unauthorized
  else none

/-- What becomes of a report. -/
inductive Acted (e : Engine) (ledger : Address) (action : DelegationAction) (statuses : StatusMap)
    (report : DelegationReport) : List Exchange → Option DelegationActionResult → Prop
  | refused (reason : Omission) (refused : e.refusal? statuses report.pubkey = some reason) :
    Acted e ledger action statuses report [⟨.observe (.omitted report.pubkey reason), ()⟩] none
  | sent (data : Bytes) (sending : List Exchange) (attempt : TxAttempt)
      (outcome : TransactionOutcome) (admitted : e.refusal? statuses report.pubkey = none)
      (carries : ∀ other, Ledger.decodeAction? other data =
        if other = action then some report else none)
      (sends : (e.gateway.sendAndConfirm (action.label ++ ":" ++ report.pubkey.toHex) ledger
        data).Yields sending attempt)
      (told : outcome.asStatus = attempt.status) :
    Acted e ledger action statuses report (sending ++ [⟨.observe (.acted action outcome), ()⟩])
      (some ⟨report.pubkey, action, outcome⟩)

theorem actOne_acted {report : DelegationReport} {t : List Exchange}
    {result : Option DelegationActionResult}
    (h : (e.actOne ledger action statuses report).Yields t result) :
    Acted e ledger action statuses report t result := by
  unfold actOne at h
  dsimp only at h
  by_cases unregistered : (statuses.status report.pubkey).isUnregistered = true
  · rw [if_pos unregistered] at h
    obtain ⟨⟨⟩, t, rfl, rfl, rfl⟩ := h
    exact .refused .notDelegated (if_pos unregistered)
  rw [if_neg unregistered] at h
  by_cases foreign : (statuses.status report.pubkey).representative ≠ e.signer
  · rw [if_pos foreign] at h
    obtain ⟨⟨⟩, t, rfl, rfl, rfl⟩ := h
    exact .refused .unauthorized (by rw [refusal?, if_neg unregistered, if_pos foreign])
  rw [if_neg foreign, yields_monad_bind] at h
  obtain ⟨sending, t, attempt, rfl, sends, ⟨⟩, t, rfl, rfl, rfl⟩ := h
  exact .sent _ sending attempt _ (by rw [refusal?, if_neg unregistered, if_neg foreign])
    (fun other => Ledger.decodeAction?_encodeAction action other report) sends
    (asStatus_outcomeOf attempt)

namespace Acted

variable {report : DelegationReport} {t : List Exchange} {result : Option DelegationActionResult}

/-- There is a result exactly for an identity that is not refused. -/
theorem map_pubkey_result (h : Acted e ledger action statuses report t result) :
    result.map (·.pubkey) =
      Option.guard (fun k => (e.refusal? statuses k).isNone) report.pubkey := by
  cases h with
  | refused reason refused => simp [refused, Option.guard]
  | sent data sending attempt outcome admitted carries sends told => simp [admitted, Option.guard]

theorem omitted (h : Acted e ledger action statuses report t result) :
    omitted t = ((e.refusal? statuses report.pubkey).map (report.pubkey, ·)).toList := by
  cases h with
  | refused reason refused =>
    rw [refused]
    rfl
  | sent data sending attempt outcome admitted carries sends told =>
    rw [admitted, omitted_append, (Gateway.sendAndConfirm_complete sends).omitted]
    rfl

end Acted

/-- Only a deadline beyond the clock leaves a report undone. -/
theorem actOne_stalls {report : DelegationReport} {t : List Exchange}
    (h : (e.actOne ledger action statuses report).Stalls t) :
    ∃ now, ⟨.clock, now⟩ ∈ t ∧ Gateway.deadline? e.gateway.settings now = none := by
  unfold actOne at h
  dsimp only at h
  split at h
  · obtain ⟨⟨⟩, t, rfl, h⟩ := h
    exact h.elim
  split at h
  · obtain ⟨⟨⟩, t, rfl, h⟩ := h
    exact h.elim
  rw [stalls_monad_bind] at h
  obtain h | ⟨u, v, attempt, rfl, -, ⟨⟩, t, rfl, h⟩ := h
  · exact Gateway.sendAndConfirm_stalls h
  · exact h.elim

/-! ## All reports -/

/-- A report with what was asked for it and its result. -/
structure ActedReport (e : Engine) (ledger : Address) (action : DelegationAction)
    (statuses : StatusMap) where
  report : DelegationReport
  exchanges : List Exchange
  result : Option DelegationActionResult
  acted : Acted e ledger action statuses report exchanges result

theorem actAll_parts {reports : List DelegationReport} {t : List Exchange}
    {results : List DelegationActionResult}
    (h : (e.actAll ledger action statuses reports).Yields t results) :
    ∃ parts : List (ActedReport e ledger action statuses),
      parts.map (·.report) = reports ∧ t = parts.flatMap (·.exchanges) ∧
      results = parts.filterMap (·.result) := by
  induction reports generalizing t results with
  | nil =>
    obtain ⟨rfl, rfl⟩ := h
    exact ⟨[], rfl, rfl, rfl⟩
  | cons report rest ih =>
    rw [actAll, yields_monad_bind] at h
    obtain ⟨first, t, result, rfl, h₁, h⟩ := h
    rw [yields_monad_bind] at h
    obtain ⟨others, t, results', rfl, h₂, rfl, rfl⟩ := h
    obtain ⟨parts, rfl, rfl, rfl⟩ := ih h₂
    refine ⟨⟨report, first, result, actOne_acted h₁⟩ :: parts, rfl, by simp, ?_⟩
    rw [List.filterMap_cons]
    cases result <;> rfl

theorem actAll_stalls {reports : List DelegationReport} {t : List Exchange}
    (h : (e.actAll ledger action statuses reports).Stalls t) :
    ∃ now, ⟨.clock, now⟩ ∈ t ∧ Gateway.deadline? e.gateway.settings now = none := by
  induction reports generalizing t with
  | nil => exact h.elim
  | cons report rest ih =>
    rw [actAll, stalls_monad_bind] at h
    obtain h | ⟨u, v, result, rfl, -, h⟩ := h
    · exact actOne_stalls h
    rw [stalls_monad_bind] at h
    obtain h | ⟨v, w, results, rfl, -, h⟩ := h
    · obtain ⟨now, hx, beyond⟩ := ih h
      exact ⟨now, List.mem_append_right _ hx, beyond⟩
    · exact h.elim

/-- What a call makes of its reports once the ledger has been read. -/
structure Settles (e : Engine) (ledger : Address) (action : DelegationAction)
    (statuses : StatusMap) (reports : List DelegationReport) (t : List Exchange)
    (results : List DelegationActionResult) : Prop where
  /-- Each identity in the order in which they first came, with the last report for it. -/
  parts : ∃ parts : List (ActedReport e ledger action statuses),
    parts.map (·.report.pubkey) = (reports.map (·.pubkey)).eraseDups ∧
    (∀ part ∈ parts,
      (reports.filter (·.pubkey = part.report.pubkey)).getLast? = some part.report) ∧
    t = parts.flatMap (·.exchanges) ∧ results = parts.filterMap (·.result)
  keys : results.map (·.pubkey) =
    (reports.map (·.pubkey)).eraseDups.filter fun k => (e.refusal? statuses k).isNone
  omitted : omitted t =
    (reports.map (·.pubkey)).eraseDups.filterMap fun k => (e.refusal? statuses k).map (k, ·)

theorem actAll_settles {reports : List DelegationReport} {t : List Exchange}
    {results : List DelegationActionResult}
    (h : (e.actAll ledger action statuses (dedup (·.pubkey) reports)).Yields t results) :
    Settles e ledger action statuses reports t results := by
  obtain ⟨parts, hparts, rfl, rfl⟩ := actAll_parts h
  -- The last report for an identity stands where the first one stood, so the order of the
  -- identities is that in which they came.
  have distinct : parts.map (·.report.pubkey) = (reports.map (·.pubkey)).eraseDups := by
    rw [← map_dedup, ← hparts, List.map_map]
    rfl
  refine ⟨⟨parts, distinct, fun part hpart => ?_, rfl, rfl⟩, ?_, ?_⟩
  · refine getLast?_of_mem_dedup (·.pubkey) reports ?_
    rw [← hparts]
    exact List.mem_map_of_mem hpart
  · rw [← distinct, List.map_filterMap, ← List.filterMap_eq_filter, List.filterMap_map]
    exact List.filterMap_congr fun part _ => part.acted.map_pubkey_result
  · rw [← distinct, List.filterMap_map, List.filterMap_eq_flatMap_toList, Registrar.omitted,
      List.filterMap_flatMap]
    exact List.flatMap_congr fun part _ => part.acted.omitted

/-! ## The call -/

theorem processAction_disabled {reports : List DelegationReport} (nonempty : reports ≠ [])
    (disabled : e.settings.delegation = none) :
    e.processAction action reports = done
      (.error (.config (action.label ++ " requires the delegation ledger to be enabled"))) := by
  rw [processAction, if_neg (by simpa using nonempty), disabled]

theorem processAction_enabled {reports : List DelegationReport} (nonempty : reports ≠ [])
    (enabled : e.settings.delegation = some ledger) : e.processAction action reports = do
      request (.acquire .session)
      let results ← e.processUnique ledger action (dedup (·.pubkey) reports)
      request (.release .session)
      return results := by
  rw [processAction, if_neg (by simpa using nonempty), enabled]

theorem processUnique_yields {reports : List DelegationReport} {t : List Exchange}
    {result : Except Error (List DelegationActionResult)}
    (h : (e.processUnique ledger action (dedup (·.pubkey) reports)).Yields t result) :
    ∃ reading acting statuses, t = reading ++ acting ∧
      (e.statuses.read (reports.map (·.pubkey)).eraseDups .delegationLedger).Yields reading
        statuses ∧
      match statuses with
      | .error err => result = .error err ∧ acting = []
      | .ok statuses =>
        ∃ results, result = .ok results ∧
          Settles e ledger action statuses reports acting results := by
  rw [processUnique, map_dedup, yields_monad_bind] at h
  obtain ⟨reading, t, statuses, rfl, reads, h⟩ := h
  cases statuses with
  | error err =>
    obtain ⟨rfl, rfl⟩ := h
    exact ⟨reading, [], .error err, rfl, reads, rfl, rfl⟩
  | ok statuses =>
    obtain ⟨acting, t, results, rfl, acts, rfl, rfl⟩ := yields_monad_bind.1 h
    rw [List.append_nil]
    exact ⟨reading, acting, .ok statuses, rfl, reads, results, rfl, actAll_settles acts⟩

theorem processUnique_stalls {reports : List DelegationReport} {t : List Exchange}
    (h : (e.processUnique ledger action (dedup (·.pubkey) reports)).Stalls t) :
    (e.statuses.read (reports.map (·.pubkey)).eraseDups .delegationLedger).Stalls t ∨
      ∃ now, ⟨.clock, now⟩ ∈ t ∧ Gateway.deadline? e.gateway.settings now = none := by
  rw [processUnique, map_dedup, stalls_monad_bind] at h
  obtain h | ⟨reading, t, statuses, rfl, -, h⟩ := h
  · exact .inl h
  cases statuses with
  | error err => exact h.elim
  | ok statuses =>
    obtain h | ⟨acting, t, results, rfl, -, h⟩ := stalls_monad_bind.1 h
    · obtain ⟨now, hx, beyond⟩ := actAll_stalls h
      exact .inr ⟨now, List.mem_append_right _ hx, beyond⟩
    · exact h.elim

/-- A call without reports does nothing, and one without a ledger fails at once. Any other call
gives a result unless the reading or an attempt does not. If the reading fails, its error is the
result. Otherwise each identity that the ledger holds under the engine's own account has one result,
from one attempt with the last report for it, the others are reported as omitted, and no attempt
keeps the later ones from being made. -/
theorem processAction_settles (e : Engine) (action : DelegationAction)
    (reports : List DelegationReport) :
    (reports = [] → e.processAction action reports = done (.ok [])) ∧
    (reports ≠ [] → e.settings.delegation = none → e.processAction action reports =
      done (.error (.config (action.label ++ " requires the delegation ledger to be enabled")))) ∧
    ∀ ledger, reports ≠ [] → e.settings.delegation = some ledger →
      (∀ {σ : Type} (h : Surroundings σ) (s : σ),
        ((e.processAction action reports).run h s).1 = none →
        (∃ reading, (e.processAction action reports).transcript h s =
            ⟨.acquire .session, ()⟩ :: reading ∧
          (e.statuses.read (reports.map (·.pubkey)).eraseDups .delegationLedger).Stalls reading) ∨
        ∃ now, ⟨.clock, now⟩ ∈ (e.processAction action reports).transcript h s ∧
          Gateway.deadline? e.gateway.settings now = none) ∧
      ∀ t result, (e.processAction action reports).Yields t result →
        ∃ reading acting statuses,
          t = ⟨.acquire .session, ()⟩ :: (reading ++ acting ++ [⟨.release .session, ()⟩]) ∧
          (e.statuses.read (reports.map (·.pubkey)).eraseDups .delegationLedger).Yields reading
            statuses ∧
          match statuses with
          | .error err => result = .error err ∧ acting = []
          | .ok statuses =>
            ∃ results, result = .ok results ∧
              Settles e ledger action statuses reports acting results := by
  refine ⟨?nothing, processAction_disabled, fun ledger nonempty enabled => ?enabled⟩
  case nothing =>
    rintro rfl
    rfl
  case enabled =>
  constructor
  · intro σ h s stuck
    have stalls := stalls_transcript h _ s stuck
    generalize (e.processAction action reports).transcript h s = t at stalls ⊢
    rw [processAction_enabled nonempty enabled, stalls_request_bind] at stalls
    obtain ⟨⟨⟩, t, rfl, stalls⟩ := stalls
    obtain unique | ⟨u, v, results, rfl, -, ⟨⟩, t, rfl, ended⟩ := stalls_monad_bind.1 stalls
    · obtain reading | ⟨now, hx, beyond⟩ := processUnique_stalls unique
      · exact .inl ⟨t, rfl, reading⟩
      · exact .inr ⟨now, List.mem_cons_of_mem _ hx, beyond⟩
    · exact ended.elim
  · intro t result yields
    rw [processAction_enabled nonempty enabled, yields_request_bind] at yields
    obtain ⟨⟨⟩, t, rfl, yields⟩ := yields
    obtain ⟨u, t, results, rfl, unique, ⟨⟩, t, rfl, rfl, rfl⟩ := yields_monad_bind.1 yields
    obtain ⟨reading, acting, statuses, rfl, reads, settles⟩ := processUnique_yields unique
    exact ⟨reading, acting, statuses, rfl, reads, settles⟩

/-! ## A call with a repeated report -/

/-- Two identities are held under the sample engine's account and one under another. -/
def actingStatuses : StatusMap :=
  .ofList [(.replicate 48 0, ⟨.registered, freshEngine.signer, .zero⟩),
    (.replicate 48 1, ⟨.active, freshEngine.signer, .zero⟩),
    (.replicate 48 2, ⟨.registered, .zero, .zero⟩)]

def actingEngine : Engine :=
  { freshEngine with
    settings := { freshEngine.settings with delegation := some .zero }
    statuses := ⟨fun _ _ => .done (.ok actingStatuses), fun _ _ => trivial⟩ }

def sampleReport (b : UInt8) (balance : BitVec 256) : DelegationReport :=
  ⟨.replicate 48 b, balance, ⟨27, .zero, .zero⟩⟩

/-- The first identity is reported twice, the last one is not held at all. -/
def sampleReports : List DelegationReport :=
  [sampleReport 0 1, sampleReport 2 1, sampleReport 1 1, sampleReport 0 2, sampleReport 3 1]

theorem refusal?_acting :
    actingEngine.refusal? actingStatuses (sampleReport 0 2).pubkey = none ∧
    actingEngine.refusal? actingStatuses (sampleReport 1 1).pubkey = none ∧
    actingEngine.refusal? actingStatuses (sampleReport 2 1).pubkey = some .unauthorized ∧
    actingEngine.refusal? actingStatuses (sampleReport 3 1).pubkey = some .notDelegated := by
  have own : freshEngine.signer = actingEngine.signer := rfl
  have other : (.zero : Address) ≠ actingEngine.signer := by
    intro same
    have zero : actingEngine.signer.isZero = false := isZero_signer_settledEngine
    rw [← same] at zero
    cases zero
  have first : actingStatuses.status (sampleReport 0 2).pubkey =
    ⟨.registered, freshEngine.signer, .zero⟩ := rfl
  have second : actingStatuses.status (sampleReport 1 1).pubkey =
    ⟨.active, freshEngine.signer, .zero⟩ := rfl
  have third : actingStatuses.status (sampleReport 2 1).pubkey = ⟨.registered, .zero, .zero⟩ := rfl
  refine ⟨?_, ?_, ?_, rfl⟩
  · rw [refusal?, first, own, if_neg nofun, if_neg (not_not_intro rfl)]
  · rw [refusal?, second, own, if_neg nofun, if_neg (not_not_intro rfl)]
  · rw [refusal?, third, if_neg nofun, if_pos other]

def claimCall : Transaction :=
  Gateway.hastyCall .zero (Ledger.encodeAction .claim (sampleReport 1 1))

set_option maxRecDepth 100000 in
theorem claimCall_signed : ∃ raw, claimCall.sign? Gateway.sampleKey = some raw := by
  have signed : (claimCall.sign? Gateway.sampleKey).isSome = true := by decide +kernel
  exact Option.isSome_iff_exists.1 signed

/-- An attempt that ends before anything is signed. -/
theorem sendAndConfirm_yields_unpriced (g : Gateway) (label : String) (target : Address)
    (data : Bytes) (err : Error) :
    (g.sendAndConfirm label target data).Yields
      [⟨.acquire .nonce, ()⟩, ⟨.node .gasPrice, .error err⟩, ⟨.release .nonce, ()⟩]
      ⟨none, .failed, .error err⟩ := by
  have sent : (g.broadcast target data (.start label)).Yields
      [⟨.acquire .nonce, ()⟩, ⟨.node .gasPrice, .error err⟩, ⟨.release .nonce, ()⟩]
      (.error err, .start label) :=
    ⟨(), _, rfl, .error err, _, rfl, (), _, rfl, rfl, rfl⟩
  exact yields_monad_bind.2 ⟨_, [], _, rfl, sent, rfl, rfl⟩

def unpriced : Error :=
  .nodeRpc "eth_gasPrice" "connection reset"

section

variable {report : DelegationReport} {rest reports : List DelegationReport} {t u : List Exchange}
  {results : List DelegationActionResult}

theorem actAll_yields_of_refused {reason : Omission}
    (refused : e.refusal? statuses report.pubkey = some reason)
    (others : ∃ t, (e.actAll ledger action statuses rest).Yields t results) :
    ∃ t, (e.actAll ledger action statuses (report :: rest)).Yields t results := by
  obtain ⟨t, others⟩ := others
  have one : (e.actOne ledger action statuses report).Yields
      [⟨.observe (.omitted report.pubkey reason), ()⟩] none := by
    unfold refusal? at refused
    unfold actOne
    dsimp only
    split at refused
    · rename_i unregistered
      cases refused
      rw [if_pos unregistered]
      exact ⟨(), _, rfl, rfl, rfl⟩
    rename_i registered
    split at refused
    · rename_i foreign
      cases refused
      rw [if_neg registered, if_pos foreign]
      exact ⟨(), _, rfl, rfl, rfl⟩
    · cases refused
  exact ⟨_, yields_monad_bind.2 ⟨_, _, _, rfl, one, yields_monad_bind.2
    ⟨t, [], results, (List.append_nil t).symm, others, rfl, rfl⟩⟩⟩

theorem actAll_yields_of_sent {attempt : TxAttempt}
    (admitted : e.refusal? statuses report.pubkey = none)
    (sends : (e.gateway.sendAndConfirm (action.label ++ ":" ++ report.pubkey.toHex) ledger
      (Ledger.encodeAction action report)).Yields u attempt)
    (others : ∃ t, (e.actAll ledger action statuses rest).Yields t results) :
    ∃ t, (e.actAll ledger action statuses (report :: rest)).Yields t
      (⟨report.pubkey, action, outcomeOf attempt⟩ :: results) := by
  obtain ⟨t, others⟩ := others
  have one : (e.actOne ledger action statuses report).Yields
      (u ++ [⟨.observe (.acted action (outcomeOf attempt)), ()⟩])
      (some ⟨report.pubkey, action, outcomeOf attempt⟩) := by
    unfold refusal? at admitted
    unfold actOne
    dsimp only
    split at admitted
    · cases admitted
    rename_i registered
    split at admitted
    · cases admitted
    rename_i own
    rw [if_neg registered, if_neg own]
    exact yields_monad_bind.2 ⟨u, _, attempt, rfl, sends, (), _, rfl, rfl, rfl⟩
  exact ⟨_, yields_monad_bind.2 ⟨_, _, _, rfl, one, yields_monad_bind.2
    ⟨t, [], results, (List.append_nil t).symm, others, rfl, rfl⟩⟩⟩

theorem processAction_yields_of_acts (nonempty : reports ≠ [])
    (enabled : e.settings.delegation = some ledger)
    (reads : (e.statuses.read (reports.map (·.pubkey)).eraseDups .delegationLedger).Yields u
      (.ok statuses))
    (acts : ∃ t, (e.actAll ledger action statuses (dedup (·.pubkey) reports)).Yields t results) :
    ∃ t, (e.processAction action reports).Yields t (.ok results) := by
  obtain ⟨t, acts⟩ := acts
  have unique : (e.processUnique ledger action (dedup (·.pubkey) reports)).Yields (u ++ t)
      (.ok results) := by
    rw [processUnique, map_dedup]
    exact yields_monad_bind.2 ⟨u, t, .ok statuses, rfl, reads, yields_monad_bind.2
      ⟨t, [], results, (List.append_nil t).symm, acts, rfl, rfl⟩⟩
  rw [processAction_enabled nonempty enabled]
  exact ⟨_, yields_request_bind.2
    ⟨(), _, rfl, yields_monad_bind.2 ⟨_, _, _, rfl, unique, (), _, rfl, rfl, rfl⟩⟩⟩

end

theorem processClaims_yields_acting {raw : Bytes}
    (signed : claimCall.sign? Gateway.sampleKey = some raw) :
    ∃ t, (actingEngine.processClaims sampleReports).Yields t
      (.ok [⟨(sampleReport 0 2).pubkey, .claim, outcomeOf ⟨none, .failed, .error unpriced⟩⟩,
        ⟨(sampleReport 1 1).pubkey, .claim,
          outcomeOf (Gateway.settledAttempt (Transaction.hashRaw raw) ⟨true, none⟩)⟩]) := by
  obtain ⟨first, second, foreign, unheld⟩ := refusal?_acting
  have failed := sendAndConfirm_yields_unpriced actingEngine.gateway
    (DelegationAction.claim.label ++ ":" ++ (sampleReport 0 2).pubkey.toHex) .zero
    (Ledger.encodeAction .claim (sampleReport 0 2)) unpriced
  have confirmed := Gateway.attempt_yields_hasty
    (DelegationAction.claim.label ++ ":" ++ (sampleReport 1 1).pubkey.toHex) ⟨true, none⟩ signed
  have unique : dedup (·.pubkey) sampleReports =
    [sampleReport 0 2, sampleReport 2 1, sampleReport 1 1, sampleReport 3 1] := rfl
  have none : ∃ t, (actingEngine.actAll .zero .claim actingStatuses []).Yields t [] :=
    ⟨[], rfl, rfl⟩
  have acts := actAll_yields_of_sent first failed (actAll_yields_of_refused foreign
    (actAll_yields_of_sent second confirmed (actAll_yields_of_refused unheld none)))
  rw [← unique] at acts
  exact processAction_yields_of_acts nofun rfl ⟨rfl, rfl⟩ acts

/-- The attempt for the first identity fails, and the one for the other identity is made all the
same. Of the two reports for the first identity, the later one counts. -/
theorem processAction_settles_acting :
    ∃ (t acting : List Exchange) (hash : Word) (results : List DelegationActionResult),
      (actingEngine.processClaims sampleReports).Yields t (.ok results) ∧
      results = [⟨.replicate 48 0, .claim, .failed none unpriced.text⟩,
        ⟨.replicate 48 1, .claim, .confirmed hash⟩] ∧
      omitted acting = [(.replicate 48 2, .unauthorized), (.replicate 48 3, .notDelegated)] ∧
      Settles actingEngine .zero .claim actingStatuses sampleReports acting results := by
  obtain ⟨raw, signed⟩ := claimCall_signed
  obtain ⟨t, yields⟩ := processClaims_yields_acting signed
  obtain ⟨first, second, foreign, unheld⟩ := refusal?_acting
  obtain ⟨reading, acting, statuses, -, ⟨rfl, rfl⟩, results, same, settles⟩ :=
    ((processAction_settles actingEngine .claim sampleReports).2.2 .zero nofun rfl).2 t _ yields
  cases same
  have distinct : (sampleReports.map (·.pubkey)).eraseDups = [(sampleReport 0 2).pubkey,
    (sampleReport 2 1).pubkey, (sampleReport 1 1).pubkey, (sampleReport 3 1).pubkey] := rfl
  have told := settles.omitted
  rw [distinct] at told
  simp only [List.filterMap_cons, first, second, foreign, unheld] at told
  exact ⟨t, acting, Transaction.hashRaw raw, _, yields, rfl, told, settles⟩

end Engine

end Registrar
