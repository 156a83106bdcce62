import Registrar.Engine.Dispatch
import Registrar.Proofs.Attempt
import Registrar.Proofs.Planning

/-! Sending a plan: at most one attempt for each authority, whose outcome every result of its batch
takes over. -/
namespace Registrar
set_option autoImplicit false

open Contract
open Program

/-! ## Recording an attempt -/

namespace ReconciliationResult

/-- The result with the status of the attempt, if there was one and it carried the identity. -/
def recorded (r : ReconciliationResult) (a : Authority) (keys : List PublicKey) :
    Option TxAttempt → ReconciliationResult
  | none => r
  | some attempt => if r.pubkey ∈ keys then r.setStatus a attempt.status else r

variable {r : ReconciliationResult} {a : Authority} {keys : List PublicKey}
  {attempt : Option TxAttempt}

/-- At most the status for the authority changes. -/
theorem recorded_cases (r : ReconciliationResult) (a : Authority) (keys : List PublicKey)
    (attempt : Option TxAttempt) :
    r.recorded a keys attempt = r ∨ ∃ s, r.recorded a keys attempt = r.setStatus a s := by
  cases attempt with
  | none => exact .inl rfl
  | some sent =>
  by_cases hk : r.pubkey ∈ keys
  · exact .inr ⟨sent.status, if_pos hk⟩
  · exact .inl (if_neg hk)

@[simp] theorem pubkey_recorded : (r.recorded a keys attempt).pubkey = r.pubkey := by
  obtain h | ⟨s, h⟩ := recorded_cases r a keys attempt <;> simp [h]

@[simp] theorem representative_recorded :
    (r.recorded a keys attempt).representative = r.representative := by
  obtain h | ⟨s, h⟩ := recorded_cases r a keys attempt <;> simp [h]

@[simp] theorem payoutRecipient_recorded :
    (r.recorded a keys attempt).payoutRecipient = r.payoutRecipient := by
  obtain h | ⟨s, h⟩ := recorded_cases r a keys attempt <;> simp [h]

@[simp] theorem secondarySignature_recorded :
    (r.recorded a keys attempt).secondarySignature = r.secondarySignature := by
  obtain h | ⟨s, h⟩ := recorded_cases r a keys attempt <;> simp [h]

theorem InStep.recorded (inStep : r.InStep) : (r.recorded a keys attempt).InStep := by
  obtain h | ⟨s, h⟩ := recorded_cases r a keys attempt
  · rwa [h]
  · rw [h]
    exact inStep.setStatus

theorem status_recorded_of_ne {b : Authority} (hb : b ≠ a) :
    (r.recorded a keys attempt).status b = r.status b := by
  obtain h | ⟨s, h⟩ := recorded_cases r a keys attempt
  · rw [h]
  · rw [h, status_setStatus, if_neg hb]

theorem status_recorded_of_mem {sent : TxAttempt} (h : r.pubkey ∈ keys) :
    (r.recorded a keys (some sent)).status a = sent.status := by
  rw [recorded, if_pos h, status_setStatus, if_pos rfl]

theorem status_recorded_of_not_mem (h : r.pubkey ∉ keys) :
    (r.recorded a keys attempt).status a = r.status a := by
  cases attempt with
  | none => rfl
  | some sent => rw [recorded, if_neg h]

end ReconciliationResult

/-! ## The two batches of a plan -/

namespace Plan

def keys (p : Plan) : Authority → List PublicKey
  | .registry => p.registryBatch.map (·.pubkey)
  | .delegationLedger => p.delegationBatch.map (·.pubkey)

def callData (p : Plan) : Authority → Bytes
  | .registry => Registry.encodeBatch p.registryBatch
  | .delegationLedger => Ledger.encodeBatch p.delegationBatch

/-- The plan with the status of the attempt that carried the batch, if there was one. -/
def record (p : Plan) (a : Authority) : Option TxAttempt → Plan
  | none => p
  | some attempt => p.applyStatus a (p.keys a) attempt.status

variable {p : Plan} {a : Authority} {attempt : Option TxAttempt}

@[simp] theorem keys_record : (p.record a attempt).keys = p.keys := by
  cases attempt <;> rfl

@[simp] theorem callData_record : (p.record a attempt).callData = p.callData := by
  cases attempt <;> rfl

theorem results_record :
    (p.record a attempt).results = p.results.map fun r => r.recorded a (p.keys a) attempt := by
  cases attempt with
  | none => exact (List.map_id _).symm
  | some attempt =>
    refine List.map_congr_left fun r _ => ?_
    simp only [List.contains_iff_mem, ReconciliationResult.recorded]

theorem map_pubkey_record :
    (p.record a attempt).results.map (·.pubkey) = p.results.map (·.pubkey) := by
  rw [results_record, List.map_map]
  exact List.map_congr_left fun r _ => ReconciliationResult.pubkey_recorded

def dispatched (p : Plan) (attempt : Authority → Option TxAttempt) : Plan :=
  (p.record .registry (attempt .registry)).record .delegationLedger (attempt .delegationLedger)

open ReconciliationResult in
/-- What a result of the plan becomes then: all but its statuses stays, and the status for an
authority changes exactly when the batch for it carries the identity. -/
theorem mem_results_dispatched {attempt : Authority → Option TxAttempt}
    {result : ReconciliationResult} (h : result ∈ (p.dispatched attempt).results) :
    ∃ before ∈ p.results, result.pubkey = before.pubkey ∧
      result.payoutRecipient = before.payoutRecipient ∧
      result.secondarySignature = before.secondarySignature ∧
      (before.InStep → result.InStep) ∧
      (∀ a, before.pubkey ∉ p.keys a → result.status a = before.status a) ∧
      ∀ a sent, before.pubkey ∈ p.keys a → attempt a = some sent →
        result.status a = sent.status := by
  rw [dispatched, results_record, results_record, List.map_map, keys_record] at h
  obtain ⟨before, hbefore, rfl⟩ := List.mem_map.1 h
  refine ⟨before, hbefore, by simp, by simp, by simp, fun h => h.recorded.recorded, ?_, ?_⟩
  · intro a absent
    dsimp only [Function.comp]
    cases a with
    | registry => rw [status_recorded_of_ne (by decide), status_recorded_of_not_mem absent]
    | delegationLedger =>
      rw [status_recorded_of_not_mem (by rwa [pubkey_recorded]), status_recorded_of_ne (by decide)]
  · intro a sent present attempted
    dsimp only [Function.comp]
    cases a with
    | registry =>
      rw [status_recorded_of_ne (by decide), attempted, status_recorded_of_mem present]
    | delegationLedger => rw [attempted, status_recorded_of_mem (by rwa [pubkey_recorded])]

end Plan

namespace Dispatcher

/-- Where an authority takes its batches. -/
def target? (d : Dispatcher) : Authority → Option Address
  | .registry => some d.registry
  | .delegationLedger => d.delegation

/-- The raw form of a transaction that carries one of the batches of the plan to its authority. -/
def Broadcasts (d : Dispatcher) (plan : Plan) (raw : Bytes) : Prop :=
  ∃ a target, d.target? a = some target ∧ plan.keys a ≠ [] ∧
    d.gateway.Carries target (plan.callData a) raw

/-- The ways in which the batch of a plan for one authority is sent: there is nothing to send, or it
is carried by one attempt, which is reported. -/
inductive Carried (d : Dispatcher) (plan : Plan) (a : Authority) :
    List Exchange → Option TxAttempt → Prop
  | nothing (h : plan.keys a = []) : Carried d plan a [] none
  | attempted (target : Address) (t : List Exchange) (attempt : TxAttempt) (h : plan.keys a ≠ [])
      (ht : d.target? a = some target)
      (ha : Gateway.Attempted d.gateway target (plan.callData a) t attempt) :
    Carried d plan a (t ++ [⟨.observe (.dispatched a (plan.keys a).length attempt.status), ()⟩])
      (some attempt)

variable {d : Dispatcher} {plan plan' : Plan} {t : List Exchange}

theorem Carried.congr {a : Authority} {attempt : Option TxAttempt} (hk : plan'.keys = plan.keys)
    (hc : plan'.callData = plan.callData) (h : Carried d plan' a t attempt) :
    Carried d plan a t attempt := by
  cases h with
  | nothing h => exact .nothing (hk ▸ h)
  | attempted target t attempt h ht ha =>
    rw [hk] at h ⊢
    rw [hc] at ha
    exact .attempted target t attempt h ht ha

theorem sendBatch_carried {a : Authority} {target : Address} (h : plan.keys a ≠ [])
    (ht : d.target? a = some target)
    (hy : (d.sendBatch a target (plan.callData a) (plan.keys a) plan).Yields t plan') :
    ∃ attempt, Carried d plan a t attempt ∧ plan' = plan.record a attempt := by
  unfold sendBatch at hy
  rw [yields_monad_bind] at hy
  obtain ⟨t, t', attempt, rfl, ha, hy⟩ := hy
  obtain ⟨⟨⟩, t', rfl, rfl, rfl⟩ := hy
  exact ⟨some attempt, .attempted target t attempt h ht (Gateway.sendAndConfirm_attempted ha), rfl⟩

theorem sendRegistrations_carried (h : (d.sendRegistrations plan).Yields t plan') :
    ∃ attempt, Carried d plan .registry t attempt ∧ plan' = plan.record .registry attempt := by
  unfold sendRegistrations at h
  cases hb : plan.registryBatch with
  | nil =>
    rw [hb] at h
    obtain ⟨rfl, rfl⟩ := h
    refine ⟨none, .nothing ?_, rfl⟩
    rw [Plan.keys, hb]
    rfl
  | cons row rows =>
    rw [if_neg (by simp [hb])] at h
    exact sendBatch_carried (by simp [Plan.keys, hb]) rfl h

theorem sendDelegations_carried (h : (d.sendDelegations plan).Yields t (.ok (), plan')) :
    ∃ attempt, Carried d plan .delegationLedger t attempt ∧
      plan' = plan.record .delegationLedger attempt := by
  unfold sendDelegations at h
  cases hb : plan.delegationBatch with
  | nil =>
    rw [hb] at h
    obtain ⟨rfl, h⟩ := h
    obtain rfl := congrArg Prod.snd h
    refine ⟨none, .nothing ?_, rfl⟩
    rw [Plan.keys, hb]
    rfl
  | cons row rows =>
    rw [if_neg (by simp [hb])] at h
    cases hd : d.delegation with
    | none =>
      rw [hd] at h
      obtain ⟨rfl, h⟩ := h
      cases h
    | some ledger =>
      simp only [hd] at h
      rw [yields_monad_bind] at h
      obtain ⟨t, t', plan'', rfl, hs, rfl, h⟩ := h
      obtain rfl := congrArg Prod.snd h
      rw [List.append_nil]
      exact sendBatch_carried (by simp [Plan.keys, hb]) hd hs

/-- Sending a plan is sending its batches, the registry's first, and recording both attempts. -/
theorem dispatch_carried (h : (d.dispatch plan).Yields t (.ok (), plan')) :
    ∃ (part : Authority → List Exchange) (attempt : Authority → Option TxAttempt),
      t = part .registry ++ part .delegationLedger ∧
      (∀ a, Carried d plan a (part a) (attempt a)) ∧
      plan' = plan.dispatched attempt := by
  unfold dispatch at h
  rw [yields_monad_bind] at h
  obtain ⟨t₁, t₂, plan₁, rfl, h₁, h₂⟩ := h
  obtain ⟨first, carried₁, rfl⟩ := sendRegistrations_carried h₁
  obtain ⟨second, carried₂, rfl⟩ := sendDelegations_carried h₂
  refine ⟨fun | .registry => t₁ | .delegationLedger => t₂,
    fun | .registry => first | .delegationLedger => second, rfl, fun a => ?_, rfl⟩
  cases a with
  | registry => exact carried₁
  | delegationLedger => exact carried₂.congr Plan.keys_record Plan.callData_record

theorem dispatch_map_pubkey (h : (d.dispatch plan).Yields t (.ok (), plan')) :
    plan'.results.map (·.pubkey) = plan.results.map (·.pubkey) := by
  obtain ⟨part, attempt, -, -, rfl⟩ := dispatch_carried h
  rw [Plan.dispatched, Plan.map_pubkey_record, Plan.map_pubkey_record]

/-! ## What sending can come to ask -/

def Asking (d : Dispatcher) (plan : Plan) (q : Ask) : Prop :=
  q.Sends (d.Broadcasts plan) ∨ ∃ a n status, q = .observe (.dispatched a n status)

theorem sendBatch_asks {a : Authority} {target : Address} {data : Bytes} {keys : List PublicKey}
    (h : ∀ raw, d.gateway.Carries target data raw → d.Broadcasts plan raw) (plan' : Plan) :
    (d.sendBatch a target data keys plan').Asks (d.Asking plan) := by
  refine ((Gateway.sendAndConfirm_sends ..).imp fun q hq => .inl ?_).bind fun attempt =>
    ⟨.inr ⟨_, _, _, rfl⟩, fun _ => trivial⟩
  exact hq.imp h

theorem sendRegistrations_asks (d : Dispatcher) (plan : Plan) :
    (d.sendRegistrations plan).Asks (d.Asking plan) := by
  unfold sendRegistrations
  split
  · trivial
  · rename_i hb
    refine sendBatch_asks (fun raw carries => ⟨.registry, d.registry, rfl, ?_, carries⟩) plan
    simpa [Plan.keys] using hb

theorem sendDelegations_asks (d : Dispatcher) (plan : Plan) :
    (d.sendDelegations plan).Asks (d.Asking plan) := by
  unfold sendDelegations
  split
  · trivial
  rename_i hb
  split
  · trivial
  · rename_i ledger hd
    refine (sendBatch_asks (fun raw carries => ⟨.delegationLedger, ledger, hd, ?_, carries⟩)
      plan).bind fun _ => trivial
    simpa [Plan.keys] using hb

/-- Whatever is answered, sending a plan broadcasts nothing but its batches. -/
theorem dispatch_asks (d : Dispatcher) (plan : Plan) :
    (d.dispatch plan).Asks (d.Asking plan) := by
  refine (sendRegistrations_asks d plan).bind_of_yields fun t plan₁ h => ?_
  obtain ⟨attempt, -, rfl⟩ := sendRegistrations_carried h
  refine (sendDelegations_asks d _).imp fun q hq => hq.imp_left fun hq => hq.imp fun raw => ?_
  rintro ⟨a, target, ht, hk, carries⟩
  rw [Plan.keys_record] at hk
  rw [Plan.callData_record] at carries
  exact ⟨a, target, ht, hk, carries⟩

end Dispatcher

end Registrar
