import Registrar.Proofs.Accounting

/-! What the results of a call tell is so: each status stands for what was read, or for the one
attempt that carried the row of its identity. -/
namespace Registrar
set_option autoImplicit false

open Program

/-! ## Statuses of attempts -/

def DispatchStatus.isAttempted : DispatchStatus → Bool
  | confirmed _ | failed .. | unknown .. => true
  | notRequired | alreadySatisfied => false

theorem TxAttempt.isAttempted_status (a : TxAttempt) : a.status.isAttempted = true := by
  unfold status
  split
  · rfl
  · rfl
  split <;> rfl

theorem DispatchStatus.ne_of_isAttempted {s : DispatchStatus} (h : s.isAttempted = true) :
    s ≠ .notRequired ∧ s ≠ .alreadySatisfied := by
  constructor
  · rintro rfl
    cases h
  · rintro rfl
    cases h

/-- An attempt counts as confirmed only when its own transaction was broadcast and a receipt told
that it succeeded. -/
theorem Gateway.Attempted.of_confirmed {g : Gateway} {target : Address} {data : Bytes}
    {t : List Exchange} {a : TxAttempt} {hash : Word} (h : Attempted g target data t a)
    (confirmed : a.status = .confirmed hash) :
    ∃ raw, Transaction.hashRaw raw = hash ∧ g.Carries target data raw ∧
      (∃ answer, ⟨.node (.sendRaw raw), answer⟩ ∈ t) ∧
      ∃ receipt, ⟨.node (.receipt hash), .ok (some receipt)⟩ ∈ t ∧ receipt.success = true := by
  have failing {h : Option Word} {phase : Phase} {e : Error}
      (confirmed : (TxAttempt.mk h phase (.error e)).status = .confirmed hash) : False := by
    unfold TxAttempt.status at confirmed
    dsimp only at confirmed
    split at confirmed <;> cases confirmed
  cases h with
  | unsent building e looking unsigned => exact (failing confirmed).elim
  | refused building sending tx e looking carries refused => exact (failing confirmed).elim
  | followed building sending waiting tx result phase looking carries submitted waited =>
    cases waited with
    | reverted idle receipt hidle hr => exact (failing confirmed).elim
    | cancelled idle reason hidle => exact (failing confirmed).elim
    | confirmed idle receipt hidle hr =>
      cases confirmed
      refine ⟨tx.raw, rfl, carries, ?_, receipt, by simp, hr⟩
      cases submitted with
      | taken echoed => exact ⟨.ok echoed, by simp⟩
      | known e seen => exact ⟨.error e, by simp⟩

/-! ## Results of one chunk -/

/-- The batch for the authority has a row for the identity and the payout recipient. -/
def Plan.HasRow (p : Plan) (k : PublicKey) (payout : Address) : Authority → Prop
  | .registry => ∃ row ∈ p.registryBatch, row.pubkey = k ∧ row.payoutRecipient = payout
  | .delegationLedger => ∃ row ∈ p.delegationBatch, row.pubkey = k ∧ row.payoutRecipient = payout

theorem Reconciler.Foretold.hasRow {statuses : StatusSnapshot} {plan : Plan}
    {result : ReconciliationResult} (h : Foretold statuses plan result) {a : Authority}
    (hk : result.pubkey ∈ plan.keys a) : plan.HasRow result.pubkey result.payoutRecipient a := by
  cases a with
  | registry =>
    obtain ⟨row, hrow, same⟩ := List.mem_map.1 hk
    exact ⟨row, hrow, same, h.registryPayout row hrow same⟩
  | delegationLedger =>
    obtain ⟨row, hrow, same⟩ := List.mem_map.1 hk
    exact ⟨row, hrow, same, h.delegationPayout row hrow same⟩

theorem Reconciler.Foretold.isAttempted {statuses : StatusSnapshot} {plan : Plan}
    {result : ReconciliationResult} (h : Foretold statuses plan result) (a : Authority) :
    (result.status a).isAttempted = false := by
  cases a with
  | registry =>
    rw [ReconciliationResult.status, h.registry]
    split <;> rfl
  | delegationLedger =>
    rw [ReconciliationResult.status]
    obtain ⟨status, -⟩ | ⟨status, -⟩ := h.delegation <;> rw [status] <;> rfl

/-- The registry's part of a result, once the statuses of identities in the batch have changed. -/
theorem Reconciler.Foretold.registry_status {statuses : StatusSnapshot} {plan : Plan}
    {before : ReconciliationResult} {status : DispatchStatus} (h : Foretold statuses plan before)
    (kept : before.pubkey ∉ plan.keys .registry → status = before.registry)
    (changed : before.pubkey ∈ plan.keys .registry → status.isAttempted = true) :
    status ≠ .notRequired ∧ (status = .alreadySatisfied ↔
      (statuses.registry.status before.pubkey).isUnregistered = false) := by
  cases hr : (statuses.registry.status before.pubkey).isUnregistered with
  | true =>
    obtain ⟨required, unsatisfied⟩ :=
      DispatchStatus.ne_of_isAttempted (changed (h.registryRow.2 hr))
    exact ⟨required, iff_of_false unsatisfied nofun⟩
  | false =>
    have absent : before.pubkey ∉ plan.keys .registry := by
      intro present
      cases hr.symm.trans (h.registryRow.1 present)
    rw [kept absent, h.registry, hr]
    exact ⟨nofun, iff_of_true rfl rfl⟩

theorem Reconciler.Foretold.delegation_status {statuses : StatusSnapshot} {plan : Plan}
    {before : ReconciliationResult} {status : DispatchStatus} (h : Foretold statuses plan before)
    (kept : before.pubkey ∉ plan.keys .delegationLedger → status = before.delegation)
    (changed : before.pubkey ∈ plan.keys .delegationLedger → status.isAttempted = true) :
    (status = .alreadySatisfied ↔ KnownToBoth statuses before.pubkey) ∧
      (status = .notRequired ↔ before.pubkey ∉ plan.keys .delegationLedger ∧
        ∀ ledger ∈ statuses.delegation, (ledger.status before.pubkey).isUnregistered = true) := by
  obtain ⟨satisfied, known, absent⟩ | ⟨unrequired, unknown⟩ := h.delegation
  · rw [kept absent, satisfied]
    refine ⟨iff_of_true rfl known, iff_of_false nofun fun ⟨_, unknown⟩ => ?_⟩
    obtain ⟨-, ledger, hl, registered⟩ := known
    cases registered.symm.trans (unknown ledger hl)
  · have fresh : ¬KnownToBoth statuses before.pubkey := by
      rintro ⟨-, ledger, hl, registered⟩
      cases registered.symm.trans (unknown ledger hl)
    by_cases hk : before.pubkey ∈ plan.keys .delegationLedger
    · obtain ⟨required, unsatisfied⟩ := DispatchStatus.ne_of_isAttempted (changed hk)
      exact ⟨iff_of_false unsatisfied fresh, iff_of_false required fun ⟨absent, _⟩ => absent hk⟩
    · rw [kept hk, unrequired]
      exact ⟨iff_of_false nofun fresh, iff_of_true rfl ⟨hk, unknown⟩⟩

theorem Dispatcher.Carried.some_of_mem {d : Dispatcher} {plan : Plan} {a : Authority}
    {t : List Exchange} {attempt : Option TxAttempt} (h : Carried d plan a t attempt)
    {k : PublicKey} (hk : k ∈ plan.keys a) : ∃ sent, attempt = some sent := by
  cases h with
  | nothing none =>
    rw [none] at hk
    cases hk
  | attempted target t sent h ht ha => exact ⟨sent, rfl⟩

/-- What it takes for the status of an attempt to be that its transaction is confirmed. -/
theorem Dispatcher.Carried.of_confirmed {d : Dispatcher} {plan : Plan} {a : Authority}
    {t : List Exchange} {sent : TxAttempt} {hash : Word} (h : Carried d plan a t (some sent))
    (confirmed : sent.status = .confirmed hash) :
    ∃ target raw receipt, d.target? a = some target ∧ Transaction.hashRaw raw = hash ∧
      d.gateway.Carries target (plan.callData a) raw ∧
      (∃ answer, ⟨.node (.sendRaw raw), answer⟩ ∈ t) ∧
      ⟨.node (.receipt hash), .ok (some receipt)⟩ ∈ t ∧ receipt.success = true := by
  cases h with
  | attempted target t sent h ht ha =>
    obtain ⟨raw, hraw, carries, ⟨answer, sending⟩, receipt, received, success⟩ :=
      ha.of_confirmed confirmed
    exact ⟨target, raw, receipt, ht, hraw, carries, ⟨answer, List.mem_append_left _ sending⟩,
      List.mem_append_left _ received, success⟩

namespace Engine

variable {e : Engine} {exclusions : ExclusionTable}

open Reconciler (KnownToBoth Foretold)

/-- What a result tells is so, by the run of its chunk, the attempt that carried each batch, and the
exchanges of that attempt. -/
structure Sound (run : FinishedRun e exclusions) (part : Authority → List Exchange)
    (attempt : Authority → Option TxAttempt) (result : ReconciliationResult) : Prop where
  attempted : ∀ a, (result.status a).isAttempted = true ↔ result.pubkey ∈ run.plan.keys a
  outcome : ∀ a, result.pubkey ∈ run.plan.keys a →
    ∃ sent, attempt a = some sent ∧ result.status a = sent.status
  confirmed : ∀ a hash, result.status a = .confirmed hash →
    ∃ target raw receipt, e.dispatcher.target? a = some target ∧
      Transaction.hashRaw raw = hash ∧ e.gateway.Carries target (run.plan.callData a) raw ∧
      run.plan.HasRow result.pubkey result.payoutRecipient a ∧
      (∃ answer, ⟨.node (.sendRaw raw), answer⟩ ∈ part a) ∧
      ⟨.node (.receipt hash), .ok (some receipt)⟩ ∈ part a ∧ receipt.success = true
  registryRequired : result.registry ≠ .notRequired
  registrySatisfied : result.registry = .alreadySatisfied ↔
    (run.statuses.registry.status result.pubkey).isUnregistered = false
  delegationSatisfied : result.delegation = .alreadySatisfied ↔
    KnownToBoth run.statuses result.pubkey
  delegationNotRequired : result.delegation = .notRequired ↔
    result.pubkey ∉ run.plan.keys .delegationLedger ∧
      ∀ ledger ∈ run.statuses.delegation, (ledger.status result.pubkey).isUnregistered = true
  signature : ∀ s, result.secondarySignature = some s ↔
    ∃ row ∈ run.plan.delegationBatch, row.pubkey = result.pubkey ∧ row.signature = s
  inStep : result.InStep

theorem FinishedRun.foretold (run : FinishedRun e exclusions)
    (nodup : (run.chunk.map (·.pubkey)).Nodup) :
    ∀ result ∈ run.plan.results, Foretold run.statuses run.plan result :=
  Reconciler.reconcile_foretold run.plans ((prepare_accounts run.prepares).sublist.nodup nodup)

/-- In a chunk where each identity comes once, every result is sound. -/
theorem FinishedRun.sound (run : FinishedRun e exclusions)
    (nodup : (run.chunk.map (·.pubkey)).Nodup) :
    ∃ (part : Authority → List Exchange) (attempt : Authority → Option TxAttempt),
      run.sending = part .registry ++ part .delegationLedger ∧
      (∀ a, Dispatcher.Carried e.dispatcher run.plan a (part a) (attempt a)) ∧
      ∀ result ∈ run.final.results, Sound run part attempt result := by
  obtain ⟨part, attempt, sending, carried, final⟩ := Dispatcher.dispatch_carried run.finishes
  refine ⟨part, attempt, sending, carried, fun result hresult => ?_⟩
  rw [final] at hresult
  obtain ⟨before, hbefore, pubkey, payout, signature, inStep, kept, changed⟩ :=
    Plan.mem_results_dispatched hresult
  have foretold := run.foretold nodup before hbefore
  have outcome (a : Authority) (hk : before.pubkey ∈ run.plan.keys a) :
      ∃ sent, attempt a = some sent ∧ result.status a = sent.status := by
    obtain ⟨sent, hsent⟩ := (carried a).some_of_mem hk
    exact ⟨sent, hsent, changed a sent hk hsent⟩
  have attempted (a : Authority) :
      (result.status a).isAttempted = true ↔ before.pubkey ∈ run.plan.keys a := by
    by_cases hk : before.pubkey ∈ run.plan.keys a
    · obtain ⟨sent, -, status⟩ := outcome a hk
      simp [status, sent.isAttempted_status, hk]
    · simp [kept a hk, foretold.isAttempted a, hk]
  have registry := foretold.registry_status (kept .registry) (attempted .registry).2
  have delegation :=
    foretold.delegation_status (kept .delegationLedger) (attempted .delegationLedger).2
  -- recording leaves the identity as it was, so all this can be said of the recorded result
  rw [← pubkey] at outcome attempted registry delegation
  constructor
  · exact attempted
  · exact outcome
  · intro a hash confirmed
    have hk : result.pubkey ∈ run.plan.keys a := (attempted a).1 (by rw [confirmed]; rfl)
    obtain ⟨sent, hsent, status⟩ := outcome a hk
    have carriedBy := carried a
    rw [hsent] at carriedBy
    obtain ⟨target, raw, receipt, ht, hraw, carries, sending, received, success⟩ :=
      carriedBy.of_confirmed (status.symm.trans confirmed)
    rw [pubkey] at hk
    rw [pubkey, payout]
    exact ⟨target, raw, receipt, ht, hraw, carries, foretold.hasRow hk, sending, received, success⟩
  · exact registry.1
  · exact registry.2
  · exact delegation.1
  · exact delegation.2
  · intro s
    rw [signature, pubkey]
    exact foretold.signature s
  · exact inStep foretold.inStep

/-! ## Results of a call -/

theorem nodup_of_mem_chunksOf {intents chunk : List SignedRegistration}
    (h : chunk ∈ e.chunksOf intents) : (chunk.map (·.pubkey)).Nodup := by
  have sublist := (List.sublist_flatten_of_mem h).map (·.pubkey)
  rw [map_pubkey_chunksOf] at sublist
  exact sublist.nodup (nodup_eraseDups _)

/-- Every result of a call that gives results is sound: the chunk of its identity was read, planned
for and sent, each batch of it by a single attempt, and the result tells what was read and how those
attempts ended. -/
theorem processRegistrations_sound {intents : List SignedRegistration} {t : List Exchange}
    {results : List ReconciliationResult}
    (h : (e.processRegistrations intents).Yields t (.ok results)) :
    ∀ result ∈ results, ∃ exclusions, ⟨.exclusions, exclusions⟩ ∈ t ∧
      ∃ (run : FinishedRun e exclusions) (part : Authority → List Exchange)
        (attempt : Authority → Option TxAttempt),
        run.chunk ∈ e.chunksOf intents ∧ run.exchanges <:+: t ∧ result ∈ run.final.results ∧
        run.sending = part .registry ++ part .delegationLedger ∧
        (∀ a, Dispatcher.Carried e.dispatcher run.plan a (part a) (attempt a)) ∧
        Sound run part attempt result := by
  intro result hresult
  obtain ⟨rfl, rfl, rfl⟩ | ⟨exclusions, runs, hruns, rfl, rfl⟩ := processRegistrations_yields h
  · exact absurd hresult List.not_mem_nil
  obtain ⟨run, hrun, hresult⟩ := List.mem_flatMap.1 hresult
  have hchunk : run.chunk ∈ e.chunksOf intents := hruns ▸ List.mem_map_of_mem hrun
  obtain ⟨part, attempt, sending, carried, sound⟩ := run.sound (nodup_of_mem_chunksOf hchunk)
  refine ⟨exclusions, by simp, run, part, attempt, hchunk, ?_, hresult, sending, carried,
    sound result hresult⟩
  have inside : run.exchanges <:+: runs.flatMap (·.exchanges) :=
    List.infix_of_mem_flatten (List.mem_map_of_mem hrun)
  refine inside.trans ⟨[⟨.acquire .session, ()⟩, ⟨.exclusions, exclusions⟩],
    [⟨.release .session, ()⟩], rfl⟩

/-- The sample call gives one result. -/
theorem processRegistrations_sound_sample :
    ∃ (t : List Exchange) (results : List ReconciliationResult),
      (freshEngine.processRegistrations sampleIntents).Yields t (.ok results) ∧ results ≠ [] ∧
      ∀ result ∈ results, ∃ exclusions, ⟨.exclusions, exclusions⟩ ∈ t ∧
        ∃ (run : FinishedRun freshEngine exclusions) (part : Authority → List Exchange)
          (attempt : Authority → Option TxAttempt),
          run.chunk ∈ freshEngine.chunksOf sampleIntents ∧ run.exchanges <:+: t ∧
          result ∈ run.final.results ∧
          run.sending = part .registry ++ part .delegationLedger ∧
          (∀ a, Dispatcher.Carried freshEngine.dispatcher run.plan a (part a) (attempt a)) ∧
          Sound run part attempt result := by
  obtain ⟨raw, signed⟩ := sampleCall_signed
  have yields := yields_transcript (Gateway.takingNode false) _ []
    (congrArg Prod.fst (run_processRegistrations_sample signed))
  exact ⟨_, _, yields, List.cons_ne_nil _ _, processRegistrations_sound yields⟩

end Engine

end Registrar
