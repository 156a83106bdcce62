import Registrar.Proofs.Call
import Registrar.Proofs.Pool
import Mathlib.Algebra.Ring.Nat

/-! Which identities reach the authorities: whatever a call broadcasts is the batch of one of its
chunks, and every row of it was read to be due, admitted, and signed for. -/
namespace Registrar
set_option autoImplicit false

open Contract
open Program

namespace Engine

variable {e : Engine} {exclusions : ExclusionTable}

/-! ## Rows of one chunk -/

theorem ChunkRun.registrable (run : ChunkRun e exclusions) :
    ∀ row ∈ run.plan.registryBatch,
      Reconciler.Registrable exclusions run.statuses row.pubkey :=
  (Reconciler.reconcile_rows run.plans).1

theorem ChunkRun.delegable (run : ChunkRun e exclusions) :
    ∀ row ∈ run.plan.delegationBatch,
      Reconciler.Delegable e.signer exclusions run.statuses run.plan.registryBatch run.planning
        row :=
  (Reconciler.reconcile_rows run.plans).2

/-- What a chunk broadcasts is its batch for the registry or its batch for the ledger. -/
theorem ChunkRun.broadcasts (run : ChunkRun e exclusions) {raw : Bytes}
    {answer : (Ask.node (.sendRaw raw)).Answer} (h : ⟨.node (.sendRaw raw), answer⟩ ∈ run.sending) :
    e.gateway.Carries e.settings.registry (Registry.encodeBatch run.plan.registryBatch) raw ∨
      ∃ ledger, e.settings.delegation = some ledger ∧
        e.gateway.Carries ledger (Ledger.encodeBatch run.plan.delegationBatch) raw := by
  have asking := (Dispatcher.dispatch_asks e.dispatcher run.plan).question_of_begins run.sends _ h
  obtain sends | ⟨a, n, status, hq⟩ := asking
  · obtain ⟨a, target, ht, -, carries⟩ := sends.broadcasts rfl
    cases a with
    | registry =>
      obtain rfl := Option.some.inj ht
      exact .inl carries
    | delegationLedger => exact .inr ⟨target, ht, carries⟩
  · cases hq

/-! ## A call that registers one identity -/

open Gateway

/-- An engine without ledger, whose source knows no identity. -/
def freshEngine : Engine where
  gateway := hastyGateway sampleKey
  settings := { maxBatchSize := 1, registry := .zero, delegation := none, payoutOverride := none }
  statuses := ⟨fun _ _ => .done (.ok .empty), fun _ _ => trivial⟩
  canResign := false
  canAuthorize := false

def sampleIntent (b : UInt8) : SignedRegistration :=
  ⟨⟨.zero, 0, 0, .replicate 48 b⟩, .zero⟩

/-- Two identities, the first of them twice, the other one excluded. -/
def sampleIntents : List SignedRegistration :=
  [sampleIntent 0, sampleIntent 1, sampleIntent 0]

def samplePlan : Plan :=
  Plan.rowsFor (.unchanged (sampleIntent 0)) (.unregistered false) freshEngine.signer .zero none

def sampleFinal (hash : Word) : Plan :=
  samplePlan.applyStatus .registry [.replicate 48 0] (sampleAttempt hash false).status

def sampleCall : Transaction :=
  hastyCall .zero (Registry.encodeBatch samplePlan.registryBatch)

theorem run_dispatch_sample {raw : Bytes} (signed : sampleCall.sign? sampleKey = some raw) :
    (freshEngine.dispatcher.dispatch samplePlan).run (takingNode false) [] =
      (some (.ok (), sampleFinal (Transaction.hashRaw raw)), [raw]) := by
  have registrations : (freshEngine.dispatcher.sendRegistrations samplePlan).run
      (takingNode false) [] = (some (sampleFinal (Transaction.hashRaw raw)), [raw]) := by
    change (freshEngine.dispatcher.sendBatch .registry .zero
      (Registry.encodeBatch samplePlan.registryBatch) [.replicate 48 0] samplePlan).run _ _ = _
    rw [Dispatcher.sendBatch]
    exact run_bind_of_run (run_attempt_hasty "registry" false signed)
  rw [Dispatcher.dispatch, run_bind_of_run registrations]
  rfl

theorem run_processChunk_sample {raw : Bytes} (signed : sampleCall.sign? sampleKey = some raw) :
    (freshEngine.processChunk sampleExclusions [sampleIntent 0]).run (takingNode false) [] =
      (some (.ok (sampleFinal (Transaction.hashRaw raw)).results), [raw]) := by
  have reads : (freshEngine.readStatuses [(sampleIntent 0).pubkey]).run (takingNode false) [] =
      (some (.ok ⟨.empty, none⟩), []) := rfl
  have prepares : (freshEngine.prepare sampleExclusions ⟨.empty, none⟩ [sampleIntent 0]).run
      (takingNode false) [] = (some [.unchanged (sampleIntent 0)], []) := rfl
  have plans : (freshEngine.reconciler.reconcile sampleExclusions ⟨.empty, none⟩
      [.unchanged (sampleIntent 0)]).run (takingNode false) [] = (some samplePlan, []) := rfl
  unfold processChunk
  refine (run_bind_of_run reads).trans ?_
  refine (run_bind_of_run prepares).trans ?_
  refine (run_bind_of_run plans).trans ?_
  exact run_bind_of_run (run_dispatch_sample signed)

theorem run_processRegistrations_sample {raw : Bytes}
    (signed : sampleCall.sign? sampleKey = some raw) :
    (freshEngine.processRegistrations sampleIntents).run (takingNode false) [] =
      (some (.ok (sampleFinal (Transaction.hashRaw raw)).results), [raw]) := by
  have chunks : (freshEngine.processChunks sampleExclusions
      (freshEngine.chunksOf sampleIntents)).run (takingNode false) [] =
        (some (.ok (sampleFinal (Transaction.hashRaw raw)).results), [raw]) := by
    change (freshEngine.processChunks sampleExclusions
      [[sampleIntent 0], [sampleIntent 1]]).run _ _ = _
    rw [processChunks, run_bind_of_run (run_processChunk_sample signed)]
    rfl
  have acquired : (request (.acquire .session)).run (takingNode false) [] = (some (), []) := rfl
  have excluded : (request .exclusions).run (takingNode false) [] =
      (some sampleExclusions, []) := rfl
  change (request (.acquire .session) >>= _).run _ _ = _
  rw [run_bind_of_run acquired, run_bind_of_run excluded, run_bind_of_run chunks]
  rfl

set_option maxRecDepth 100000 in
theorem sampleCall_signed_short :
    ∃ raw, sampleCall.sign? sampleKey = some raw ∧ raw.length < 2 ^ 64 := by
  have signed : ((sampleCall.sign? sampleKey).any fun raw => raw.length < 2 ^ 64) = true := by
    decide +kernel
  obtain ⟨raw, same, short⟩ := (Option.any_eq_true ..).1 signed
  exact ⟨raw, same, of_decide_eq_true short⟩

theorem sampleCall_signed : ∃ raw, sampleCall.sign? sampleKey = some raw := by
  obtain ⟨raw, signed, -⟩ := sampleCall_signed_short
  exact ⟨raw, signed⟩

theorem exists_broadcast_sample {raw : Bytes} (signed : sampleCall.sign? sampleKey = some raw) :
    ∃ raw answer, ⟨.node (.sendRaw raw), answer⟩ ∈
      (freshEngine.processRegistrations sampleIntents).transcript (takingNode false) [] := by
  have run := run_processRegistrations_sample signed
  have loud : ¬Silent ((freshEngine.processRegistrations sampleIntents).transcript
      (takingNode false) []) := by
    intro silent
    have state : after (takingNode false) _ [] = [raw] :=
      (run_state ..).symm.trans (congrArg Prod.snd run)
    have held : InPool [raw] (Transaction.hashRaw raw) := ⟨raw, List.mem_singleton_self raw, rfl⟩
    obtain ⟨other, hother, -⟩ := (holding_takingNode false).before silent (state.symm ▸ held)
    exact List.not_mem_nil hother
  simp only [Silent, Ask.Quiet, not_forall, not_not] at loud
  obtain ⟨⟨q, answer⟩, hx, raw, rfl⟩ := loud
  exact ⟨raw, answer, hx⟩

/-! ## Rows of a call -/

/-- Every row of the batches planned for a chunk, whatever was answered: each row for the registry
is of an identity that neither authority was read to know and that is not excluded. Each row for the
ledger is of one that the ledger was read not to know and that is not excluded from it, with the
signature that was given for it and for the engine's account, and the registry was read to know the
identity under that account or is sent it in the same chunk. And whatever a call has broadcast,
wherever it stands, carries the batch of one of its chunks, read and planned for against the
exclusion list of the call. -/
theorem processRegistrations_rows (e : Engine) (intents : List SignedRegistration) :
    (∀ (exclusions : ExclusionTable) (run : ChunkRun e exclusions),
      run.statuses.delegation.isSome = e.settings.delegation.isSome ∧
      (∀ row ∈ run.plan.registryBatch,
        Reconciler.Registrable exclusions run.statuses row.pubkey) ∧
      ∀ row ∈ run.plan.delegationBatch,
        Reconciler.Delegable e.signer exclusions run.statuses run.plan.registryBatch run.planning
          row) ∧
    ∀ (t : List Exchange) (raw : Bytes) (answer : (Ask.node (.sendRaw raw)).Answer),
      (e.processRegistrations intents).Begins t → ⟨.node (.sendRaw raw), answer⟩ ∈ t →
      ∃ exclusions, ⟨.exclusions, exclusions⟩ ∈ t ∧ ∃ run : ChunkRun e exclusions,
        run.chunk ∈ e.chunksOf intents ∧ run.exchanges <:+: t ∧
        ⟨.node (.sendRaw raw), answer⟩ ∈ run.sending ∧
        (e.gateway.Carries e.settings.registry (Registry.encodeBatch run.plan.registryBatch) raw ∨
          ∃ ledger, e.settings.delegation = some ledger ∧
            e.gateway.Carries ledger (Ledger.encodeBatch run.plan.delegationBatch) raw) := by
  refine ⟨fun exclusions run => ?_, fun t raw answer h sent => ?_⟩
  · exact ⟨readStatuses_delegation run.reads, run.registrable, run.delegable⟩
  · have loud : ¬(Ask.node (.sendRaw raw)).Quiet := fun quiet => quiet raw rfl
    obtain ⟨exclusions, read, run, hchunk, hrun, hsending⟩ :=
      processRegistrations_begins h _ sent loud
    exact ⟨exclusions, read, run, hchunk, hrun, hsending, run.broadcasts hsending⟩

/-- What the sample call broadcasts is the batch of its one chunk. -/
theorem processRegistrations_rows_sample :
    ∃ (t : List Exchange) (raw : Bytes) (answer : (Ask.node (.sendRaw raw)).Answer),
      (freshEngine.processRegistrations sampleIntents).Begins t ∧
      ⟨.node (.sendRaw raw), answer⟩ ∈ t ∧
      ∃ exclusions, ⟨.exclusions, exclusions⟩ ∈ t ∧ ∃ run : ChunkRun freshEngine exclusions,
        run.chunk ∈ freshEngine.chunksOf sampleIntents ∧ run.exchanges <:+: t ∧
        ⟨.node (.sendRaw raw), answer⟩ ∈ run.sending ∧
        (freshEngine.gateway.Carries freshEngine.settings.registry
            (Registry.encodeBatch run.plan.registryBatch) raw ∨
          ∃ ledger, freshEngine.settings.delegation = some ledger ∧
            freshEngine.gateway.Carries ledger (Ledger.encodeBatch run.plan.delegationBatch)
              raw) := by
  obtain ⟨raw, signed⟩ := sampleCall_signed
  have yields := yields_transcript (takingNode false) _ []
    (congrArg Prod.fst (run_processRegistrations_sample signed))
  obtain ⟨raw, answer, sent⟩ := exists_broadcast_sample signed
  exact ⟨_, raw, answer, yields.begins, sent,
    (processRegistrations_rows freshEngine sampleIntents).2 _ raw answer yields.begins sent⟩

end Engine

end Registrar
