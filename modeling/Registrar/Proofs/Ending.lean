import Registrar.Proofs.Holdings
import Registrar.Proofs.RowSafety

/-! How calls for registrations come to an end: a call is without a result only when an attempt is,
and sending a chunk never fails. -/
namespace Registrar
set_option autoImplicit false

open Program

/-! ## Readings -/

/-- Every look-up succeeds: no aggregate fails that cannot be halved any more, and none for another
reason than its size. -/
def StatusReader.Served (reader : StatusReader) (t : List Exchange) : Prop :=
  ∀ a target (read : AggregateRead), reader.target a = .ok target →
    read.exchange reader.gateway.settings.multicall target a ∈ t → ¬read.Fails

theorem StatusReader.Served.mono {reader : StatusReader} {t t' : List Exchange}
    (h : reader.Served t') (ht : t ⊆ t') : reader.Served t :=
  fun a target read htarget hx => h a target read htarget (ht hx)

namespace Engine

variable {e : Engine} {reader : StatusReader} {exclusions : ExclusionTable} {t : List Exchange}

theorem readStatuses_not_stalls (through : e.ReadsThrough reader) (keys : List PublicKey) :
    ∀ t, ¬(e.readStatuses keys).Stalls t := by
  have read (a : Authority) : ∀ t, ¬(e.statuses.read keys a).Stalls t := by
    rw [through.read_eq]
    exact fun _ => StatusReader.batchStatus_not_stalls
  unfold readStatuses
  refine not_stalls_monad_bind (read .registry) fun registry => ?_
  cases registry with
  | error err => exact fun _ => id
  | ok registry =>
  dsimp only
  split
  · exact fun _ => id
  refine not_stalls_monad_bind (read .delegationLedger) fun delegation => ?_
  cases delegation <;> exact fun _ => id

/-! ## Preparing and planning always end -/

theorem prepareOne_not_stalls (e : Engine) (exclusions : ExclusionTable)
    (statuses : StatusSnapshot) (intent : SignedRegistration) (listing : Listing) :
    ∀ t, ¬(e.prepareOne exclusions statuses intent listing).Stalls t := by
  unfold prepareOne
  cases e.overrideFor exclusions statuses intent with
  | none => exact fun _ => id
  | some payout =>
  dsimp only
  split
  · exact fun _ => id
  have listed : ∀ t, ¬(Engine.listed listing).Stalls t := by
    cases listing with
    | some keys => exact fun _ => id
    | none =>
      refine not_stalls_monad_bind (not_stalls_request _) fun answer => ?_
      cases answer <;> exact fun _ => id
  refine not_stalls_monad_bind listed fun keys => ?_
  split
  · refine not_stalls_monad_bind ?_ fun _ _ => id
    refine not_stalls_monad_bind (not_stalls_request _) fun answer => ?_
    have dropped := not_stalls_monad_bind (f := fun _ => pure (none : Option PreparedRegistration))
      (not_stalls_request (.observe (.omitted intent.pubkey .resign))) fun _ _ => id
    cases answer with
    | error err => exact dropped
    | ok signed =>
      dsimp only
      split
      · exact fun _ => id
      · exact dropped
  · exact fun _ => id

theorem prepare_not_stalls (e : Engine) (exclusions : ExclusionTable) (statuses : StatusSnapshot)
    (chunk : List SignedRegistration) : ∀ t, ¬(e.prepare exclusions statuses chunk).Stalls t := by
  unfold prepare
  generalize (none : Listing) = listing
  induction chunk generalizing listing with
  | nil => exact fun _ => id
  | cons intent rest ih =>
    refine not_stalls_monad_bind (prepareOne_not_stalls e exclusions statuses intent listing)
      fun ⟨prepared, listing⟩ => ?_
    exact not_stalls_monad_bind (ih listing) fun _ _ => id

theorem planOne_not_stalls (r : Reconciler) (exclusions : ExclusionTable)
    (statuses : StatusSnapshot) (prepared : PreparedRegistration) :
    ∀ t, ¬(r.planOne exclusions statuses prepared).Stalls t := by
  unfold Reconciler.planOne
  dsimp only
  refine not_stalls_monad_bind (not_stalls_request _) fun _ => ?_
  have left (reason : Omission) := not_stalls_monad_bind (f := fun _ => pure Plan.empty)
    (not_stalls_request (.observe (.omitted prepared.pubkey reason))) fun _ _ => id
  cases Plan.omission? (classify (statuses.identity prepared.pubkey)
    (exclusions.entry prepared.pubkey) r.signer) with
  | some reason => exact left reason
  | none =>
  dsimp only
  split
  · refine not_stalls_monad_bind ?_ fun answer => ?_
    · unfold Reconciler.secondarySignature
      split
      · exact not_stalls_request _
      · exact fun _ => id
    · cases answer with
      | error err => exact left .secondarySignature
      | ok signature => exact fun _ => id
  · exact fun _ => id

theorem reconcile_not_stalls (r : Reconciler) (exclusions : ExclusionTable)
    (statuses : StatusSnapshot) (chunk : List PreparedRegistration) :
    ∀ t, ¬(r.reconcile exclusions statuses chunk).Stalls t := by
  induction chunk with
  | nil => exact fun _ => id
  | cons prepared rest ih =>
    refine not_stalls_monad_bind (planOne_not_stalls r exclusions statuses prepared) fun first => ?_
    exact not_stalls_monad_bind ih fun _ _ => id

/-! ## Calls without a result -/

theorem processChunk_stalls (through : e.ReadsThrough reader) {chunk : List SignedRegistration}
    (h : (e.processChunk exclusions chunk).Stalls t) :
    ∃ run : ChunkRun e exclusions, run.chunk = chunk ∧ run.exchanges = t ∧
      (e.dispatcher.dispatch run.plan).Stalls run.sending := by
  unfold processChunk at h
  obtain ⟨reading, t, read, rfl, hread, h⟩ := h.of_bind (readStatuses_not_stalls through _)
  cases read with
  | error err => exact h.elim
  | ok statuses =>
  obtain ⟨preparing, t, prepared, rfl, hprep, h⟩ :=
    Stalls.of_bind h (prepare_not_stalls e exclusions statuses chunk)
  obtain ⟨planning, t, plan, rfl, hplan, h⟩ :=
    h.of_bind (reconcile_not_stalls e.reconciler exclusions statuses prepared)
  obtain h | ⟨sending, v, ⟨sent, final⟩, -, -, h⟩ := stalls_monad_bind.1 h
  · refine ⟨⟨chunk, statuses, prepared, plan, reading, preparing, planning, t, hread, hprep, hplan,
      h.begins⟩, rfl, ?_, h⟩
    simp [ChunkRun.exchanges]
  · cases sent <;> exact h.elim

theorem processChunks_stalls (through : e.ReadsThrough reader)
    {chunks : List (List SignedRegistration)} (h : (e.processChunks exclusions chunks).Stalls t) :
    ∃ (run : ChunkRun e exclusions) (before : List Exchange), run.chunk ∈ chunks ∧
      t = before ++ run.exchanges ∧ (e.dispatcher.dispatch run.plan).Stalls run.sending := by
  induction chunks generalizing t with
  | nil => exact h.elim
  | cons chunk rest ih =>
    rw [processChunks] at h
    obtain h | ⟨u, v, answer, rfl, -, h⟩ := stalls_monad_bind.1 h
    · obtain ⟨run, rfl, rfl, stalls⟩ := processChunk_stalls through h
      exact ⟨run, [], List.mem_cons_self, rfl, stalls⟩
    cases answer with
    | error err => exact h.elim
    | ok results =>
    obtain h | ⟨v, w, answer, rfl, -, h⟩ := stalls_monad_bind.1 h
    · obtain ⟨run, before, hchunk, rfl, stalls⟩ := ih h
      exact ⟨run, u ++ before, List.mem_cons_of_mem _ hchunk, by simp, stalls⟩
    · cases answer <;> exact h.elim

/-- A call is without a result only when one of its chunks cannot be sent to its end. -/
theorem processRegistrations_stalls (through : e.ReadsThrough reader)
    {intents : List SignedRegistration} (h : (e.processRegistrations intents).Stalls t) :
    ∃ (exclusions : ExclusionTable) (run : ChunkRun e exclusions) (before : List Exchange),
      ⟨.exclusions, exclusions⟩ ∈ before ∧ run.chunk ∈ e.chunksOf intents ∧
      t = before ++ run.exchanges ∧ (e.dispatcher.dispatch run.plan).Stalls run.sending := by
  unfold processRegistrations at h
  split at h
  · exact h.elim
  obtain ⟨u, t, ⟨⟩, rfl, -, h⟩ := h.of_bind (not_stalls_request _)
  obtain ⟨v, t, exclusions, rfl, hv, h⟩ := Stalls.of_bind h (not_stalls_request _)
  obtain h | ⟨w, t, results, rfl, -, h⟩ := stalls_monad_bind.1 h
  · obtain ⟨run, before, hchunk, rfl, stalls⟩ := processChunks_stalls through h
    refine ⟨exclusions, run, u ++ v ++ before, ?_, hchunk, by simp, stalls⟩
    simp [yields_request.1 hv]
  · exact absurd h (not_stalls_monad_bind (not_stalls_request _) (fun _ _ => id) _)

/-! ## Sending never fails -/

/-- There is a ledger to send to when there is something to send to it. -/
theorem ChunkRun.dispatch_ok (run : ChunkRun e exclusions) {sent : Except Error Unit} {final : Plan}
    (h : (e.dispatcher.dispatch run.plan).Yields t (sent, final)) : sent = .ok () := by
  unfold Dispatcher.dispatch at h
  rw [yields_monad_bind] at h
  obtain ⟨u, v, plan, rfl, registrations, h⟩ := h
  obtain ⟨attempt, -, rfl⟩ := Dispatcher.sendRegistrations_carried registrations
  have batch : (run.plan.record .registry attempt).delegationBatch = run.plan.delegationBatch := by
    cases attempt <;> rfl
  unfold Dispatcher.sendDelegations at h
  rw [batch] at h
  cases hb : run.plan.delegationBatch with
  | nil =>
    rw [hb] at h
    exact congrArg Prod.fst h.2
  | cons row rows =>
    obtain ⟨ledger, hledger, -⟩ :=
      (run.delegable row (hb ▸ List.mem_cons_self)).undelegated
    have used := readStatuses_delegation run.reads
    rw [hledger] at used
    obtain ⟨target, htarget⟩ := Option.isSome_iff_exists.1 used.symm
    have known : e.dispatcher.delegation = some target := htarget
    rw [hb, if_neg (by simp), known] at h
    dsimp only at h
    rw [yields_monad_bind] at h
    obtain ⟨v, w, plan, rfl, -, -, h⟩ := h
    exact congrArg Prod.fst h

end Engine

end Registrar
