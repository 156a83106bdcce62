import Registrar.Engine.Basic
import Registrar.Proofs.Dispatch

/-! Calls for registrations, chunk by chunk: each chunk reads, prepares, plans and sends in this
order, and nothing is broadcast but while it sends. -/
namespace Registrar
set_option autoImplicit false

open Program

namespace Engine

/-! ## Chunks of a call -/

/-- One chunk that came to be sent, perhaps not to its end: what was read, prepared and planned for
it, with the exchanges of each part. -/
structure ChunkRun (e : Engine) (exclusions : ExclusionTable) where
  chunk : List SignedRegistration
  statuses : StatusSnapshot
  prepared : List PreparedRegistration
  plan : Plan
  reading : List Exchange
  preparing : List Exchange
  planning : List Exchange
  sending : List Exchange
  reads : (e.readStatuses (chunk.map (·.pubkey))).Yields reading (.ok statuses)
  prepares : (e.prepare exclusions statuses chunk).Yields preparing prepared
  plans : (e.reconciler.reconcile exclusions statuses prepared).Yields planning plan
  sends : (e.dispatcher.dispatch plan).Begins sending

/-- One chunk that was sent to its end. -/
structure FinishedRun (e : Engine) (exclusions : ExclusionTable) extends ChunkRun e exclusions where
  /-- The plan with the statuses of the attempts. -/
  final : Plan
  finishes : (e.dispatcher.dispatch plan).Yields sending (.ok (), final)

variable {e : Engine} {exclusions : ExclusionTable}

/-- All that a chunk asks before it is sent. -/
def ChunkRun.opening (run : ChunkRun e exclusions) : List Exchange :=
  run.reading ++ run.preparing ++ run.planning

def ChunkRun.exchanges (run : ChunkRun e exclusions) : List Exchange :=
  run.reading ++ run.preparing ++ run.planning ++ run.sending

theorem ChunkRun.exchanges_eq (run : ChunkRun e exclusions) :
    run.exchanges = run.opening ++ run.sending := rfl

theorem ChunkRun.reading_prefix (run : ChunkRun e exclusions) : run.reading <+: run.exchanges := by
  rw [exchanges, List.append_assoc, List.append_assoc]
  exact List.prefix_append ..

/-- What the signers are asked comes before the chunk is sent. -/
theorem ChunkRun.asked_subset (run : ChunkRun e exclusions) :
    run.preparing ++ run.planning ⊆ run.opening := by
  rw [opening, List.append_assoc]
  exact List.subset_append_right ..

/-- What was asked while the batch for an authority was sent stands among all that was asked. -/
theorem ChunkRun.part_infix (run : ChunkRun e exclusions) {part : Authority → List Exchange}
    (sending : run.sending = part .registry ++ part .delegationLedger) (a : Authority) :
    part a <:+: run.exchanges := by
  rw [run.exchanges_eq, sending]
  cases a with
  | registry => exact ⟨run.opening, part .delegationLedger, by simp⟩
  | delegationLedger => exact ⟨run.opening ++ part .registry, [], by simp⟩

/-! ## Before a chunk is sent -/

theorem readStatuses_looksUp (e : Engine) (keys : List PublicKey) :
    (e.readStatuses keys).Asks fun q => q.looksUp = true := by
  refine (e.statuses.read_looksUp keys .registry).bind fun registry => ?_
  cases registry with
  | error err => trivial
  | ok registry =>
  dsimp only
  split
  · trivial
  refine (e.statuses.read_looksUp keys .delegationLedger).bind fun delegation => ?_
  cases delegation <;> trivial

theorem readStatuses_preliminary (e : Engine) (keys : List PublicKey) :
    (e.readStatuses keys).Asks fun q => q.preliminary = true :=
  (readStatuses_looksUp e keys).imp fun _ => Ask.preliminary_of_looksUp

section

variable {P : Ask → Prop} {statuses : StatusSnapshot}

theorem prepareOne_asks {intent : SignedRegistration} {listing : Listing} (lists : P .listKeys)
    (signs : ∀ payout, e.overrideFor exclusions statuses intent = some payout →
      P (.signRegistration { intent.message with feeRecipient := payout }))
    (drops : P (.observe (.omitted intent.pubkey .resign))) :
    (e.prepareOne exclusions statuses intent listing).Asks P := by
  unfold prepareOne
  cases replaced : e.overrideFor exclusions statuses intent with
  | none => trivial
  | some payout =>
  dsimp only
  split
  · trivial
  have listed : (Engine.listed listing).Asks P := by
    cases listing with
    | some keys => trivial
    | none =>
      refine ⟨lists, fun answer => ?_⟩
      cases answer <;> trivial
  refine listed.bind fun keys => ?_
  split
  · refine Asks.bind ?_ fun _ => trivial
    refine ⟨signs payout replaced, fun answer => ?_⟩
    cases answer with
    | error err => exact ⟨drops, fun _ => trivial⟩
    | ok signed =>
      simp only [Program.bind]
      split
      · trivial
      · exact ⟨drops, fun _ => trivial⟩
  · trivial

theorem prepare_asks {chunk : List SignedRegistration}
    (one : ∀ intent ∈ chunk, ∀ listing,
      (e.prepareOne exclusions statuses intent listing).Asks P) :
    (e.prepare exclusions statuses chunk).Asks P := by
  unfold prepare
  generalize (none : Listing) = listing
  induction chunk generalizing listing with
  | nil => trivial
  | cons intent rest ih =>
    refine (one intent List.mem_cons_self listing).bind fun ⟨prepared, listing⟩ => ?_
    have others := ih (fun other ho => one other (List.mem_cons_of_mem _ ho)) listing
    exact others.bind fun _ => trivial

theorem planOne_asks {r : Reconciler} {prepared : PreparedRegistration}
    (classifies : P (.observe (.classified prepared.pubkey (classify
      (statuses.identity prepared.pubkey) (exclusions.entry prepared.pubkey) r.signer))))
    (omits : ∀ reason, P (.observe (.omitted prepared.pubkey reason)))
    (authorizes : ∀ representative, P (.authorize prepared.registration representative)) :
    (r.planOne exclusions statuses prepared).Asks P := by
  unfold Reconciler.planOne
  refine ⟨classifies, fun _ => ?_⟩
  dsimp only [Program.bind]
  cases Plan.omission? (classify (statuses.identity prepared.pubkey)
    (exclusions.entry prepared.pubkey) r.signer) with
  | some reason => exact ⟨omits reason, fun _ => trivial⟩
  | none =>
  dsimp only
  split
  · refine Asks.bind ?_ fun answer => ?_
    · unfold Reconciler.secondarySignature
      split
      · exact ⟨authorizes _, fun _ => trivial⟩
      · trivial
    · cases answer with
      | error err => exact ⟨omits _, fun _ => trivial⟩
      | ok signature => trivial
  · trivial

theorem reconcile_asks {r : Reconciler} {chunk : List PreparedRegistration}
    (one : ∀ prepared ∈ chunk, (r.planOne exclusions statuses prepared).Asks P) :
    (r.reconcile exclusions statuses chunk).Asks P := by
  induction chunk with
  | nil => trivial
  | cons prepared rest ih =>
    refine (one prepared List.mem_cons_self).bind fun plan => ?_
    have others := ih fun other ho => one other (List.mem_cons_of_mem _ ho)
    exact others.bind fun _ => trivial

theorem processChunk_asks {chunk : List SignedRegistration}
    (reading : (e.readStatuses (chunk.map (·.pubkey))).Asks P)
    (preparing : ∀ statuses, (e.prepare exclusions statuses chunk).Asks P)
    (planning : ∀ statuses prepared, (e.reconciler.reconcile exclusions statuses prepared).Asks P)
    (sending : ∀ plan, (e.dispatcher.dispatch plan).Asks P) :
    (e.processChunk exclusions chunk).Asks P := by
  unfold processChunk
  refine reading.bind fun read => ?_
  cases read with
  | error err => trivial
  | ok statuses =>
  refine (preparing statuses).bind fun prepared => ?_
  refine (planning statuses prepared).bind fun plan => ?_
  refine (sending plan).bind fun ⟨sent, final⟩ => ?_
  cases sent <;> trivial

theorem processChunks_asks {chunks : List (List SignedRegistration)}
    (one : ∀ chunk, (e.processChunk exclusions chunk).Asks P) :
    (e.processChunks exclusions chunks).Asks P := by
  induction chunks with
  | nil => trivial
  | cons chunk rest ih =>
    refine (one chunk).bind fun first => ?_
    cases first with
    | error err => trivial
    | ok results =>
    refine ih.bind fun others => ?_
    cases others <;> trivial

end

/-- No other identities are asked for than those of the intents. -/
theorem prepare_preliminaryTo (e : Engine) (exclusions : ExclusionTable)
    (statuses : StatusSnapshot) (chunk : List SignedRegistration) :
    (e.prepare exclusions statuses chunk).Asks (·.PreliminaryTo (chunk.map (·.pubkey))) := by
  refine prepare_asks fun intent hi listing => ?_
  have own : ∀ k ∈ some intent.pubkey, k ∈ chunk.map (·.pubkey) := by
    rintro k ⟨⟩
    exact List.mem_map_of_mem hi
  exact prepareOne_asks ⟨rfl, nofun⟩ (fun payout _ => ⟨rfl, own⟩) ⟨rfl, own⟩

theorem prepare_preliminary (e : Engine) (exclusions : ExclusionTable) (statuses : StatusSnapshot)
    (chunk : List SignedRegistration) :
    (e.prepare exclusions statuses chunk).Asks fun q => q.preliminary = true :=
  (prepare_preliminaryTo e exclusions statuses chunk).imp fun _ h => h.1

theorem reconcile_preliminaryTo (r : Reconciler) (exclusions : ExclusionTable)
    (statuses : StatusSnapshot) (chunk : List PreparedRegistration) :
    (r.reconcile exclusions statuses chunk).Asks (·.PreliminaryTo (chunk.map (·.pubkey))) := by
  refine reconcile_asks fun prepared hp => ?_
  have own : ∀ k ∈ some prepared.pubkey, k ∈ chunk.map (·.pubkey) := by
    rintro k ⟨⟩
    exact List.mem_map_of_mem hp
  exact planOne_asks ⟨rfl, own⟩ (fun reason => ⟨rfl, own⟩) fun representative => ⟨rfl, own⟩

theorem reconcile_preliminary (r : Reconciler) (exclusions : ExclusionTable)
    (statuses : StatusSnapshot) (chunk : List PreparedRegistration) :
    (r.reconcile exclusions statuses chunk).Asks fun q => q.preliminary = true :=
  (reconcile_preliminaryTo r exclusions statuses chunk).imp fun _ h => h.1

theorem ChunkRun.opening_preliminary (run : ChunkRun e exclusions) :
    ∀ x ∈ run.opening, x.question.preliminary = true := by
  have reading :=
    (readStatuses_preliminary e (run.chunk.map (·.pubkey))).question_of_yields run.reads
  have preparing :=
    (prepare_preliminary e exclusions run.statuses run.chunk).question_of_yields run.prepares
  have planning :=
    (reconcile_preliminary e.reconciler exclusions run.statuses run.prepared).question_of_yields
      run.plans
  exact List.forall_mem_append.2 ⟨List.forall_mem_append.2 ⟨reading, preparing⟩, planning⟩

theorem ChunkRun.opening_calm (run : ChunkRun e exclusions) :
    ∀ x ∈ run.opening, x.question.Calm :=
  fun x hx => Ask.calm_of_preliminary (run.opening_preliminary x hx)

theorem ChunkRun.mem_sending (run : ChunkRun e exclusions) {x : Exchange} (hx : x ∈ run.exchanges)
    (loud : ¬x.question.Calm) : x ∈ run.sending := by
  obtain hx | hx := List.mem_append.1 hx
  · exact absurd (run.opening_calm x hx) loud
  · exact hx

/-! ## From a chunk to its parts -/

theorem readStatuses_delegation {keys : List PublicKey} {t : List Exchange}
    {statuses : StatusSnapshot} (h : (e.readStatuses keys).Yields t (.ok statuses)) :
    statuses.delegation.isSome = e.settings.delegation.isSome := by
  unfold readStatuses at h
  rw [yields_monad_bind] at h
  obtain ⟨t, t', registry, rfl, -, h⟩ := h
  cases registry with
  | error err =>
    obtain ⟨-, h⟩ := h
    cases h
  | ok registry =>
  cases hd : e.settings.delegation with
  | none =>
    simp only [hd, Option.isNone_none, if_true] at h
    obtain ⟨-, h⟩ := h
    cases h
    rfl
  | some ledger =>
    simp only [hd, Option.isNone_some] at h
    rw [if_neg Bool.false_ne_true, yields_monad_bind] at h
    obtain ⟨t, t', delegation, rfl, -, h⟩ := h
    cases delegation with
    | error err =>
      obtain ⟨-, h⟩ := h
      cases h
    | ok delegation =>
      obtain ⟨-, h⟩ := h
      cases h
      rfl

/-- Until a chunk comes to be sent nothing but preliminaries are asked. -/
theorem processChunk_begins {chunk : List SignedRegistration} {t : List Exchange}
    (h : (e.processChunk exclusions chunk).Begins t) :
    (∀ x ∈ t, x.question.preliminary = true) ∨
      ∃ run : ChunkRun e exclusions, run.chunk = chunk ∧ run.exchanges = t := by
  unfold processChunk at h
  have reads := readStatuses_preliminary e (chunk.map (·.pubkey))
  obtain h | ⟨reading, t, read, rfl, hread, h⟩ := begins_monad_bind.1 h
  · exact .inl (reads.question_of_begins h)
  have reading_preliminary := reads.question_of_yields hread
  cases read with
  | error err =>
    obtain rfl : t = [] := h
    rw [List.append_nil]
    exact .inl reading_preliminary
  | ok statuses =>
  have prepares := prepare_preliminary e exclusions statuses chunk
  obtain h | ⟨preparing, t, prepared, rfl, hprep, h⟩ := begins_monad_bind.1 h
  · exact .inl (List.forall_mem_append.2 ⟨reading_preliminary, prepares.question_of_begins h⟩)
  have preparing_preliminary := prepares.question_of_yields hprep
  have plans := reconcile_preliminary e.reconciler exclusions statuses prepared
  obtain h | ⟨planning, t, plan, rfl, hplan, h⟩ := begins_monad_bind.1 h
  · exact .inl (List.forall_mem_append.2 ⟨reading_preliminary, List.forall_mem_append.2
      ⟨preparing_preliminary, plans.question_of_begins h⟩⟩)
  have sends : (e.dispatcher.dispatch plan).Begins t := by
    obtain h | ⟨sending, t, ⟨sent, final⟩, rfl, hsend, h⟩ := begins_monad_bind.1 h
    · exact h
    · cases sent <;>
      · obtain rfl : t = [] := h
        rw [List.append_nil]
        exact hsend.begins
  refine .inr ⟨⟨chunk, statuses, prepared, plan, reading, preparing, planning, t, hread, hprep,
    hplan, sends⟩, rfl, ?_⟩
  simp [ChunkRun.exchanges]

theorem processChunk_yields {chunk : List SignedRegistration} {t : List Exchange}
    {results : List ReconciliationResult}
    (h : (e.processChunk exclusions chunk).Yields t (.ok results)) :
    ∃ run : FinishedRun e exclusions, run.chunk = chunk ∧ run.exchanges = t ∧
      run.final.results = results := by
  unfold processChunk at h
  rw [yields_monad_bind] at h
  obtain ⟨reading, t, read, rfl, hread, h⟩ := h
  cases read with
  | error err =>
    obtain ⟨-, h⟩ := h
    cases h
  | ok statuses =>
  dsimp only at h
  rw [yields_monad_bind] at h
  obtain ⟨preparing, t, prepared, rfl, hprep, h⟩ := h
  rw [yields_monad_bind] at h
  obtain ⟨planning, t, plan, rfl, hplan, h⟩ := h
  rw [yields_monad_bind] at h
  obtain ⟨sending, t, ⟨sent, final⟩, rfl, hsend, h⟩ := h
  cases sent with
  | error err =>
    obtain ⟨-, h⟩ := h
    cases h
  | ok sent =>
  obtain ⟨rfl, h⟩ := h
  cases h
  refine ⟨⟨⟨chunk, statuses, prepared, plan, reading, preparing, planning, sending, hread, hprep,
    hplan, hsend.begins⟩, final, hsend⟩, rfl, ?_, rfl⟩
  simp [ChunkRun.exchanges]

/-- What was asked for a finished chunk makes up the course of the chunk. -/
theorem FinishedRun.yields (run : FinishedRun e exclusions) :
    (e.processChunk exclusions run.chunk).Yields run.exchanges (.ok run.final.results) := by
  have split : run.exchanges = run.reading ++ (run.preparing ++ (run.planning ++ run.sending)) := by
    simp [ChunkRun.exchanges]
  rw [split]
  refine yields_monad_bind.2 ⟨_, _, _, rfl, run.reads, ?_⟩
  refine yields_monad_bind.2 ⟨_, _, _, rfl, run.prepares, ?_⟩
  refine yields_monad_bind.2 ⟨_, _, _, rfl, run.plans, ?_⟩
  exact yields_monad_bind.2 ⟨_, [], _, (List.append_nil _).symm, run.finishes, rfl, rfl⟩

/-! ## From a call to its chunks -/

/-- Whatever is broadcast in a call is broadcast while one of its chunks is sent. -/
theorem processChunks_begins {chunks : List (List SignedRegistration)} {t : List Exchange}
    (h : (e.processChunks exclusions chunks).Begins t) :
    ∀ x ∈ t, ¬x.question.Quiet → ∃ run : ChunkRun e exclusions,
      run.chunk ∈ chunks ∧ run.exchanges <:+: t ∧ x ∈ run.sending := by
  induction chunks generalizing t with
  | nil =>
    obtain rfl : t = [] := h
    exact fun x hx => absurd hx List.not_mem_nil
  | cons chunk rest ih =>
    intro x hx loud
    have first {u v : List Exchange} (hu : (e.processChunk exclusions chunk).Begins u)
        (hx : x ∈ u) : ∃ run : ChunkRun e exclusions,
          run.chunk ∈ chunk :: rest ∧ run.exchanges <:+: u ++ v ∧ x ∈ run.sending := by
      obtain preliminary | ⟨run, rfl, rfl⟩ := processChunk_begins hu
      · exact absurd (Ask.calm_of_preliminary (preliminary x hx)).1 loud
      · exact ⟨run, List.mem_cons_self, (List.prefix_append ..).isInfix,
          run.mem_sending hx fun calm => loud calm.1⟩
    rw [processChunks] at h
    obtain h | ⟨u, v, answer, rfl, hu, h⟩ := begins_monad_bind.1 h
    · simpa using first (v := []) h hx
    obtain hx | hx := List.mem_append.1 hx
    · exact first hu.begins hx
    cases answer with
    | error err =>
      obtain rfl : v = [] := h
      exact absurd hx List.not_mem_nil
    | ok results =>
    obtain h | ⟨v, w, answer, rfl, hv, h⟩ := begins_monad_bind.1 h
    · obtain ⟨run, hchunk, hrun, sent⟩ := ih h x hx loud
      exact ⟨run, List.mem_cons_of_mem _ hchunk, hrun.trans (List.suffix_append ..).isInfix, sent⟩
    · obtain rfl : w = [] := by cases answer <;> exact h
      rw [List.append_nil] at hx ⊢
      obtain ⟨run, hchunk, hrun, sent⟩ := ih hv.begins x hx loud
      exact ⟨run, List.mem_cons_of_mem _ hchunk, hrun.trans (List.suffix_append ..).isInfix, sent⟩

theorem processChunks_yields {chunks : List (List SignedRegistration)} {t : List Exchange}
    {results : List ReconciliationResult}
    (h : (e.processChunks exclusions chunks).Yields t (.ok results)) :
    ∃ runs : List (FinishedRun e exclusions), runs.map (·.chunk) = chunks ∧
      t = runs.flatMap (·.exchanges) ∧ results = runs.flatMap (·.final.results) := by
  induction chunks generalizing t results with
  | nil =>
    obtain ⟨rfl, h⟩ := h
    cases h
    exact ⟨[], rfl, rfl, rfl⟩
  | cons chunk rest ih =>
    rw [processChunks, yields_monad_bind] at h
    obtain ⟨t, u, answer, rfl, hchunk, h⟩ := h
    cases answer with
    | error err =>
      obtain ⟨-, h⟩ := h
      cases h
    | ok first =>
    dsimp only at h
    rw [yields_monad_bind] at h
    obtain ⟨u, v, answer, rfl, hrest, h⟩ := h
    cases answer with
    | error err =>
      obtain ⟨-, h⟩ := h
      cases h
    | ok others =>
    obtain ⟨rfl, h⟩ := h
    cases h
    obtain ⟨run, rfl, rfl, rfl⟩ := processChunk_yields hchunk
    obtain ⟨runs, rfl, rfl, rfl⟩ := ih hrest
    exact ⟨run :: runs, rfl, by simp, rfl⟩

theorem processChunks_of_runs (runs : List (FinishedRun e exclusions)) :
    (e.processChunks exclusions (runs.map (·.chunk))).Yields (runs.flatMap (·.exchanges))
      (.ok (runs.flatMap (·.final.results))) := by
  induction runs with
  | nil => exact ⟨rfl, rfl⟩
  | cons run rest ih =>
    refine yields_monad_bind.2 ⟨_, _, _, rfl, run.yields, ?_⟩
    exact yields_monad_bind.2 ⟨_, [], _, (List.append_nil _).symm, ih, rfl, rfl⟩

/-- The exclusion list is read once in a call, and whatever is broadcast is broadcast while a chunk
is sent. -/
theorem processRegistrations_begins {intents : List SignedRegistration} {t : List Exchange}
    (h : (e.processRegistrations intents).Begins t) :
    ∀ x ∈ t, ¬x.question.Quiet → ∃ exclusions, ⟨.exclusions, exclusions⟩ ∈ t ∧
      ∃ run : ChunkRun e exclusions,
        run.chunk ∈ e.chunksOf intents ∧ run.exchanges <:+: t ∧ x ∈ run.sending := by
  intro x hx loud
  unfold processRegistrations at h
  split at h
  · obtain rfl : t = [] := h
    exact absurd hx List.not_mem_nil
  rw [begins_request_bind] at h
  obtain rfl | ⟨⟨⟩, t, rfl, h⟩ := h
  · exact absurd hx List.not_mem_nil
  obtain rfl | hx := List.mem_cons.1 hx
  · exact absurd (fun raw => nofun) loud
  rw [begins_request_bind] at h
  obtain rfl | ⟨exclusions, t, rfl, h⟩ := h
  · exact absurd hx List.not_mem_nil
  obtain rfl | hx := List.mem_cons.1 hx
  · exact absurd (fun raw => nofun) loud
  refine ⟨exclusions, by simp, ?_⟩
  have located {u v : List Exchange}
      (hu : (e.processChunks exclusions (e.chunksOf intents)).Begins u)
      (hx : x ∈ u) : ∃ run : ChunkRun e exclusions, run.chunk ∈ e.chunksOf intents ∧
        run.exchanges <:+: ⟨.acquire .session, ()⟩ :: ⟨.exclusions, exclusions⟩ :: (u ++ v) ∧
        x ∈ run.sending := by
    obtain ⟨run, hchunk, hrun, sent⟩ := processChunks_begins hu x hx loud
    refine ⟨run, hchunk, hrun.trans ?_, sent⟩
    exact ⟨[⟨.acquire .session, ()⟩, ⟨.exclusions, exclusions⟩], v, by simp⟩
  obtain h | ⟨u, v, answer, rfl, hu, hend⟩ := begins_monad_bind.1 h
  · simpa using located (v := []) h hx
  obtain hx | hx := List.mem_append.1 hx
  · exact located hu.begins hx
  · obtain rfl | ⟨⟨⟩, v, rfl, hv⟩ := hend
    · exact absurd hx List.not_mem_nil
    obtain rfl : v = [] := hv
    exact absurd (silent_release .session x hx) loud

theorem processRegistrations_yields {intents : List SignedRegistration} {t : List Exchange}
    {results : List ReconciliationResult}
    (h : (e.processRegistrations intents).Yields t (.ok results)) :
    (intents = [] ∧ t = [] ∧ results = []) ∨
      ∃ (exclusions : ExclusionTable) (runs : List (FinishedRun e exclusions)),
        runs.map (·.chunk) = e.chunksOf intents ∧
        t = ⟨.acquire .session, ()⟩ :: ⟨.exclusions, exclusions⟩ ::
          (runs.flatMap (·.exchanges) ++ [⟨.release .session, ()⟩]) ∧
        results = runs.flatMap (·.final.results) := by
  unfold processRegistrations at h
  split at h
  · rename_i empty
    obtain ⟨rfl, h⟩ := h
    cases h
    exact .inl ⟨List.isEmpty_iff.1 empty, rfl, rfl⟩
  rw [yields_request_bind] at h
  obtain ⟨⟨⟩, t, rfl, h⟩ := h
  rw [yields_request_bind] at h
  obtain ⟨exclusions, t, rfl, h⟩ := h
  rw [yields_monad_bind] at h
  obtain ⟨t, u, answer, rfl, hchunks, h⟩ := h
  obtain ⟨⟨⟩, u, rfl, rfl, rfl⟩ := h
  obtain ⟨runs, hruns, rfl, rfl⟩ := processChunks_yields hchunks
  exact .inr ⟨exclusions, runs, hruns, rfl, rfl⟩

/-- Finished runs of all chunks make up the course of a call. -/
theorem processRegistrations_of_runs {intents : List SignedRegistration} (some : intents ≠ [])
    (runs : List (FinishedRun e exclusions)) (hruns : runs.map (·.chunk) = e.chunksOf intents) :
    (e.processRegistrations intents).Yields
      (⟨.acquire .session, ()⟩ :: ⟨.exclusions, exclusions⟩ ::
        (runs.flatMap (·.exchanges) ++ [⟨.release .session, ()⟩]))
      (.ok (runs.flatMap (·.final.results))) := by
  have chunks := processChunks_of_runs runs
  rw [hruns] at chunks
  rw [processRegistrations, if_neg (by simpa using some)]
  refine yields_request_bind.2 ⟨(), _, rfl, yields_request_bind.2 ⟨exclusions, _, rfl, ?_⟩⟩
  exact yields_monad_bind.2 ⟨_, _, _, rfl, chunks, (), _, rfl, rfl, rfl⟩

end Engine

end Registrar
