import Registrar.Proofs.Ending

/-! The course of a call: at every moment some chunks are behind it, each sent to its end, and at
most one more is under way. A call fails in the reading of a chunk and nowhere else. -/
namespace Registrar
set_option autoImplicit false

open Program

/-! ## Readings that fail -/

/-- In the exchanges, an aggregate of the reader fails. -/
def StatusReader.Breaks (reader : StatusReader) (a : Authority) (t : List Exchange) : Prop :=
  ∃ (target : Address) (read : AggregateRead), reader.target a = .ok target ∧
    read.exchange reader.gateway.settings.multicall target a ∈ t ∧ read.Fails

theorem StatusReader.Breaks.mono {reader : StatusReader} {a : Authority} {t t' : List Exchange}
    (h : reader.Breaks a t) (ht : t ⊆ t') : reader.Breaks a t' := by
  obtain ⟨target, read, htarget, inside, fails⟩ := h
  exact ⟨target, read, htarget, ht inside, fails⟩

theorem StatusReader.batchStatus_error {reader : StatusReader} {keys : List PublicKey}
    {a : Authority} {target : Address} {t : List Exchange} {err : Error}
    (htarget : reader.target a = .ok target)
    (h : (reader.batchStatus keys a).Yields t (.error err)) :
    (∃ details, err = .statusReadFailed a.label details) ∧ reader.Breaks a t := by
  obtain ⟨reads, rfl, serving⟩ := batchStatus_yields htarget h
  obtain ⟨m, ok, -⟩ | ⟨details, failed, read, hread, fails⟩ :=
    serving.fails_cases fun range hr => fits_of_mem_chunkRanges hr
  · cases ok
  · cases failed
    exact ⟨⟨details, rfl⟩, target, read, htarget, List.mem_map_of_mem hread, fails⟩

namespace Engine

variable {e : Engine} {reader : StatusReader} {exclusions : ExclusionTable} {t : List Exchange}
  {err : Error}

/-- A reading of both authorities fails only when one of its aggregates does; the reader is asked
for the ledger only when it knows it. -/
theorem readStatuses_error (through : e.ReadsThrough reader) {keys : List PublicKey}
    (h : (e.readStatuses keys).Yields t (.error err)) :
    ∃ (a : Authority) (details : String), err = .statusReadFailed a.label details ∧
      reader.Breaks a t := by
  have failed {a : Authority} {target : Address} {u : List Exchange}
      (htarget : reader.target a = .ok target)
      (asked : (e.statuses.read keys a).Yields u (.error err)) (hu : u ⊆ t) :
      ∃ (a : Authority) (details : String), err = .statusReadFailed a.label details ∧
        reader.Breaks a t := by
    rw [through.read_eq] at asked
    obtain ⟨⟨details, same⟩, breaks⟩ := StatusReader.batchStatus_error htarget asked
    exact ⟨a, details, same, breaks.mono hu⟩
  unfold readStatuses at h
  rw [yields_monad_bind] at h
  obtain ⟨u, v, registry, rfl, asked, h⟩ := h
  cases registry with
  | error err' =>
    obtain ⟨-, h⟩ := h
    cases h
    exact failed (a := .registry) rfl asked (List.subset_append_left ..)
  | ok registry =>
  cases hd : e.settings.delegation with
  | none =>
    simp only [hd, Option.isNone_none, if_true] at h
    obtain ⟨-, h⟩ := h
    cases h
  | some ledger =>
    have htarget : reader.target .delegationLedger = .ok ledger := by
      rw [StatusReader.target, through.delegation, hd]
    simp only [hd, Option.isNone_some] at h
    rw [if_neg Bool.false_ne_true, yields_monad_bind] at h
    obtain ⟨v, w, delegation, rfl, asked, h⟩ := h
    cases delegation with
    | error err' =>
      obtain ⟨-, h⟩ := h
      cases h
      exact failed htarget asked fun x hx =>
        List.mem_append_right _ (List.mem_append_left _ hx)
    | ok delegation =>
      obtain ⟨-, h⟩ := h
      cases h

/-! ## Chunks that fail -/

/-- A chunk fails only in its reading. -/
theorem processChunk_error {chunk : List SignedRegistration}
    (h : (e.processChunk exclusions chunk).Yields t (.error err)) :
    (e.readStatuses (chunk.map (·.pubkey))).Yields t (.error err) := by
  unfold processChunk at h
  rw [yields_monad_bind] at h
  obtain ⟨reading, t, read, rfl, hread, h⟩ := h
  cases read with
  | error err' =>
    obtain ⟨rfl, h⟩ := h
    cases h
    rwa [List.append_nil]
  | ok statuses =>
  dsimp only at h
  rw [yields_monad_bind] at h
  obtain ⟨preparing, t, prepared, rfl, hprep, h⟩ := h
  rw [yields_monad_bind] at h
  obtain ⟨planning, t, plan, rfl, hplan, h⟩ := h
  rw [yields_monad_bind] at h
  obtain ⟨sending, t, ⟨sent, final⟩, rfl, hsend, h⟩ := h
  obtain rfl := ChunkRun.dispatch_ok ⟨chunk, statuses, prepared, plan, reading, preparing, planning,
    sending, hread, hprep, hplan, hsend.begins⟩ hsend
  cases h.2

/-! ## Chunks one behind another -/

/-- At every moment the chunks behind are sent to their ends, and at most one more is under way. -/
theorem processChunks_stages {chunks : List (List SignedRegistration)}
    (h : (e.processChunks exclusions chunks).Begins t) :
    ∃ (runs : List (FinishedRun e exclusions)) (under : List Exchange),
      t = runs.flatMap (·.exchanges) ++ under ∧
      ((runs.map (·.chunk) = chunks ∧ under = []) ∨
        ∃ chunk later, chunks = runs.map (·.chunk) ++ chunk :: later ∧
          (e.processChunk exclusions chunk).Begins under) := by
  induction chunks generalizing t with
  | nil =>
    obtain rfl : t = [] := h
    exact ⟨[], [], rfl, .inl ⟨rfl, rfl⟩⟩
  | cons chunk rest ih =>
    have first (h : (e.processChunk exclusions chunk).Begins t) :
        ∃ (runs : List (FinishedRun e exclusions)) (under : List Exchange),
          t = runs.flatMap (·.exchanges) ++ under ∧
          ((runs.map (·.chunk) = chunk :: rest ∧ under = []) ∨
            ∃ chunk' later, chunk :: rest = runs.map (·.chunk) ++ chunk' :: later ∧
              (e.processChunk exclusions chunk').Begins under) :=
      ⟨[], t, rfl, .inr ⟨chunk, rest, rfl, h⟩⟩
    rw [processChunks] at h
    obtain h | ⟨u, v, answer, rfl, hu, h⟩ := begins_monad_bind.1 h
    · exact first h
    cases answer with
    | error err =>
      obtain rfl : v = [] := h
      rw [List.append_nil] at first ⊢
      exact first hu.begins
    | ok results =>
    have onward : (e.processChunks exclusions rest).Begins v := by
      obtain h | ⟨v, w, answer, rfl, hv, h⟩ := begins_monad_bind.1 h
      · exact h
      · obtain rfl : w = [] := by cases answer <;> exact h
        rw [List.append_nil]
        exact hv.begins
    obtain ⟨run, rfl, rfl, -⟩ := processChunk_yields hu
    obtain ⟨runs, under, rfl, stands⟩ := ih onward
    refine ⟨run :: runs, under, by simp, stands.imp ?_ ?_⟩
    · rintro ⟨rfl, rfl⟩
      exact ⟨rfl, rfl⟩
    · rintro ⟨chunk, later, rfl, begun⟩
      exact ⟨chunk, later, rfl, begun⟩

/-- When a call fails, the chunks before the failing reading were sent to their ends, and none
behind it was begun. -/
theorem processChunks_error {chunks : List (List SignedRegistration)}
    (h : (e.processChunks exclusions chunks).Yields t (.error err)) :
    ∃ (runs : List (FinishedRun e exclusions)) (chunk : List SignedRegistration)
      (later : List (List SignedRegistration)) (reading : List Exchange),
      chunks = runs.map (·.chunk) ++ chunk :: later ∧
      t = runs.flatMap (·.exchanges) ++ reading ∧
      (e.readStatuses (chunk.map (·.pubkey))).Yields reading (.error err) := by
  induction chunks generalizing t with
  | nil => cases h.2
  | cons chunk rest ih =>
    rw [processChunks, yields_monad_bind] at h
    obtain ⟨u, v, answer, rfl, hu, h⟩ := h
    cases answer with
    | error err' =>
      obtain ⟨rfl, h⟩ := h
      cases h
      rw [List.append_nil]
      exact ⟨[], chunk, rest, u, rfl, rfl, processChunk_error hu⟩
    | ok results =>
    dsimp only at h
    rw [yields_monad_bind] at h
    obtain ⟨v, w, answer, rfl, hv, h⟩ := h
    cases answer with
    | ok others =>
      obtain ⟨-, h⟩ := h
      cases h
    | error err' =>
      obtain ⟨rfl, h⟩ := h
      cases h
      obtain ⟨run, rfl, rfl, -⟩ := processChunk_yields hu
      obtain ⟨runs, chunk, later, reading, rfl, rfl, failed⟩ := ih hv
      exact ⟨run :: runs, chunk, later, reading, rfl, by simp, failed⟩

/-- The converse: a failing reading behind finished chunks ends the call. -/
theorem processChunks_error_of_runs (runs : List (FinishedRun e exclusions))
    {chunk : List SignedRegistration} (later : List (List SignedRegistration))
    {reading : List Exchange}
    (failed : (e.readStatuses (chunk.map (·.pubkey))).Yields reading (.error err)) :
    (e.processChunks exclusions (runs.map (·.chunk) ++ chunk :: later)).Yields
      (runs.flatMap (·.exchanges) ++ reading) (.error err) := by
  induction runs with
  | nil =>
    have stopped : (e.processChunk exclusions chunk).Yields reading (.error err) :=
      yields_monad_bind.2 ⟨_, [], _, (List.append_nil _).symm, failed, rfl, rfl⟩
    exact yields_monad_bind.2 ⟨_, [], _, (List.append_nil _).symm, stopped, rfl, rfl⟩
  | cons run rest ih =>
    rw [List.flatMap_cons, List.append_assoc]
    refine yields_monad_bind.2 ⟨_, _, _, rfl, run.yields, ?_⟩
    exact yields_monad_bind.2 ⟨_, [], _, (List.append_nil _).symm, ih, rfl, rfl⟩

/-! ## Whole calls -/

/-- A call that goes by the exclusions has got this far: some chunks are behind it, and at most one
more is under way. It gives the lock back behind the last chunk, or behind a reading that failed. -/
def Stands (e : Engine) (exclusions : ExclusionTable) (intents : List SignedRegistration)
    (t : List Exchange) : Prop :=
  ∃ (runs : List (FinishedRun e exclusions)) (under closing : List Exchange),
    t = ⟨.acquire .session, ()⟩ :: ⟨.exclusions, exclusions⟩ ::
      (runs.flatMap (·.exchanges) ++ under ++ closing) ∧
    closing <+: [⟨.release .session, ()⟩] ∧
    ((runs.map (·.chunk) = e.chunksOf intents ∧ under = []) ∨
      ∃ chunk later, e.chunksOf intents = runs.map (·.chunk) ++ chunk :: later ∧
        (((e.processChunk exclusions chunk).Begins under ∧ closing = []) ∨
          ∃ err, (e.readStatuses (chunk.map (·.pubkey))).Yields under (.error err)))

/-- A call takes the session lock, reads the exclusions once, and then goes from chunk to chunk. -/
theorem processRegistrations_stages {intents : List SignedRegistration}
    (h : (e.processRegistrations intents).Begins t) :
    t <+: [⟨.acquire .session, ()⟩] ∨ ∃ exclusions, e.Stands exclusions intents t := by
  unfold processRegistrations at h
  split at h
  · obtain rfl : t = [] := h
    exact .inl List.nil_prefix
  rw [begins_request_bind] at h
  obtain rfl | ⟨⟨⟩, t, rfl, h⟩ := h
  · exact .inl List.nil_prefix
  rw [begins_request_bind] at h
  obtain rfl | ⟨exclusions, t, rfl, h⟩ := h
  · exact .inl (List.prefix_refl _)
  refine .inr ⟨exclusions, ?_⟩
  obtain h | ⟨u, closing, answer, rfl, hu, hend⟩ := begins_monad_bind.1 h
  · obtain ⟨runs, under, rfl, ⟨all, rfl⟩ | ⟨chunk, later, split, begun⟩⟩ := processChunks_stages h
    · exact ⟨runs, [], [], by simp, List.nil_prefix, .inl ⟨all, rfl⟩⟩
    · exact ⟨runs, under, [], by simp, List.nil_prefix, .inr ⟨chunk, later, split,
        .inl ⟨begun, rfl⟩⟩⟩
  have closes : closing <+: [⟨.release .session, ()⟩] := by
    obtain rfl | ⟨⟨⟩, v, rfl, hv⟩ := hend
    · exact List.nil_prefix
    · obtain rfl : v = [] := hv
      exact List.prefix_refl _
  cases answer with
  | ok results =>
    obtain ⟨runs, all, rfl, -⟩ := processChunks_yields hu
    exact ⟨runs, [], closing, by simp, closes, .inl ⟨all, rfl⟩⟩
  | error err =>
    obtain ⟨runs, chunk, later, reading, split, rfl, failed⟩ := processChunks_error hu
    exact ⟨runs, reading, closing, rfl, closes, .inr ⟨chunk, later, split, .inr ⟨err, failed⟩⟩⟩

theorem processRegistrations_error {intents : List SignedRegistration}
    (h : (e.processRegistrations intents).Yields t (.error err)) :
    ∃ (exclusions : ExclusionTable) (runs : List (FinishedRun e exclusions))
      (chunk : List SignedRegistration) (later : List (List SignedRegistration))
      (reading : List Exchange),
      e.chunksOf intents = runs.map (·.chunk) ++ chunk :: later ∧
      t = ⟨.acquire .session, ()⟩ :: ⟨.exclusions, exclusions⟩ ::
        (runs.flatMap (·.exchanges) ++ reading ++ [⟨.release .session, ()⟩]) ∧
      (e.readStatuses (chunk.map (·.pubkey))).Yields reading (.error err) := by
  unfold processRegistrations at h
  split at h
  · cases h.2
  rw [yields_request_bind] at h
  obtain ⟨⟨⟩, t, rfl, h⟩ := h
  rw [yields_request_bind] at h
  obtain ⟨exclusions, t, rfl, h⟩ := h
  rw [yields_monad_bind] at h
  obtain ⟨t, u, answer, rfl, hchunks, h⟩ := h
  obtain ⟨⟨⟩, u, rfl, rfl, rfl⟩ := h
  obtain ⟨runs, chunk, later, reading, split, rfl, failed⟩ := processChunks_error hchunks
  exact ⟨exclusions, runs, chunk, later, reading, split, rfl, failed⟩

theorem processRegistrations_error_of_runs {intents : List SignedRegistration}
    (some : intents ≠ []) (runs : List (FinishedRun e exclusions))
    {chunk : List SignedRegistration} {later : List (List SignedRegistration)}
    {reading : List Exchange} (split : e.chunksOf intents = runs.map (·.chunk) ++ chunk :: later)
    (failed : (e.readStatuses (chunk.map (·.pubkey))).Yields reading (.error err)) :
    (e.processRegistrations intents).Yields
      (⟨.acquire .session, ()⟩ :: ⟨.exclusions, exclusions⟩ ::
        (runs.flatMap (·.exchanges) ++ reading ++ [⟨.release .session, ()⟩])) (.error err) := by
  have chunks := processChunks_error_of_runs runs later failed
  rw [← split] at chunks
  rw [processRegistrations, if_neg (by simpa using some)]
  refine yields_request_bind.2 ⟨(), _, rfl, yields_request_bind.2 ⟨exclusions, _, rfl, ?_⟩⟩
  exact yields_monad_bind.2 ⟨_, _, _, rfl, chunks, (), _, rfl, rfl, rfl⟩

/-- A call that ends gives results if every look-up succeeds. -/
theorem processRegistrations_ok (through : e.ReadsThrough reader) (served : reader.Served t)
    {intents : List SignedRegistration} {r : Except Error (List ReconciliationResult)}
    (h : (e.processRegistrations intents).Yields t r) : ∃ results, r = .ok results := by
  cases r with
  | ok results => exact ⟨results, rfl⟩
  | error err =>
    obtain ⟨exclusions, runs, chunk, later, reading, -, rfl, failed⟩ := processRegistrations_error h
    obtain ⟨a, details, -, target, read, htarget, inside, fails⟩ :=
      readStatuses_error through failed
    exact absurd fails (served a target read htarget (by simp [inside]))

end Engine

end Registrar
