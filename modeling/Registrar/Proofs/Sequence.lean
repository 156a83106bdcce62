import Registrar.Proofs.Course
import Registrar.Proofs.SettlingNode
import Registrar.Proofs.Soundness

/-! The sequence of the transactions of a call: chunk by chunk the batch for the registry and then
the batch for the ledger, each attempted once, and none begun before the one before it has ended. -/
namespace Registrar
set_option autoImplicit false

open Program Contract

/-! ## Batches in the order in which they are sent -/

namespace Plan

/-- The batch for an authority, if it has any rows. -/
def shipment (p : Plan) (a : Authority) : List (Authority × Plan) :=
  if p.keys a = [] then [] else [(a, p)]

def shipments (p : Plan) : List (Authority × Plan) :=
  p.shipment .registry ++ p.shipment .delegationLedger

theorem mem_shipment {p q : Plan} {a b : Authority} :
    (a, q) ∈ p.shipment b ↔ a = b ∧ q = p ∧ p.keys b ≠ [] := by
  by_cases h : p.keys b = []
  · simp [shipment, h]
  · simp [shipment, h]

theorem mem_shipments {p q : Plan} {a : Authority} (h : (a, q) ∈ p.shipments) :
    q = p ∧ p.keys a ≠ [] := by
  obtain h | h := List.mem_append.1 h
  · obtain ⟨rfl, same, some⟩ := mem_shipment.1 h
    exact ⟨same, some⟩
  · obtain ⟨rfl, same, some⟩ := mem_shipment.1 h
    exact ⟨same, some⟩

end Plan

/-! ## Attempts one behind another -/

/-- The question is preliminary, or about the exclusions or the lock on the whole call. An attempt
begins with the nonce lock, which is not among these. -/
def Ask.Between (q : Ask) : Prop :=
  q.preliminary = true ∨ q = .exclusions ∨ q = .acquire .session ∨ q = .release .session

theorem Ask.Between.quiet {q : Ask} (h : q.Between) : q.Quiet := by
  obtain preliminary | rfl | rfl | rfl := h
  · exact (Ask.calm_of_preliminary preliminary).1
  · exact nofun
  · exact nofun
  · exact nofun

namespace Dispatcher

variable {d : Dispatcher} {plan : Plan} {a : Authority} {t u : List Exchange}
  {sent batches : List (Authority × Plan)}

/-- The exchanges are attempts that came to their ends one behind another, each to send one of the
batches, and between them nothing that is part of an attempt. -/
inductive Course (d : Dispatcher) : List Exchange → List (Authority × Plan) → Prop
  | start : Course d [] []
  | between {t : List Exchange} {sent : List (Authority × Plan)} (h : Course d t sent)
      (u : List Exchange) (apart : ∀ x ∈ u, x.question.Between) : Course d (t ++ u) sent
  | attempt {t : List Exchange} {sent : List (Authority × Plan)} (h : Course d t sent)
      (a : Authority) (plan : Plan) (u : List Exchange) (attempt : TxAttempt)
      (carried : Carried d plan a u (some attempt)) (ended : attempt.status.isAttempted = true) :
    Course d (t ++ u) (sent ++ [(a, plan)])

/-- The batches are being sent in their order: attempts to send the first of them have ended, and at
most one is on its way, to send the next. -/
def Follows (d : Dispatcher) (t : List Exchange) (batches : List (Authority × Plan)) : Prop :=
  ∃ (behind under : List Exchange) (sent : List (Authority × Plan)),
    t = behind ++ under ∧ d.Course behind sent ∧
    ((under = [] ∧ sent <+: batches) ∨
      ∃ (a : Authority) (plan : Plan) (target : Address), sent ++ [(a, plan)] <+: batches ∧
        d.target? a = some target ∧
        (d.gateway.sendAndConfirm a.label target (plan.callData a)).Begins under)

theorem Course.follows (h : d.Course t sent) (first : sent <+: batches) : d.Follows t batches :=
  ⟨t, [], sent, (List.append_nil t).symm, h, .inl ⟨rfl, first⟩⟩

theorem Follows.mono {batches' : List (Authority × Plan)} (h : d.Follows t batches)
    (first : batches <+: batches') : d.Follows t batches' := by
  obtain ⟨behind, under, sent, split, course, ⟨none, early⟩ | ⟨a, plan, target, early, begun⟩⟩ := h
  · exact ⟨behind, under, sent, split, course, .inl ⟨none, early.trans first⟩⟩
  · exact ⟨behind, under, sent, split, course, .inr ⟨a, plan, target, early.trans first, begun⟩⟩

theorem Course.carried {attempt : Option TxAttempt} (h : d.Course t sent)
    (carried : Carried d plan a u attempt) : d.Course (t ++ u) (sent ++ plan.shipment a) := by
  cases attempt with
  | none =>
    cases carried with
    | nothing none =>
      rw [Plan.shipment, if_pos none, List.append_nil, List.append_nil]
      exact h
  | some attempt =>
    have some : plan.keys a ≠ [] := by
      cases carried with
      | attempted target t attempt some ht ha => exact some
    rw [Plan.shipment, if_neg some]
    exact h.attempt a plan u attempt carried attempt.isAttempted_status

theorem Course.stage (h : d.Course t sent) (stage : Stage d plan a u) :
    d.Follows (t ++ u) (sent ++ plan.shipment a) := by
  cases stage with
  | idle =>
    rw [List.append_nil]
    exact h.follows (List.prefix_append ..)
  | begun target u some htarget begun =>
    rw [Plan.shipment, if_neg some]
    exact ⟨t, u, sent, rfl, h, .inr ⟨a, plan, target, List.prefix_refl _, htarget, begun⟩⟩
  | ended u attempt carried => exact (h.carried carried).follows (List.prefix_refl _)

/-- The raw transactions carry some of the batches to their authorities, in the order of these. -/
def Transports (d : Dispatcher) (raws : List Bytes) (batches : List (Authority × Plan)) : Prop :=
  ∃ taken : List (Authority × Plan), taken.Sublist batches ∧
    List.Forall₂ (fun raw batch => ∃ target, d.target? batch.1 = some target ∧
      d.gateway.Carries target (batch.2.callData batch.1) raw) raws taken

theorem Transports.concat {raws : List Bytes} {target : Address} (h : d.Transports raws sent)
    (ht : d.target? a = some target)
    (one : broadcasts u = [] ∨ ∃ raw, d.gateway.Carries target (plan.callData a) raw ∧
      broadcasts u = [raw]) :
    d.Transports (raws ++ broadcasts u) (sent ++ [(a, plan)]) := by
  obtain ⟨taken, early, each⟩ := h
  obtain none | ⟨raw, carries, one⟩ := one
  · rw [none, List.append_nil]
    exact ⟨taken, early.trans (List.sublist_append_left ..), each⟩
  · rw [one]
    exact ⟨taken ++ [(a, plan)], early.append (List.Sublist.refl _),
      List.rel_append each (.cons ⟨target, ht, carries⟩ .nil)⟩

theorem Course.transports (h : d.Course t sent) : d.Transports (broadcasts t) sent := by
  induction h with
  | start => exact ⟨[], List.Sublist.refl _, .nil⟩
  | between h u apart ih =>
    rwa [broadcasts_append, broadcasts_of_silent fun x hx => (apart x hx).quiet, List.append_nil]
  | attempt h a plan u attempt carried ended ih =>
    cases carried with
    | attempted target u attempt some htarget ha =>
      have reported : broadcasts [report a (plan.keys a).length attempt.status] = [] := rfl
      rw [← report, broadcasts_append, broadcasts_append, reported, List.append_nil]
      refine ih.concat htarget (ha.shows.imp (fun h => h.1) ?_)
      rintro ⟨raw, carries, -, one, -⟩
      exact ⟨raw, carries, one⟩

theorem Follows.transports (h : d.Follows t batches) : d.Transports (broadcasts t) batches := by
  obtain ⟨behind, under, sent, rfl, course,
    ⟨rfl, early⟩ | ⟨a, plan, target, early, htarget, begun⟩⟩ := h
  · obtain ⟨taken, sublist, each⟩ := course.transports
    rw [List.append_nil]
    exact ⟨taken, sublist.trans early.sublist, each⟩
  · have next : d.Transports (broadcasts behind ++ broadcasts under) (sent ++ [(a, plan)]) :=
      course.transports.concat htarget (Gateway.sendAndConfirm_begins begun)
    rw [← broadcasts_append] at next
    obtain ⟨taken, sublist, each⟩ := next
    exact ⟨taken, sublist.trans early.sublist, each⟩

/-- While a plan is sent its batches follow in their order. -/
theorem Course.dispatch (h : d.Course t sent) (sends : (d.dispatch plan).Begins u) :
    d.Follows (t ++ u) (sent ++ plan.shipments) := by
  obtain first | ⟨u, v, attempt, rfl, carried, second⟩ := dispatch_begins sends
  · refine (h.stage first).mono ?_
    rw [Plan.shipments, ← List.append_assoc]
    exact List.prefix_append ..
  · have next := (h.carried carried).stage second
    rwa [List.append_assoc, List.append_assoc] at next

end Dispatcher

namespace Engine

variable {e : Engine} {exclusions : ExclusionTable} {t : List Exchange}
  {sent : List (Authority × Plan)}

/-! ## Chunk by chunk -/

theorem ChunkRun.opening_between (run : ChunkRun e exclusions) :
    ∀ x ∈ run.opening, x.question.Between :=
  fun x hx => .inl (run.opening_preliminary x hx)

theorem course_run (h : e.dispatcher.Course t sent) (run : FinishedRun e exclusions) :
    e.dispatcher.Course (t ++ run.exchanges) (sent ++ run.plan.shipments) := by
  obtain ⟨part, attempt, sending, carried, -⟩ := Dispatcher.dispatch_carried run.finishes
  have opened := h.between run.opening run.opening_between
  have registered := opened.carried (carried .registry)
  have delegated := registered.carried (carried .delegationLedger)
  rw [run.exchanges_eq, sending, Plan.shipments]
  simpa only [List.append_assoc] using delegated

theorem course_runs (h : e.dispatcher.Course t sent) (runs : List (FinishedRun e exclusions)) :
    e.dispatcher.Course (t ++ runs.flatMap (·.exchanges))
      (sent ++ runs.flatMap (·.plan.shipments)) := by
  induction runs generalizing t sent with
  | nil =>
    rw [List.flatMap_nil, List.flatMap_nil, List.append_nil, List.append_nil]
    exact h
  | cons run rest ih =>
    have all := ih (course_run h run)
    rwa [List.append_assoc, List.append_assoc] at all

theorem course_opening (exclusions : ExclusionTable) :
    e.dispatcher.Course [⟨.acquire .session, ()⟩, ⟨.exclusions, exclusions⟩] [] := by
  refine Dispatcher.Course.start.between _ ?_
  exact List.forall_mem_cons.2
    ⟨.inr (.inr (.inl rfl)), List.forall_mem_singleton.2 (.inr (.inl rfl))⟩

theorem between_of_prefix_release {closing : List Exchange}
    (h : closing <+: [⟨.release .session, ()⟩]) : ∀ x ∈ closing, x.question.Between := by
  intro x hx
  obtain rfl := List.mem_singleton.1 (h.subset hx)
  exact .inr (.inr (.inr rfl))

/-! ## Rows of a call -/

theorem length_of_mem_chunksOf {intents chunk : List SignedRegistration}
    (h : chunk ∈ e.chunksOf intents) :
    chunk.length ≤ min (max e.settings.maxBatchSize 1) 1000 := by
  obtain ⟨range, hrange, rfl⟩ := List.mem_map.1 h
  obtain ⟨i, -, rfl⟩ := List.mem_map.1 hrange
  have size : e.chunkSize = min (max e.settings.maxBatchSize 1) 1000 := rfl
  have width : Nat.max e.chunkSize 1 = max e.chunkSize 1 := rfl
  rw [IndexRange.slice_ofStart, List.length_take]
  omega

/-- Over any chunks of a call, the identities of the batches for one authority come in the order of
the intents, and none comes twice. -/
theorem keys_sublist_of_runs {intents : List SignedRegistration}
    {runs : List (ChunkRun e exclusions)} (first : runs.map (·.chunk) <+: e.chunksOf intents)
    (a : Authority) :
    (runs.flatMap (·.plan.keys a)).Sublist (intents.map (·.pubkey)).eraseDups := by
  have chunks : (runs.flatMap (·.plan.keys a)).Sublist
      ((runs.map (·.chunk)).flatten.map (·.pubkey)) := by
    clear first
    induction runs with
    | nil => exact List.Sublist.refl _
    | cons run rest ih =>
      simp only [List.flatMap_cons, List.map_cons, List.flatten_cons, List.map_append]
      exact (run.keys_sublist a).append ih
  obtain ⟨later, split⟩ := first
  rw [← map_pubkey_chunksOf e, ← split, List.flatten_append, List.map_append]
  exact chunks.trans (List.sublist_append_left ..)

theorem length_of_mem_shipments {intents : List SignedRegistration}
    {runs : List (ChunkRun e exclusions)} (first : runs.map (·.chunk) <+: e.chunksOf intents)
    {a : Authority} {plan : Plan} (h : (a, plan) ∈ runs.flatMap (·.plan.shipments)) :
    1 ≤ (plan.keys a).length ∧
      (plan.keys a).length ≤ min (max e.settings.maxBatchSize 1) 1000 := by
  obtain ⟨run, hrun, h⟩ := List.mem_flatMap.1 h
  obtain ⟨rfl, some⟩ := Plan.mem_shipments h
  have most := length_of_mem_chunksOf (first.subset (List.mem_map_of_mem hrun))
  have inside := (run.keys_sublist a).length_le
  rw [List.length_map] at inside
  exact ⟨List.length_pos_iff.2 some, Nat.le_trans inside most⟩

/-! ## Whole calls -/

/-- The first chunks of the intents came to be sent and stand one behind another in the exchanges, all
else there is no part of an attempt, and their batches are being sent in their order. -/
def InSequence (e : Engine) (exclusions : ExclusionTable) (intents : List SignedRegistration)
    (t : List Exchange) : Prop :=
  ∃ (runs : List (ChunkRun e exclusions)) (rest : List Exchange),
    t = ⟨.acquire .session, ()⟩ :: ⟨.exclusions, exclusions⟩ ::
      (runs.flatMap (·.exchanges) ++ rest) ∧
    (∀ x ∈ rest, x.question.Between) ∧
    runs.map (·.chunk) <+: e.chunksOf intents ∧
    e.dispatcher.Follows t (runs.flatMap (·.plan.shipments))

theorem course_begun (runs : List (FinishedRun e exclusions)) :
    e.dispatcher.Course
      (⟨.acquire .session, ()⟩ :: ⟨.exclusions, exclusions⟩ :: runs.flatMap (·.exchanges))
      (runs.flatMap (·.plan.shipments)) :=
  course_runs (course_opening exclusions) runs

theorem InSequence.of_finished {intents : List SignedRegistration} {rest : List Exchange}
    (runs : List (FinishedRun e exclusions)) (first : runs.map (·.chunk) <+: e.chunksOf intents)
    (apart : ∀ x ∈ rest, x.question.Between) :
    e.InSequence exclusions intents (⟨.acquire .session, ()⟩ :: ⟨.exclusions, exclusions⟩ ::
      (runs.flatMap (·.exchanges) ++ rest)) := by
  refine ⟨runs.map (·.toChunkRun), rest, ?asked, apart, ?chunks, ?follows⟩
  case asked => rw [List.flatMap_map]
  case chunks =>
    rw [List.map_map]
    exact first
  case follows =>
    rw [List.flatMap_map]
    exact ((course_begun runs).between rest apart).follows (List.prefix_refl _)

/-- One chunk more is being sent. -/
theorem InSequence.of_begun {intents : List SignedRegistration}
    {later : List (List SignedRegistration)} (runs : List (FinishedRun e exclusions))
    (run : ChunkRun e exclusions)
    (first : e.chunksOf intents = runs.map (·.chunk) ++ run.chunk :: later) :
    e.InSequence exclusions intents (⟨.acquire .session, ()⟩ :: ⟨.exclusions, exclusions⟩ ::
      (runs.flatMap (·.exchanges) ++ run.exchanges)) := by
  refine ⟨runs.map (·.toChunkRun) ++ [run], [], ?asked, List.forall_mem_nil _, ?chunks, ?follows⟩
  case asked =>
    rw [List.flatMap_append, List.flatMap_map, List.flatMap_singleton, List.append_nil]
  case chunks =>
    rw [List.map_append, List.map_map, first]
    exact ⟨later, List.append_assoc ..⟩
  case follows =>
    have opened := (course_begun runs).between run.opening run.opening_between
    have sending := opened.dispatch run.sends
    rw [List.flatMap_append, List.flatMap_map, List.flatMap_singleton, run.exchanges_eq]
    simpa only [List.append_assoc, List.cons_append] using sending

/-- At every moment of a call it has come no further than to its lock, or stands somewhere in the
sequence. -/
theorem processRegistrations_follows {intents : List SignedRegistration}
    (h : (e.processRegistrations intents).Begins t) :
    t <+: [⟨.acquire .session, ()⟩] ∨ ∃ exclusions, e.InSequence exclusions intents t := by
  obtain early | ⟨exclusions, runs, under, closing, rfl, closes, stands⟩ :=
    processRegistrations_stages h
  · exact .inl early
  refine .inr ⟨exclusions, ?_⟩
  -- Unless a chunk is being sent, no attempt is on its way.
  have settled (first : runs.map (·.chunk) <+: e.chunksOf intents)
      (apart : ∀ x ∈ under, x.question.Between) :
      e.InSequence exclusions intents (⟨.acquire .session, ()⟩ :: ⟨.exclusions, exclusions⟩ ::
        (runs.flatMap (·.exchanges) ++ under ++ closing)) := by
    rw [List.append_assoc]
    exact .of_finished runs first
      (List.forall_mem_append.2 ⟨apart, between_of_prefix_release closes⟩)
  obtain ⟨all, rfl⟩ | ⟨chunk, later, split, ⟨begun, rfl⟩ | ⟨err, failed⟩⟩ := stands
  · exact settled (all ▸ List.prefix_refl _) (List.forall_mem_nil _)
  · obtain preliminary | ⟨run, rfl, rfl⟩ := processChunk_begins begun
    · exact settled (split ▸ List.prefix_append ..) fun x hx => .inl (preliminary x hx)
    · rw [List.append_nil]
      exact .of_begun runs run split
  · have looks := (readStatuses_preliminary e _).question_of_yields failed
    exact settled (split ▸ List.prefix_append ..) fun x hx => .inl (looks x hx)

/-- A call for no intents asks nothing. The chunks of a call put together are its intents without
repetition. At every moment of a call it has come no further than to its lock, or else, for the
exclusions that it read, its first chunks came to be sent one behind another, and nothing besides is
part of an attempt: for each of them in turn the batch for the registry and then the batch for the
ledger, as far as they have rows, are being sent by one attempt each, and no attempt begins before
the one before it was reported as confirmed, failed or unknown. What was broadcast by then carries
these batches to their authorities, in their order and each of them at most once. Each batch has at
least one row and at most as many as the batch size allows, which counts as at least 1 and at most
1000; the rows for an authority come in the order in which their identities first came in the
intents, and no identity has two of them. When the call gives results, the batches of all its chunks
were sent. -/
theorem processRegistrations_sequence (e : Engine) (intents : List SignedRegistration) :
    (∀ t, (e.processRegistrations []).Begins t → t = []) ∧
    (e.chunksOf intents).flatten = dedup SignedRegistration.pubkey intents ∧
    (∀ t, (e.processRegistrations intents).Begins t →
      t <+: [⟨.acquire .session, ()⟩] ∨
      ∃ (exclusions : ExclusionTable) (runs : List (ChunkRun e exclusions)) (rest : List Exchange),
        t = ⟨.acquire .session, ()⟩ :: ⟨.exclusions, exclusions⟩ ::
          (runs.flatMap (·.exchanges) ++ rest) ∧
        (∀ x ∈ rest, x.question.Between) ∧
        runs.map (·.chunk) <+: e.chunksOf intents ∧
        e.dispatcher.Follows t (runs.flatMap (·.plan.shipments)) ∧
        e.dispatcher.Transports (Registrar.broadcasts t) (runs.flatMap (·.plan.shipments)) ∧
        (∀ a plan, (a, plan) ∈ runs.flatMap (·.plan.shipments) →
          1 ≤ (plan.keys a).length ∧
            (plan.keys a).length ≤ min (max e.settings.maxBatchSize 1) 1000) ∧
        ∀ a, (runs.flatMap (·.plan.keys a)).Sublist (intents.map (·.pubkey)).eraseDups ∧
          (runs.flatMap (·.plan.keys a)).Nodup) ∧
    ∀ t results, (e.processRegistrations intents).Yields t (.ok results) →
      (intents = [] ∧ t = []) ∨
      ∃ (exclusions : ExclusionTable) (runs : List (FinishedRun e exclusions)),
        runs.map (·.chunk) = e.chunksOf intents ∧
        t = ⟨.acquire .session, ()⟩ :: ⟨.exclusions, exclusions⟩ ::
          (runs.flatMap (·.exchanges) ++ [⟨.release .session, ()⟩]) ∧
        e.dispatcher.Course t (runs.flatMap (·.plan.shipments)) := by
  refine ⟨fun t h => h, flatten_chunksOf e intents, fun t h => ?_, fun t results h => ?_⟩
  · obtain early | ⟨exclusions, runs, rest, split, apart, first, follows⟩ :=
      processRegistrations_follows h
    · exact .inl early
    refine .inr ⟨exclusions, runs, rest, split, apart, first, follows, follows.transports,
      fun a plan h => length_of_mem_shipments first h, fun a => ?_⟩
    have ordered := keys_sublist_of_runs first a
    exact ⟨ordered, ordered.nodup (nodup_eraseDups _)⟩
  · obtain ⟨none, nothing, -⟩ | ⟨exclusions, runs, all, rfl, -⟩ := processRegistrations_yields h
    · exact .inl ⟨none, nothing⟩
    refine .inr ⟨exclusions, runs, all, rfl, ?_⟩
    exact (course_begun runs).between _ (between_of_prefix_release (List.prefix_refl _))

/-- The sample call sends the batch of its one chunk. -/
theorem processRegistrations_sequence_sample :
    ∃ (t : List Exchange) (results : List ReconciliationResult),
      (settledEngine.processRegistrations [sampleIntent 0]).Yields t (.ok results) ∧
      (∃ (exclusions : ExclusionTable) (runs : List (FinishedRun settledEngine exclusions)),
        runs.map (·.chunk) = settledEngine.chunksOf [sampleIntent 0] ∧
        t = ⟨.acquire .session, ()⟩ :: ⟨.exclusions, exclusions⟩ ::
          (runs.flatMap (·.exchanges) ++ [⟨.release .session, ()⟩]) ∧
        settledEngine.dispatcher.Course t (runs.flatMap (·.plan.shipments))) ∧
      ∃ (exclusions : ExclusionTable) (runs : List (ChunkRun settledEngine exclusions))
        (rest : List Exchange),
        t = ⟨.acquire .session, ()⟩ :: ⟨.exclusions, exclusions⟩ ::
          (runs.flatMap (·.exchanges) ++ rest) ∧
        settledEngine.dispatcher.Follows t (runs.flatMap (·.plan.shipments)) ∧
        settledEngine.dispatcher.Transports (Registrar.broadcasts t)
          (runs.flatMap (·.plan.shipments)) ∧
        ∀ a, (runs.flatMap (·.plan.keys a)).Nodup := by
  obtain ⟨reply, raw, -, -, yields, -⟩ := run_settledEngine
  obtain ⟨-, -, underway, ended⟩ :=
    processRegistrations_sequence settledEngine [sampleIntent 0]
  refine ⟨_, _, yields, (ended _ _ yields).resolve_left fun none => List.cons_ne_nil _ _ none.1, ?_⟩
  obtain early | ⟨exclusions, runs, rest, split, -, -, follows, transports, -, rows⟩ :=
    underway _ yields.begins
  · -- The lock is not all that the sample call asks for.
    have short := early.length_le
    simp [sampleTrace] at short
  · exact ⟨exclusions, runs, rest, split, follows, transports, fun a => (rows a).2⟩

end Engine

end Registrar
