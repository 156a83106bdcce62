import Registrar.Proofs.Accounting
import Registrar.Proofs.Course
import Registrar.Proofs.Settling
import Registrar.Proofs.SettlingNode

/-! A second run has nothing to do: once all that the first run of a call sent is confirmed and
applied, the same call sends nothing and tells of every identity that it is done with. -/
namespace Registrar
set_option autoImplicit false

open Program Contract

/-! ## Both calls -/

/-- What an identity adds to the plan of the first call. -/
def Signers.due (o : Signers) (e : Engine) (table : ExclusionTable) (initial : Holdings)
    (intent : SignedRegistration) : Plan :=
  o.outcome e (table.entry intent.pubkey) (e.statusIn initial intent.pubkey) intent

/-- What it adds to the plan of the second one. -/
def Signers.dueAgain (o : Signers) (e : Engine) (table : ExclusionTable) (initial : Holdings)
    (intent : SignedRegistration) : Plan :=
  o.outcome e (table.entry intent.pubkey)
    ((e.statusIn initial intent.pubkey).after e.signer (o.due e table initial intent)) intent

namespace Engine

variable {e : Engine} {reader : StatusReader} {o : Signers} {table : ExclusionTable}
  {initial : Holdings} {applied : List Exchange → List Bytes} {t : List Exchange}
  {intents : List SignedRegistration}

/-- What the surroundings owe the engine over the exchanges. Every look-up succeeds, the signers
answer alike, the exclusions stay, and what is confirmed has been applied. -/
structure Obliging (e : Engine) (reader : StatusReader) (o : Signers) (table : ExclusionTable)
    (initial : Holdings) (applied : List Exchange → List Bytes) (t : List Exchange) : Prop where
  served : reader.Served t
  signers : o.Answer t
  exclusions : ∀ answer, ⟨.exclusions, answer⟩ ∈ t → answer = table
  applies : e.Applying reader initial applied t

/-- All attempts of the exchanges were confirmed, none of them with a transaction that is longer than
a length can tell. -/
structure AllConfirmed (t : List Exchange) : Prop where
  confirmed : ∀ a n status, report a n status ∈ t → ∃ hash, status = .confirmed hash
  short : ∀ raw ∈ broadcasts t, raw.length < 2 ^ 64

theorem AllConfirmed.mono {u : List Exchange} (h : AllConfirmed t) (hu : u ⊆ t) :
    AllConfirmed u where
  confirmed a n status hx := h.confirmed a n status (hu hx)
  short raw hraw := by
    obtain ⟨answer, hx⟩ := mem_broadcasts.1 hraw
    exact h.short raw (mem_broadcasts.2 ⟨answer, hu hx⟩)

theorem nodup_map_pubkey_chunksOf (e : Engine) (intents : List SignedRegistration) :
    ((e.chunksOf intents).flatten.map (·.pubkey)).Nodup := by
  rw [map_pubkey_chunksOf]
  exact nodup_eraseDups _

theorem due_used (intent : SignedRegistration)
    (h : (o.due e table initial intent).delegationBatch ≠ []) :
    e.settings.delegation.isSome = true := by
  obtain empty | ⟨prepared, signature, -, -, needed, rows⟩ :=
    o.outcome_cases e (table.entry intent.pubkey) (e.statusIn initial intent.pubkey) intent
  · rw [Signers.due, empty] at h
    exact absurd rfl h
  · rw [Signers.due, rows] at h
    cases signature with
    | none => exact absurd rfl h
    | some signature =>
      obtain ⟨⟨ledger, hl, -⟩, -⟩ := needsDelegation_classify.1 needed
      have used := congrArg Option.isSome hl
      rwa [statusIn, Option.isSome_map] at used

theorem hasPart_due (intent : SignedRegistration) :
    (o.due e table initial intent).HasPart intent.pubkey (o.due e table initial intent) :=
  o.hasPart_outcome e (table.entry intent.pubkey) (e.statusIn initial intent.pubkey) intent

/-- A chunk that is read once a plan has been carried out, and nothing has been sent since, finds
each identity as its part of that plan leaves it, and is planned by that. -/
theorem ChunkRun.plan_of_entered (run : ChunkRun e table) (through : e.ReadsThrough reader)
    (obliging : e.Obliging reader o table initial applied t) {whole : Plan}
    {earlier between : List Exchange} (entered : e.Enters whole earlier) (silent : Silent between)
    (inside : earlier ++ between ++ run.opening <+: t) {part : SignedRegistration → Plan}
    (hpart : ∀ intent ∈ run.chunk, whole.HasPart intent.pubkey (part intent))
    (used : ∀ intent, (part intent).delegationBatch ≠ [] → e.settings.delegation.isSome = true) :
    run.plan = Plan.flat (run.chunk.map fun intent =>
      o.outcome e (table.entry intent.pubkey)
        ((e.statusIn initial intent.pubkey).after e.signer (part intent)) intent) := by
  obtain ⟨behind, rfl⟩ := inside
  have mirrors := obliging.applies.mirrors
  have split : earlier ++ between ++ run.opening ++ behind =
      earlier ++ between ++ run.reading ++ (run.preparing ++ run.planning ++ behind) := by
    simp [ChunkRun.opening]
  rw [split] at mirrors
  refine run.plan_eq through mirrors (obliging.signers.mono fun x hx => by simp [hx]) ?_
  intro u hu intent hintent
  -- the reading itself sends nothing, so the records stand still throughout
  have reading : Silent u := silent_of_looksUp fun x hx =>
    (readStatuses_looksUp e _).question_of_yields run.reads x (hu.subset hx)
  have since : Silent (between ++ u) := List.forall_mem_append.2 ⟨silent, reading⟩
  rw [List.append_assoc]
  refine entered.statusIn_eq obliging.applies since ?_ (hpart intent hintent) (used intent)
  rw [split, ← List.append_assoc, List.append_assoc (earlier ++ between),
    List.prefix_append_right_inj]
  exact hu.trans (List.prefix_append ..)

/-! ## The first call -/

/-- A chunk of the first call is read as the authorities held it at first, since what was sent
before is about other identities. -/
theorem ChunkRun.plan_first (run : ChunkRun e table) (through : e.ReadsThrough reader)
    (obliging : e.Obliging reader o table initial applied t) {before : List Exchange}
    {earlier : List SignedRegistration}
    (entered : e.Enters (Plan.flat (earlier.map (o.due e table initial))) before)
    (inside : before ++ run.opening <+: t)
    (others : ∀ intent ∈ run.chunk, intent.pubkey ∉ earlier.map (·.pubkey)) :
    run.plan = Plan.flat (run.chunk.map (o.due e table initial)) := by
  rw [← List.append_nil before] at inside
  have absent : ∀ intent ∈ run.chunk, (Plan.flat (earlier.map (o.due e table initial))).HasPart
      intent.pubkey .empty :=
    fun intent h => Plan.hasPart_flat_of_not_mem hasPart_due (others intent h)
  have plan := run.plan_of_entered through obliging entered (List.forall_mem_nil _) inside absent
    fun _ h => absurd rfl h
  simp only [IdentityStatus.after_empty] at plan
  exact plan

/-- The plans of the first call are made up of what is due at first, and they are carried out. -/
theorem enters_runs (through : e.ReadsThrough reader)
    (obliging : e.Obliging reader o table initial applied t) (runs : List (FinishedRun e table))
    (all : AllConfirmed (runs.flatMap (·.exchanges))) {earlier : List SignedRegistration}
    {before : List Exchange} (inside : before ++ runs.flatMap (·.exchanges) <+: t)
    (nodup : ((earlier ++ (runs.map (·.chunk)).flatten).map (·.pubkey)).Nodup)
    (entered : e.Enters (Plan.flat (earlier.map (o.due e table initial))) before) :
    e.Enters (Plan.flat ((earlier ++ (runs.map (·.chunk)).flatten).map (o.due e table initial)))
        (before ++ runs.flatMap (·.exchanges)) ∧
      ∀ run ∈ runs, run.plan = Plan.flat (run.chunk.map (o.due e table initial)) := by
  induction runs generalizing earlier before with
  | nil => simpa using entered
  | cons run rest ih =>
    rw [List.flatMap_cons] at inside all
    rw [List.flatMap_cons, ← List.append_assoc]
    rw [List.map_cons, List.flatten_cons, ← List.append_assoc] at nodup ⊢
    have others : ∀ intent ∈ run.chunk, intent.pubkey ∉ earlier.map (·.pubkey) := by
      intro intent hintent hk
      rw [List.append_assoc, List.map_append, List.map_append] at nodup
      exact List.disjoint_of_nodup_append nodup hk
        (List.mem_append_left _ (List.mem_map_of_mem hintent))
    have opened : before ++ run.opening <+: t := by
      refine List.IsPrefix.trans ?_ inside
      rw [run.exchanges_eq, List.append_assoc, List.prefix_append_right_inj]
      exact List.prefix_append ..
    have plan := run.plan_first through obliging entered opened others
    have step : e.Enters (Plan.flat ((earlier ++ run.chunk).map (o.due e table initial)))
        (before ++ run.exchanges) := by
      have own := all.mono (List.subset_append_left ..)
      rw [List.map_append, Plan.flat_append, ← plan]
      exact entered.append (run.enters own.short own.confirmed)
    rw [← List.append_assoc] at inside
    obtain ⟨entered, plans⟩ := ih (all.mono (List.subset_append_right ..)) inside nodup step
    exact ⟨entered, List.forall_mem_cons.2 ⟨plan, plans⟩⟩

/-- Recording attempts changes nothing that a repetition is measured by. -/
theorem FinishedRun.repeats (run : FinishedRun e table) {again : List ReconciliationResult}
    (h : List.Forall₂ ReconciliationResult.Repeats run.plan.results again) :
    List.Forall₂ ReconciliationResult.Repeats run.final.results again := by
  obtain ⟨part, attempt, -, -, final⟩ := Dispatcher.dispatch_carried run.finishes
  rw [final, Plan.dispatched, Plan.results_record, Plan.results_record, List.map_map,
    List.forall₂_map_left_iff]
  refine h.imp fun r again same => ⟨?_, ?_, ?_, same.registry, same.delegation⟩
  · simpa using same.pubkey
  · simpa using same.representative
  · simpa using same.payoutRecipient

theorem forall₂_flatMap {α β γ : Type} {R : β → γ → Prop} {f : α → List β} {g : α → List γ}
    {items : List α} (h : ∀ a ∈ items, List.Forall₂ R (f a) (g a)) :
    List.Forall₂ R (items.flatMap f) (items.flatMap g) := by
  induction items with
  | nil => exact .nil
  | cons a rest ih =>
    rw [List.flatMap_cons, List.flatMap_cons]
    exact List.rel_append (h a List.mem_cons_self)
      (ih fun a ha => h a (List.mem_cons_of_mem _ ha))

/-- The results of the first call, each repeated by what is due again. -/
theorem repeats_runs (signer : e.signer.isZero = false) {runs : List (FinishedRun e table)}
    (plans : ∀ run ∈ runs, run.plan = Plan.flat (run.chunk.map (o.due e table initial))) :
    List.Forall₂ ReconciliationResult.Repeats (runs.flatMap (·.final.results))
      ((runs.map (·.chunk)).flatten.flatMap fun intent =>
        (o.dueAgain e table initial intent).results) := by
  rw [← List.flatMap_def, List.flatMap_assoc]
  refine forall₂_flatMap fun run hrun => run.repeats ?_
  rw [plans run hrun, Plan.flat_map]
  exact forall₂_flatMap fun intent _ => (o.settles_after signer).results

/-- A call that has ended has carried out what was due of its identities. -/
theorem processRegistrations_enters (through : e.ReadsThrough reader)
    (signer : e.signer.isZero = false) (obliging : e.Obliging reader o table initial applied t)
    {u : List Exchange} (inside : u <+: t) (all : AllConfirmed u)
    {r : Except Error (List ReconciliationResult)}
    (h : (e.processRegistrations intents).Yields u r) :
    ∃ results, r = .ok results ∧
      e.Enters (Plan.flat ((e.chunksOf intents).flatten.map (o.due e table initial))) u ∧
      List.Forall₂ ReconciliationResult.Repeats results
        ((e.chunksOf intents).flatten.flatMap fun intent =>
          (o.dueAgain e table initial intent).results) := by
  obtain ⟨results, rfl⟩ :=
    processRegistrations_ok through (obliging.served.mono inside.subset) h
  refine ⟨results, rfl, ?_⟩
  obtain ⟨rfl, rfl, rfl⟩ | ⟨exclusions, runs, hruns, rfl, rfl⟩ := processRegistrations_yields h
  · rw [chunksOf_nil]
    exact ⟨.of_silent (List.forall_mem_nil _), .nil⟩
  obtain rfl := obliging.exclusions exclusions (inside.subset (by simp))
  have nodup : (((runs.map (·.chunk)).flatten).map (·.pubkey)).Nodup := by
    rw [hruns]
    exact nodup_map_pubkey_chunksOf e intents
  have opening : Silent [⟨.acquire .session, ()⟩, ⟨.exclusions, exclusions⟩] :=
    List.forall_mem_cons.2 ⟨nofun, List.forall_mem_singleton.2 nofun⟩
  have split : ⟨.acquire .session, ()⟩ :: ⟨.exclusions, exclusions⟩ ::
      (runs.flatMap (·.exchanges) ++ [⟨.release .session, ()⟩]) =
      [⟨.acquire .session, ()⟩, ⟨.exclusions, exclusions⟩] ++ runs.flatMap (·.exchanges) ++
        [⟨.release .session, ()⟩] := rfl
  rw [split] at inside all ⊢
  have sent : AllConfirmed (runs.flatMap (·.exchanges)) := all.mono fun x hx => by simp [hx]
  have unsent : e.Enters (Plan.flat (List.map (o.due e exclusions initial) []))
      [⟨.acquire .session, ()⟩, ⟨.exclusions, exclusions⟩] := .of_silent opening
  obtain ⟨entered, plans⟩ :=
    enters_runs through obliging runs sent ((List.prefix_append ..).trans inside) nodup unsent
  rw [← hruns]
  exact ⟨entered.append_silent (silent_release _), repeats_runs signer plans⟩

/-! ## The second call -/

/-- Sending a plan without rows comes to nothing. -/
theorem dispatch_noop {d : Dispatcher} {plan : Plan} (h : plan.isNoop = true) :
    d.dispatch plan = .done (.ok (), plan) := by
  obtain ⟨registry, delegation⟩ := Bool.and_eq_true_iff.1 h
  rw [Dispatcher.dispatch, Dispatcher.sendRegistrations, if_pos registry]
  change d.sendDelegations plan = _
  rw [Dispatcher.sendDelegations, if_pos delegation]

section

variable (through : e.ReadsThrough reader) (signer : e.signer.isZero = false)
  (obliging : e.Obliging reader o table initial applied t) {first u : List Exchange}
  (entered : e.Enters (Plan.flat ((e.chunksOf intents).flatten.map (o.due e table initial))) first)
  (inside : first ++ u <+: t)

include through signer obliging entered inside

/-- Each chunk of the second call has nothing to send. -/
theorem plan_again {exclusions : ExclusionTable} {run : ChunkRun e exclusions}
    {before behind : List Exchange} (read : ⟨.exclusions, exclusions⟩ ∈ before)
    (chunk : run.chunk ∈ e.chunksOf intents) (silent : Silent before)
    (split : u = before ++ (run.opening ++ behind)) :
    run.plan = Plan.flat (run.chunk.map (o.dueAgain e table initial)) ∧
      run.plan.isNoop = true := by
  obtain rfl := obliging.exclusions exclusions (inside.subset (by simp [split, read]))
  have opened : first ++ before ++ run.opening <+: t := by
    refine List.IsPrefix.trans ?_ inside
    rw [split, List.append_assoc, List.prefix_append_right_inj, List.prefix_append_right_inj]
    exact List.prefix_append ..
  have plan : run.plan = Plan.flat (run.chunk.map (o.dueAgain e exclusions initial)) :=
    run.plan_of_entered through obliging entered silent opened
      (fun intent h => Plan.hasPart_flat hasPart_due (nodup_map_pubkey_chunksOf e intents)
        ((List.sublist_flatten_of_mem chunk).subset h)) due_used
  refine ⟨plan, plan ▸ Plan.isNoop_flat fun intent _ => ?_⟩
  exact (o.settles_after signer).noop

/-- So the second call sends nothing at all: before its first broadcast or report, some chunk would
have had something to send. -/
theorem calm_again (h : (e.processRegistrations intents).Begins u) :
    ∀ x ∈ u, x.question.Calm := by
  induction u using List.reverseRecOn with
  | nil => exact List.forall_mem_nil _
  | append_singleton u x ih =>
    have earlier := ih ((List.prefix_append_right_inj _).2 (List.prefix_append ..) |>.trans inside)
      h.of_append
    refine List.forall_mem_append.2 ⟨earlier, List.forall_mem_singleton.2 ?_⟩
    by_contra loud
    obtain ⟨exclusions, run, before, sent, read, chunk, rfl, sending⟩ :=
      processRegistrations_begins_concat h loud
    have split : before ++ (run.opening ++ sent) ++ [x] =
        before ++ (run.opening ++ (sent ++ [x])) := by simp
    obtain ⟨-, noop⟩ := plan_again through signer obliging entered inside read chunk
      (fun x hx => (earlier x (List.mem_append_left _ hx)).1) split
    have sends := run.sends
    rw [dispatch_noop noop, sending] at sends
    exact absurd sends (by simp)

theorem not_stalls_again : ¬(e.processRegistrations intents).Stalls u := by
  intro h
  obtain ⟨exclusions, run, before, read, chunk, split, stalls⟩ :=
    processRegistrations_stalls through h
  have calm := calm_again through signer obliging entered inside h.begins
  obtain ⟨-, noop⟩ := plan_again through signer obliging entered inside read chunk
    (fun x hx => (calm x (by simp [split, hx])).1) split
  rw [dispatch_noop noop] at stalls
  exact stalls

theorem results_again {results : List ReconciliationResult}
    (h : (e.processRegistrations intents).Yields u (.ok results)) :
    results = (e.chunksOf intents).flatten.flatMap fun intent =>
      (o.dueAgain e table initial intent).results := by
  have calm := calm_again through signer obliging entered inside h.begins
  obtain ⟨rfl, rfl, rfl⟩ | ⟨exclusions, runs, hruns, rfl, rfl⟩ := processRegistrations_yields h
  · rw [chunksOf_nil]
    rfl
  rw [← hruns, ← List.flatMap_def, List.flatMap_assoc]
  refine List.flatMap_congr fun run hrun => ?_
  obtain ⟨before, behind, rfl⟩ := List.append_of_mem hrun
  have split : ⟨.acquire .session, ()⟩ :: ⟨.exclusions, exclusions⟩ ::
      ((before ++ run :: behind).flatMap (·.exchanges) ++ [⟨.release .session, ()⟩]) =
      [⟨.acquire .session, ()⟩, ⟨.exclusions, exclusions⟩] ++ before.flatMap (·.exchanges) ++
        (run.opening ++ (run.sending ++ behind.flatMap (·.exchanges) ++
          [⟨.release .session, ()⟩])) := by
    simp [ChunkRun.exchanges_eq]
  rw [split] at calm inside
  obtain ⟨plan, noop⟩ := plan_again through signer obliging entered inside (by simp)
    (hruns ▸ List.mem_map_of_mem hrun) (fun x hx => (calm x (List.mem_append_left _ hx)).1) rfl
  have finishes := run.finishes
  rw [dispatch_noop noop] at finishes
  have final : run.final = run.plan := congrArg Prod.snd finishes.2
  rw [final, plan, Plan.flat_map]

end

/-! ## Made twice -/

variable {σ : Type}

/-- Where look-ups succeed and signers answer alike, and all that the first call sends is confirmed
and applied, the second of two equal calls sends nothing. It gives a result for each identity that
the first call gave one for, in the same order and with the same parties, and each of them is done
with. -/
theorem processRegistrations_twice (through : e.ReadsThrough reader)
    (signer : e.signer.isZero = false) (h : Surroundings σ) {s s' : σ}
    {first : Except Error (List ReconciliationResult)}
    (ran : (e.processRegistrations intents).run h s = (some first, s'))
    (all : AllConfirmed ((e.processRegistrations intents).transcript h s))
    (obliging : e.Obliging reader o table initial applied
      ((e.processRegistrations intents).transcript h s ++
        (e.processRegistrations intents).transcript h s')) :
    ∃ results again s'', first = .ok results ∧
      (e.processRegistrations intents).run h s' = (some (.ok again), s'') ∧
      Silent ((e.processRegistrations intents).transcript h s') ∧
      List.Forall₂ ReconciliationResult.Repeats results again := by
  have yields := yields_transcript h _ s (congrArg Prod.fst ran)
  obtain ⟨results, rfl, entered, repeats⟩ :=
    processRegistrations_enters through signer obliging (List.prefix_append ..) all yields
  have begins := begins_of_prefix_transcript h (e.processRegistrations intents) s' List.prefix_rfl
  have calm := calm_again through signer obliging entered List.prefix_rfl begins
  cases hr : ((e.processRegistrations intents).run h s').1 with
  | none =>
    exact absurd (stalls_transcript h _ s' hr)
      (not_stalls_again through signer obliging entered List.prefix_rfl)
  | some r =>
    have yields := yields_transcript h _ s' hr
    obtain ⟨again, rfl⟩ := processRegistrations_ok through
      (obliging.served.mono (List.subset_append_right ..)) yields
    refine ⟨results, again, _, rfl, Prod.ext hr rfl, fun x hx => (calm x hx).1, ?_⟩
    rw [results_again through signer obliging entered List.prefix_rfl yields]
    exact repeats

/-- The sample call, made twice: it registers its one identity, and then has nothing to do. -/
theorem processRegistrations_twice_sample :
    ∃ (results again : List ReconciliationResult) (t u : List Exchange),
      (settledEngine.processRegistrations [sampleIntent 0]).run
        (recording (settledEngine.settlingNode blank)) [] = (some (.ok results), t) ∧
      (settledEngine.processRegistrations [sampleIntent 0]).run
        (recording (settledEngine.settlingNode blank)) t = (some (.ok again), u) ∧
      results ≠ [] ∧ ¬Silent ((settledEngine.processRegistrations [sampleIntent 0]).transcript
        (recording (settledEngine.settlingNode blank)) []) ∧
      Silent ((settledEngine.processRegistrations [sampleIntent 0]).transcript
        (recording (settledEngine.settlingNode blank)) t) ∧
      List.Forall₂ ReconciliationResult.Repeats results again := by
  obtain ⟨reply, raw, short, answered, -, ran⟩ := run_settledEngine
  have trace : (settledEngine.processRegistrations [sampleIntent 0]).transcript
      (recording (settledEngine.settlingNode blank)) [] = sampleTrace reply raw := by
    have state := run_recording (f := settledEngine.settlingNode blank)
      (settledEngine.processRegistrations [sampleIntent 0]) []
    rw [ran] at state
    exact state.symm
  have both := answered.run (settledEngine.processRegistrations [sampleIntent 0])
  rw [run_recording] at both
  have all : AllConfirmed (sampleTrace reply raw) := by
    constructor
    · intro a n status hx
      obtain ⟨-, -, rfl⟩ : a = .registry ∧ n = 1 ∧
          status = .confirmed (Transaction.hashRaw raw) := by
        simpa [sampleTrace, sampleChunk, samplePlanning, sampleSending, report] using hx
      exact ⟨_, rfl⟩
    · intro other hraw
      obtain rfl : other = raw := List.mem_singleton.1 hraw
      exact short
  have obliging : settledEngine.Obliging settledReader absentSigners Gateway.sampleExclusions
      blank broadcasts
      ((settledEngine.processRegistrations [sampleIntent 0]).transcript
        (recording (settledEngine.settlingNode blank)) [] ++
      (settledEngine.processRegistrations [sampleIntent 0]).transcript
        (recording (settledEngine.settlingNode blank)) (sampleTrace reply raw)) := by
    rw [trace]
    exact ⟨served_settlingNode both settledReader, answer_settlingNode both,
      exclusions_settlingNode both, applying_settlingNode both settledReader⟩
  rw [← trace] at all
  obtain ⟨results, again, u, same, ran', silent, repeats⟩ :=
    processRegistrations_twice readsThrough_settledReader isZero_signer_settledEngine
      (recording (settledEngine.settlingNode blank)) ran all obliging
  cases same
  refine ⟨_, again, _, u, ran, ran', List.cons_ne_nil _ _, ?_, silent, repeats⟩
  rw [trace]
  exact fun silent => List.cons_ne_nil raw [] (broadcasts_of_silent silent)

end Engine

end Registrar
