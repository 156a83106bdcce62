import Registrar.Exclusion.Store
import Registrar.Proofs.Course

/-! One exclusion list for each call. The store may be replaced and reloaded between any two
questions of a call; the call goes by the list that it finds behind the session lock, as if the
store had been left alone, and the next call by the latest list that was published. -/
namespace Registrar
set_option autoImplicit false

open Program

/-! ## Changes of the store -/

/-- What befalls the store at one stroke. A reload takes two of them: it draws its version, and when
it has read the file it publishes what it found. Anything may come in between. -/
inductive StoreChange where
  | replace (table : ExclusionTable)
  | draw
  | load (path : String) (reading : FileReading) (version : UInt64)

def StoreChange.published? : StoreChange → Option ExclusionTable
  | replace table => some table
  | draw => none
  | load path reading version => (ExclusionTable.load path reading version).toOption

namespace ExclusionStore

def change (s : ExclusionStore) : StoreChange → ExclusionStore
  | .replace table => s.replace table
  | .draw => { s with nextVersion := s.nextVersion + 1 }
  | .load path reading version =>
    match ExclusionTable.load path reading version with
    | .ok table => s.replace table
    | .error _ => s

def changeAll (s : ExclusionStore) (changes : List StoreChange) : ExclusionStore :=
  changes.foldl change s

def latest (s : ExclusionStore) (changes : List StoreChange) : ExclusionTable :=
  (changes.filterMap StoreChange.published?).getLast?.getD s.current

theorem changeAll_append (s : ExclusionStore) (changes more : List StoreChange) :
    s.changeAll (changes ++ more) = (s.changeAll changes).changeAll more :=
  List.foldl_append

/-- The two strokes of a reload, one right behind the other, are the reload. -/
theorem reload_store (s : ExclusionStore) (path : String) (reading : FileReading) :
    (s.reload path reading).1 = s.changeAll [.draw, .load path reading s.nextVersion] := by
  simp only [reload, changeAll, List.foldl_cons, List.foldl_nil, change]
  cases ExclusionTable.load path reading s.nextVersion <;> rfl

theorem current_change (s : ExclusionStore) (change : StoreChange) :
    (s.change change).current = change.published?.getD s.current := by
  cases change with
  | replace table => rfl
  | draw => rfl
  | load path reading version =>
    simp only [ExclusionStore.change, StoreChange.published?]
    cases ExclusionTable.load path reading version <;> rfl

theorem current_changeAll (s : ExclusionStore) (changes : List StoreChange) :
    (s.changeAll changes).current = s.latest changes := by
  induction changes generalizing s with
  | nil => rfl
  | cons change rest ih =>
    have first := s.current_change change
    refine (ih (s.change change)).trans ?_
    rw [latest, latest, first]
    cases published : change.published? with
    | none => rw [List.filterMap_cons_none published, Option.getD_none]
    | some table =>
      rw [List.filterMap_cons_some published, List.getLast?_cons, Option.getD_some,
        Option.getD_some]

end ExclusionStore

/-! ## Surroundings in which the store changes -/

/-- The surroundings of a call and the store beside them. The moments are the questions of the
call, counted. -/
structure Changing (σ : Type) where
  world : σ
  store : ExclusionStore
  moment : Nat

/-- The changes that fall on some moments, one behind another. -/
def changesDue (schedule : Nat → List StoreChange) (first moments : Nat) : List StoreChange :=
  (List.range' first moments).flatMap schedule

/-- Whoever asks for the exclusions gets the list that is published. -/
def ExclusionStore.answer (s : ExclusionStore) : (q : Ask) → q.Answer → q.Answer
  | .exclusions, _ => s.current
  | _, answer => answer

variable {α σ : Type} {world : Surroundings σ} {schedule : Nat → List StoreChange}

/-- Before each question what falls on its moment happens to the store. -/
def changing (world : Surroundings σ) (schedule : Nat → List StoreChange) :
    Surroundings (Changing σ) := fun q s =>
  let store := s.store.changeAll (schedule s.moment)
  let reply := world q s.world
  (store.answer q reply.1, ⟨reply.2, store, s.moment + 1⟩)

theorem ExclusionStore.answer_of_ne (s : ExclusionStore) {q : Ask} (h : q ≠ .exclusions)
    (answer : q.Answer) : s.answer q answer = answer := by
  cases q with
  | exclusions => exact absurd rfl h
  | _ => rfl

theorem changesDue_succ (first moments : Nat) :
    changesDue schedule first (moments + 1) =
      schedule first ++ changesDue schedule (first + 1) moments := by
  rw [changesDue, List.range'_succ, List.flatMap_cons, changesDue]

theorem changesDue_add (first moments more : Nat) :
    changesDue schedule first (moments + more) =
      changesDue schedule first moments ++ changesDue schedule (first + moments) more := by
  rw [changesDue, changesDue, changesDue, ← List.flatMap_append, List.range'_append_1]

/-- The list that a call finds which begins now: what is published once it holds the session. -/
def Changing.found (s : Changing σ) (schedule : Nat → List StoreChange) : ExclusionTable :=
  (s.store.changeAll (changesDue schedule s.moment 2)).current

def Changing.afterSnapshot (s : Changing σ) (world : Surroundings σ)
    (schedule : Nat → List StoreChange) : Changing σ :=
  let s := (changing world schedule (.acquire .session) s).2
  (changing world schedule .exclusions s).2

theorem Changing.found_eq (s : Changing σ) : s.found schedule =
    ((s.store.changeAll (schedule s.moment)).changeAll (schedule (s.moment + 1))).current := by
  have none (first : Nat) : changesDue schedule first 0 = [] := rfl
  rw [found, changesDue_succ, changesDue_succ, none, List.append_nil,
    ExclusionStore.changeAll_append]

/-- When a program is over, all that fell on its questions has happened, and nothing else. -/
theorem run_changing_store (world : Surroundings σ) (schedule : Nat → List StoreChange)
    (p : Program α) (s : Changing σ) :
    (p.run (changing world schedule) s).2.moment =
        s.moment + (p.transcript (changing world schedule) s).length ∧
      (p.run (changing world schedule) s).2.store =
        s.store.changeAll (changesDue schedule s.moment
          (p.transcript (changing world schedule) s).length) := by
  induction p generalizing s with
  | done a => exact ⟨rfl, rfl⟩
  | stuck => exact ⟨rfl, rfl⟩
  | ask q next ih =>
    obtain ⟨moment, store⟩ := ih (changing world schedule q s).1 (changing world schedule q s).2
    constructor
    · refine moment.trans ?_
      simp only [changing, transcript, List.length_cons]
      omega
    · refine store.trans ?_
      simp only [transcript, List.length_cons, changesDue_succ, ExclusionStore.changeAll_append]
      rfl

/-! ## What goes by the list -/

/-- The question does not ask for the exclusions; if it tells how an identity is classified, or has
a message signed anew, then that follows from the list. -/
def Ask.GoesBy (e : Engine) (table : ExclusionTable) : Ask → Prop
  | exclusions => False
  | observe (.classified key state) =>
    ∃ statuses : StatusSnapshot,
      state = classify (statuses.identity key) (table.entry key) e.signer
  | signRegistration message =>
    ∃ (statuses : StatusSnapshot) (intent : SignedRegistration) (payout : Address),
      e.overrideFor table statuses intent = some payout ∧
      message = { intent.message with feeRecipient := payout }
  | _ => True

variable {e : Engine} {table : ExclusionTable}

theorem Ask.GoesBy.ne {q : Ask} (h : q.GoesBy e table) : q ≠ .exclusions := by
  rintro rfl
  exact h

theorem Ask.goesBy_of_looksUp {q : Ask} (h : q.looksUp = true) : q.GoesBy e table := by
  cases q with
  | node c => trivial
  | clock | pause => trivial
  | _ => cases h

theorem Ask.Sends.goesBy {P : Bytes → Prop} {q : Ask} (h : q.Sends P) : q.GoesBy e table := by
  cases q with
  | node c => trivial
  | clock | pause => trivial
  | acquire l | release l => trivial
  | _ => cases h

namespace Engine

theorem processChunk_goesBy (e : Engine) (table : ExclusionTable)
    (chunk : List SignedRegistration) :
    (e.processChunk table chunk).Asks (Ask.GoesBy e table) := by
  refine processChunk_asks ((readStatuses_looksUp e _).imp fun _ => Ask.goesBy_of_looksUp)
    (fun statuses => ?preparing) (fun statuses prepared => ?planning) fun plan => ?sending
  case preparing =>
    refine prepare_asks fun intent _ listing => prepareOne_asks trivial (fun payout h => ?_) trivial
    exact ⟨statuses, intent, payout, h, rfl⟩
  case planning =>
    refine reconcile_asks fun prepared _ => planOne_asks ?_ (fun _ => trivial) fun _ => trivial
    exact ⟨statuses, rfl⟩
  case sending =>
    refine (Dispatcher.dispatch_asks e.dispatcher plan).imp fun q asking => ?_
    obtain sends | ⟨a, n, status, rfl⟩ := asking
    · exact sends.goesBy
    · trivial

/-! ## Calls -/

variable {intents : List SignedRegistration}

def goOn (e : Engine) (table : ExclusionTable) (intents : List SignedRegistration) :
    Program (Except Error (List ReconciliationResult)) := do
  let results ← e.processChunks table (e.chunksOf intents)
  request (.release .session)
  return results

theorem goOn_goesBy (e : Engine) (table : ExclusionTable) (intents : List SignedRegistration) :
    (e.goOn table intents).Asks (Ask.GoesBy e table) :=
  (processChunks_asks (processChunk_goesBy e table)).bind fun _ => ⟨trivial, fun _ => trivial⟩

theorem processRegistrations_eq (some : intents ≠ []) :
    e.processRegistrations intents =
      ask (.acquire .session) fun _ => ask .exclusions fun table => e.goOn table intents :=
  if_neg (by simpa using some)

theorem run_changing (some : intents ≠ []) (s : Changing σ) :
    (e.processRegistrations intents).run (changing world schedule) s =
      (e.goOn (s.found schedule) intents).run (changing world schedule)
        (s.afterSnapshot world schedule) := by
  rw [processRegistrations_eq some, Changing.found_eq]
  rfl

theorem transcript_changing (some : intents ≠ []) (s : Changing σ) :
    (e.processRegistrations intents).transcript (changing world schedule) s =
      ⟨.acquire .session, ()⟩ :: ⟨.exclusions, s.found schedule⟩ ::
        (e.goOn (s.found schedule) intents).transcript (changing world schedule)
          (s.afterSnapshot world schedule) := by
  rw [processRegistrations_eq some, Changing.found_eq]
  rfl

theorem goOn_alike {schedule' : Nat → List StoreChange} {s s' : Changing σ}
    (same : s.world = s'.world) :
    ((e.goOn table intents).run (changing world schedule) s).1 =
        ((e.goOn table intents).run (changing world schedule') s').1 ∧
      ((e.goOn table intents).run (changing world schedule) s).2.world =
        ((e.goOn table intents).run (changing world schedule') s').2.world ∧
      (e.goOn table intents).transcript (changing world schedule) s =
        (e.goOn table intents).transcript (changing world schedule') s' := by
  -- The stores may differ as they like: only a question for the exclusions could tell them apart.
  refine (goOn_goesBy e table intents).run_alike
    (R := fun s s' : Changing σ => s.world = s'.world) (fun q s s' goes same => ?_) same
  have plain (schedule : Nat → List StoreChange) (s : Changing σ) :
      (changing world schedule q s).1 = (world q s.world).1 :=
    ExclusionStore.answer_of_ne _ goes.ne _
  refine ⟨?_, ?_⟩
  · rw [plain, plain, same]
  · simp only [changing, same]

theorem stands_changing (s : Changing σ) {t : List Exchange}
    (ht : t <+: (e.processRegistrations intents).transcript (changing world schedule) s) :
    t <+: [⟨.acquire .session, ()⟩] ∨ e.Stands (s.found schedule) intents t := by
  obtain start | ⟨exclusions, stands⟩ :=
    processRegistrations_stages (begins_of_prefix_transcript _ _ s ht)
  · exact .inl start
  by_cases some : intents = []
  · rw [some] at ht
    exact .inl ((List.prefix_nil.1 ht) ▸ List.nil_prefix)
  obtain ⟨runs, under, closing, rfl, rest⟩ := stands
  rw [transcript_changing some, List.cons_prefix_cons, List.cons_prefix_cons] at ht
  obtain ⟨-, same, -⟩ := ht
  cases same
  exact .inr ⟨runs, under, closing, rfl, rest⟩

/-- Of a call that begins with the surroundings in any state, whatever falls between its questions:
it ends as it would with the store left alone, of which the list is the one that it finds behind the
session lock; at each moment its chunks have gone by that list, and so does whatever it classifies
and has signed anew. A call after it finds the list that was published last. -/
theorem processRegistrations_snapshot (e : Engine) (world : Surroundings σ)
    (schedule : Nat → List StoreChange) (intents : List SignedRegistration) (s : Changing σ) :
    let call := e.processRegistrations intents
    let table := s.found schedule
    let asked := call.transcript (changing world schedule) s
    let ended := call.run (changing world schedule) s
    let alone : Changing σ := ⟨s.world, .ofTable table, 0⟩
    let left := call.run (changing world fun _ => []) alone
    (call.transcript (changing world fun _ => []) alone = asked ∧ left.1 = ended.1 ∧
      left.2.world = ended.2.world) ∧
    (∀ t, t <+: asked → t <+: [⟨.acquire .session, ()⟩] ∨ e.Stands table intents t) ∧
    (∀ x ∈ asked.drop 2, x.question.GoesBy e table) ∧
    ∀ next,
      let latest := s.store.latest (changesDue schedule s.moment (asked.length + 2))
      ∀ t, t <+: (e.processRegistrations next).transcript (changing world schedule) ended.2 →
        t <+: [⟨.acquire .session, ()⟩] ∨ e.Stands latest next t := by
  intro call table asked ended alone left
  refine ⟨?alone, fun t => stands_changing s, ?goesBy, fun next => ?next⟩
  case alone =>
    by_cases some : intents = []
    · -- Nothing is asked at all, so that no list is found either.
      subst some
      exact ⟨rfl, rfl, rfl⟩
    have found : alone.found (fun _ => []) = table := alone.found_eq
    have same : (alone.afterSnapshot world fun _ => []).world =
        (s.afterSnapshot world schedule).world := rfl
    have run : ended = _ := run_changing some s
    have runAlone : left = _ := run_changing some alone
    rw [found] at runAlone
    obtain ⟨result, last, rest⟩ := goOn_alike (e := e) same
    refine ⟨?_, ?_, ?_⟩
    · exact (transcript_changing some alone).trans
        (by rw [found, rest, ← transcript_changing some])
    · rw [run, runAlone, result]
    · rw [run, runAlone, last]
  case goesBy =>
    by_cases some : intents = []
    · subst some
      exact fun x hx => absurd hx List.not_mem_nil
    have opened : asked = _ := transcript_changing some s
    rw [opened]
    exact (goOn_goesBy e table intents).question_of_begins
      (begins_of_prefix_transcript _ _ _ (List.prefix_refl _))
  case next =>
    obtain ⟨moment, store⟩ := run_changing_store world schedule call s
    have found : ended.2.found schedule =
        s.store.latest (changesDue schedule s.moment (asked.length + 2)) := by
      rw [Changing.found, moment, store, ← ExclusionStore.changeAll_append, ← changesDue_add,
        ExclusionStore.current_changeAll]
    intro latest t ht
    have stands := stands_changing ended.2 ht
    rwa [found] at stands

/-! ## A list emptied under way -/

open Gateway

/-- A list that keeps both identities from both authorities. -/
def closedTable : ExclusionTable :=
  .ofRecords [⟨.replicate 48 0, ⟨true, true⟩⟩, ⟨.replicate 48 1, ⟨true, true⟩⟩] 6

def closedStart : Changing (List Bytes) :=
  ⟨[], .ofTable closedTable, 0⟩

/-- The file is found empty while the observer is told of the first identity. -/
def emptied : Nat → List StoreChange
  | 3 => [.draw, .load "exclusions.json" (.content []) 7]
  | _ => []

/-- The second identity is kept out like the first, though by then the published list admits it; the
next call goes by the empty list. -/
theorem processRegistrations_snapshot_emptied :
    let call := freshEngine.processRegistrations [sampleIntent 0, sampleIntent 1]
    let asked := call.transcript (changing (takingNode false) emptied) closedStart
    let ended := call.run (changing (takingNode false) emptied) closedStart
    let left := call.run (changing (takingNode false) fun _ => []) closedStart
    asked =
      [⟨.acquire .session, ()⟩, ⟨.exclusions, closedTable⟩,
        ⟨.observe (.classified (.replicate 48 0) .excluded), ()⟩,
        ⟨.observe (.omitted (.replicate 48 0) .excluded), ()⟩,
        ⟨.observe (.classified (.replicate 48 1) .excluded), ()⟩,
        ⟨.observe (.omitted (.replicate 48 1) .excluded), ()⟩, ⟨.release .session, ()⟩] ∧
      left.1 = ended.1 ∧ left.2.world = ended.2.world ∧
      (∀ t, t <+: asked → t <+: [⟨.acquire .session, ()⟩] ∨
        freshEngine.Stands closedTable [sampleIntent 0, sampleIntent 1] t) ∧
      ∀ next t,
        t <+: (freshEngine.processRegistrations next).transcript
          (changing (takingNode false) emptied) ended.2 →
        t <+: [⟨.acquire .session, ()⟩] ∨ freshEngine.Stands (.empty 7) next t := by
  obtain ⟨⟨-, result, world⟩, stands, -, next⟩ :=
    processRegistrations_snapshot freshEngine (takingNode false) emptied
      [sampleIntent 0, sampleIntent 1] closedStart
  exact ⟨rfl, result, world, stands, next⟩

end Engine

end Registrar
