import Registrar.Proofs.Calls
import Mathlib.Data.List.Destutter
import Mathlib.Data.List.Infix

/-! The phases that a transaction goes through, whatever is called. They follow the way to confirmation
from its beginning and without a gap, and can turn into failure anywhere before its end; behind
confirmation and behind failure comes nothing. -/
namespace Registrar
set_option autoImplicit false

namespace Phase

/-! ## Courses -/

/-- The phases on the way to confirmation. -/
def way : List Phase :=
  [built, signed, submitted, pending, confirmed]

/-- From one phase of the way to the next one, or into failure while neither end is reached. -/
def IsMove (origin target : Phase) : Prop :=
  [origin, target] <:+: way ∨ (target = failed ∧ origin ≠ confirmed ∧ origin ≠ failed)

/-- A beginning of the road, alone or, when it stops before confirmation, with failure behind it. -/
def IsCourse (road phases : List Phase) : Prop :=
  ∃ begun, begun ≠ [] ∧ begun <+: road ∧
    (phases = begun ∨ (confirmed ∉ begun ∧ phases = begun ++ [failed]))

/-- Each phase can be moved to from the one before it. -/
abbrev Connected (phases : List Phase) : Prop :=
  phases.IsChain fun origin target => origin.allows target = true

variable {origin target phase : Phase} {phases rest : List Phase}

theorem allows_iff_mem : origin.allows target = true ↔ (origin, target) ∈ moves :=
  List.contains_iff_mem

/-- The table of moves has the rows of these moves and no others. -/
theorem allows_iff : origin.allows target = true ↔ IsMove origin target := by
  rw [allows_iff_mem, IsMove]
  cases origin <;> cases target <;> decide

theorem not_allows_self (phase : Phase) : phase.allows phase = false := by
  cases phase <;> decide

theorem not_allows_of_ended (ended : origin = confirmed ∨ origin = failed) (target : Phase) :
    origin.allows target = false := by
  obtain rfl | rfl := ended <;> cases target <;> decide

theorem way_nodup : way.Nodup := by decide

theorem failed_not_mem_way : failed ∉ way := by decide

theorem way_connected : Connected way := by decide

theorem IsCourse.nodup (h : IsCourse way phases) : phases.Nodup := by
  obtain ⟨begun, -, under, rfl | ⟨-, rfl⟩⟩ := h
  · exact under.sublist.nodup way_nodup
  · refine List.nodup_append.2 ⟨under.sublist.nodup way_nodup, List.nodup_singleton _, ?_⟩
    rintro phase hphase _ hfailed rfl
    rw [List.mem_singleton.1 hfailed] at hphase
    exact failed_not_mem_way (under.subset hphase)

theorem IsCourse.exists_cons (h : IsCourse way phases) : ∃ rest, phases = built :: rest := by
  obtain ⟨begun, some, under, same⟩ := h
  obtain none | ⟨more, rfl, -⟩ := List.prefix_cons_iff.1 under
  · exact absurd none some
  · obtain rfl | ⟨-, rfl⟩ := same
    · exact ⟨more, rfl⟩
    · exact ⟨more ++ [failed], rfl⟩

theorem IsCourse.connected (h : IsCourse way phases) : Connected phases := by
  obtain ⟨begun, -, under, same⟩ := h
  have moves : Connected begun := List.IsChain.prefix way_connected under
  obtain rfl | ⟨unconfirmed, rfl⟩ := same
  · exact moves
  · refine List.isChain_append.2 ⟨moves, List.isChain_singleton _, ?_⟩
    intro last hlast target htarget
    have mem : last ∈ begun := List.mem_of_getLast? hlast
    cases htarget
    refine allows_iff.2 (.inr ⟨rfl, ?_, ?_⟩)
    · rintro rfl
      exact unconfirmed mem
    · rintro rfl
      exact failed_not_mem_way (under.subset mem)

/-- The rest of the way from a phase on. -/
def onward (phase : Phase) : List Phase :=
  way.dropWhile (· ≠ phase)

theorem onward_of_next (next : [origin, target] <:+: way) :
    origin.onward = origin :: target.onward := by
  revert next
  cases origin <;> cases target <;> decide

theorem singleton_prefix_onward (unfailed : phase ≠ failed) : [phase] <+: phase.onward := by
  revert unfailed
  cases phase <;> decide

/-- From a phase of the way on, moves follow the rest of the way, and none comes behind failure. -/
theorem isCourse_of_connected (unfailed : phase ≠ failed) (h : Connected (phase :: rest)) :
    IsCourse phase.onward (phase :: rest) := by
  induction rest generalizing phase with
  | nil => exact ⟨[phase], List.cons_ne_nil _ _, singleton_prefix_onward unfailed, .inl rfl⟩
  | cons target rest ih =>
    obtain ⟨allowed, others⟩ := List.isChain_cons_cons.1 h
    obtain next | ⟨rfl, unended, -⟩ := allows_iff.1 allowed
    · -- The move goes on along the way, and the rest is a course from there.
      have onWay : target ≠ failed := by
        rintro rfl
        exact failed_not_mem_way (next.subset (by simp))
      have unended : confirmed ≠ phase := by
        rintro rfl
        rw [not_allows_of_ended (.inl rfl)] at allowed
        cases allowed
      rw [onward_of_next next]
      obtain ⟨begun, -, under, same⟩ := ih onWay others
      refine ⟨phase :: begun, List.cons_ne_nil _ _, List.cons_prefix_cons.2 ⟨rfl, under⟩, ?_⟩
      obtain same | ⟨unconfirmed, same⟩ := same
      · exact .inl (by rw [same])
      · exact .inr ⟨by simp [unended, unconfirmed], by rw [same, List.cons_append]⟩
    · -- The move goes into failure, and from there none is left.
      cases rest with
      | nil =>
        refine ⟨[phase], List.cons_ne_nil _ _, singleton_prefix_onward unfailed, .inr ⟨?_, rfl⟩⟩
        simpa using Ne.symm unended
      | cons behind rest =>
        have moved : failed.allows behind = true := (List.isChain_cons_cons.1 others).1
        rw [not_allows_of_ended (.inr rfl)] at moved
        cases moved

end Phase

namespace Lifecycle

variable {t : Lifecycle} {c : Call} {calls : List Call} {phases rest : List Phase}

/-! ## Visits -/

/-- The phases behind each beginning of the calls, each told once for as long as it lasts. -/
def visited (t : Lifecycle) (calls : List Call) : List Phase :=
  (calls.inits.map fun begun => (t.behind begun).phase).destutter (· ≠ ·)

theorem visited_nil (t : Lifecycle) : t.visited [] = [t.phase] := rfl

theorem visited_cons (t : Lifecycle) (c : Call) (calls : List Call) :
    t.visited (c :: calls) =
      if t.phase = (t.call c).1.phase then (t.call c).1.visited calls
      else t.phase :: (t.call c).1.visited calls := by
  have behind : (c :: calls).inits.map (fun begun => (t.behind begun).phase) =
      t.phase :: calls.inits.map fun begun => ((t.call c).1.behind begun).phase := by
    rw [List.inits_cons, List.map_cons, List.map_map]
    rfl
  obtain ⟨later, first⟩ : ∃ later, calls.inits.map (fun begun => ((t.call c).1.behind begun).phase) =
      (t.call c).1.phase :: later := by
    cases calls with
    | nil => exact ⟨[], rfl⟩
    | cons c' rest => exact ⟨_, by rw [List.inits_cons, List.map_cons]; rfl⟩
  rw [visited, behind, visited, first, List.destutter_cons_cons, List.destutter_cons']
  by_cases same : t.phase = (t.call c).1.phase
  · rw [if_neg (not_not.2 same), if_pos same, same]
  · rw [if_pos same, if_neg same]

/-- A call stays in its phase or makes a move. -/
theorem allows_of_phase_ne (moved : t.phase ≠ (t.call c).1.phase) :
    t.phase.allows (t.call c).1.phase = true := by
  obtain ⟨allowed, done⟩ | ⟨-, done⟩ := t.call_cases c
  · rw [done]
    exact allowed
  · rw [done] at moved
    exact absurd rfl moved

theorem visited_connected (t : Lifecycle) (calls : List Call) :
    ∃ rest, t.visited calls = t.phase :: rest ∧ Phase.Connected (t.phase :: rest) := by
  induction calls generalizing t with
  | nil => exact ⟨[], t.visited_nil, List.isChain_singleton _⟩
  | cons c calls ih =>
    obtain ⟨rest, visits, connected⟩ := ih (t.call c).1
    rw [visited_cons, visits]
    by_cases same : t.phase = (t.call c).1.phase
    · rw [if_pos same, ← same]
      exact ⟨rest, rfl, same ▸ connected⟩
    · rw [if_neg same]
      exact ⟨_, rfl, List.isChain_cons_cons.2 ⟨allows_of_phase_ne same, connected⟩⟩

/-- Moves that follow each other are all made when they are asked for. -/
theorem visited_advance (t : Lifecycle) (connected : Phase.Connected (t.phase :: rest)) :
    t.visited (rest.map .advance) = t.phase :: rest := by
  induction rest generalizing t with
  | nil => exact t.visited_nil
  | cons target rest ih =>
    obtain ⟨allowed, others⟩ := List.isChain_cons_cons.1 connected
    have moved : (t.call (.advance target)).1 = { t with phase := target } := by
      rw [call, advance, if_pos allowed]
    have apart : t.phase ≠ target := by
      intro same
      rw [← same, Phase.not_allows_self] at allowed
      cases allowed
    rw [List.map_cons, visited_cons, moved, if_neg apart, ih { t with phase := target } others]

theorem exists_visited_iff (label : String) :
    (∃ calls, (start label).visited calls = phases) ↔ Phase.IsCourse Phase.way phases := by
  constructor
  · rintro ⟨calls, rfl⟩
    obtain ⟨rest, visits, connected⟩ := visited_connected (start label) calls
    rw [visits]
    have unfailed : Phase.built ≠ Phase.failed := by decide
    exact Phase.isCourse_of_connected unfailed connected
  · intro course
    obtain ⟨rest, rfl⟩ := course.exists_cons
    exact ⟨_, visited_advance (start label) course.connected⟩

/-! ## Ends -/

theorem phase_call_of_ended (ended : t.phase = .confirmed ∨ t.phase = .failed) (c : Call) :
    (t.call c).1.phase = t.phase := by
  obtain ⟨allowed, -⟩ | ⟨-, done⟩ := t.call_cases c
  · rw [Phase.not_allows_of_ended ended] at allowed
    cases allowed
  · rw [done]

theorem phase_behind_of_ended (ended : t.phase = .confirmed ∨ t.phase = .failed)
    (calls : List Call) : (t.behind calls).phase = t.phase := by
  induction calls using List.reverseRecOn with
  | nil => rfl
  | append_singleton calls c ih =>
    rw [behind_concat, phase_call_of_ended (ih ▸ ended), ih]

/-- To fail is to move to failure, and where that move is rejected nothing is said of it. -/
theorem call_fail (t : Lifecycle) : t.call .fail = ((t.call (.advance .failed)).1, .ok ()) := by
  obtain ⟨label, phase, txHash⟩ := t
  cases phase <;> rfl

theorem call_fail_of_ended (ended : t.phase = .confirmed ∨ t.phase = .failed) :
    t.call .fail = (t, .ok ()) := by
  obtain ⟨label, phase, txHash⟩ := t
  obtain rfl | rfl := ended <;> rfl

theorem call_error_iff {e : Error} : (t.call c).2 = .error e ↔
    c ≠ .fail ∧ ¬ Phase.IsMove t.phase c.target ∧
      e = .invalidTransition t.phase.label c.target.label := by
  rw [← Phase.allows_iff]
  obtain ⟨allowed, done⟩ | ⟨rejected, done⟩ := t.call_cases c
  · simp [done, allowed]
  · by_cases failing : c = .fail
    · subst failing
      simp [call]
    · simp [done, failing, rejected, eq_comm]

/-! ## Runs -/

/-- Whatever is called on a fresh transaction, the phases it goes through are a course along the way,
each course comes about, and no phase comes twice in one. No call leaves confirmation or failure. A call
is rejected, with the phase and the one asked for, exactly when it asks for anything but a move; only to
fail is never rejected: it moves wherever failure can be moved to, and behind either end it changes
nothing. -/
theorem visited_exact (label : String) :
    (∀ phases, (∃ calls, (start label).visited calls = phases) ↔
        Phase.IsCourse Phase.way phases) ∧
      (∀ calls, ((start label).visited calls).Nodup) ∧
      (∀ t : Lifecycle, t.phase = .confirmed ∨ t.phase = .failed →
        (∀ calls, (t.behind calls).phase = t.phase) ∧ t.call .fail = (t, .ok ())) ∧
      (∀ (t : Lifecycle) c e, (t.call c).2 = .error e ↔
        c ≠ .fail ∧ ¬ Phase.IsMove t.phase c.target ∧
          e = .invalidTransition t.phase.label c.target.label) ∧
      ∀ t : Lifecycle, t.call .fail = ((t.call (.advance .failed)).1, .ok ()) := by
  refine ⟨fun phases => exists_visited_iff label, ?once, ?ended, fun t c e => call_error_iff,
    call_fail⟩
  case once =>
    intro calls
    exact ((exists_visited_iff label).1 ⟨calls, rfl⟩).nodup
  case ended =>
    intro t ended
    exact ⟨phase_behind_of_ended ended, call_fail_of_ended ended⟩

/-- A transaction that is signed twice, skips a phase in vain, fails twice and is never confirmed. -/
theorem visited_exact_failed :
    let calls : List Call := [.sign (.replicate 32 1), .sign (.replicate 32 2), .advance .pending,
      .advance .submitted, .fail, .fail, .advance .confirmed]
    let t := (start "registry").behind calls
    (start "registry").visited calls = [.built, .signed, .submitted, .failed] ∧
      Phase.IsCourse Phase.way [.built, .signed, .submitted, .failed] ∧
      t.phase = .failed ∧ t.call .fail = (t, .ok ()) ∧
      (t.call (.advance .confirmed)).2 = .error (.invalidTransition "failed" "confirmed") := by
  intro calls t
  obtain ⟨courses, -, ended, rejected, -⟩ := visited_exact "registry"
  have visits : (start "registry").visited calls = [.built, .signed, .submitted, .failed] := by decide
  have failed : t.phase = .failed := by decide
  refine ⟨visits, (courses _).1 ⟨calls, visits⟩, failed, (ended t (.inr failed)).2, ?_⟩
  refine (rejected t (.advance .confirmed) _).2 ⟨nofun, ?_, by rw [failed]; rfl⟩
  rw [failed, ← Phase.allows_iff]
  decide

end Lifecycle

end Registrar
