import Mathlib.Algebra.Order.Floor.Div
import Registrar.Proofs.Pausing
import Registrar.Proofs.Pool
import Registrar.Simulation.Scenario

/-! Waiting for a receipt on a clock that moves in pauses only: when the node is polled, when the wait
ends and with what, over all that the polls may find and all that may be sent on the shutdown
channel. -/
namespace Registrar
set_option autoImplicit false

open Program

namespace Simulation

/-! ## Watched waits -/

/-- A world in which the polls are noted. -/
structure Vigil where
  world : World
  /-- The instants of the polls so far. -/
  polls : List Nat

namespace Vigil

def polled (s : Vigil) : Vigil :=
  { s with polls := s.polls ++ [s.world.now] }

/-- The node answers the polls one after the other; all else is up to the world. -/
def answering (answers : Nat → Except Error (Option Receipt)) : Surroundings Vigil
  | .node (.receipt _), s => (answers s.polls.length, s.polled)
  | q, s =>
    let reply := World.surroundings q s.world
    (reply.1, { s with world := reply.2 })

variable (answers : Nat → Except Error (Option Receipt)) (s : Vigil)

@[simp]
theorem polled_world : s.polled.world = s.world := rfl

theorem answering_clock : answering answers .clock s = (s.world.now, s) := rfl

theorem answering_pause (wake : Nat) :
    answering answers (.pause wake) s =
      ((s.world.pause wake).1, ⟨(s.world.pause wake).2, s.polls⟩) := rfl

end Vigil

end Simulation

open Simulation

namespace GatewaySettings

variable {settings : GatewaySettings} {k : Nat}

/-- The instant of a poll in a wait that is not cut short. -/
def pollAt (settings : GatewaySettings) (k : Nat) : Nat :=
  min (k * settings.pollInterval) settings.confirmationTimeout

/-- The number of the poll at which such a wait ends. -/
def lastPoll (settings : GatewaySettings) : Nat :=
  settings.confirmationTimeout ⌈/⌉ settings.pollInterval

theorem pollAt_zero (settings : GatewaySettings) : settings.pollAt 0 = 0 := by
  rw [pollAt, Nat.zero_mul, Nat.zero_min]

theorem lt_lastPoll_iff (interval : 0 < settings.pollInterval) :
    k < settings.lastPoll ↔ k * settings.pollInterval < settings.confirmationTimeout := by
  rw [← Nat.not_le, ← Nat.not_le, lastPoll, ceilDiv_le_iff_le_mul interval, Nat.mul_comm]

theorem pollAt_of_lt (interval : 0 < settings.pollInterval) (h : k < settings.lastPoll) :
    settings.pollAt k = k * settings.pollInterval :=
  Nat.min_eq_left (Nat.le_of_lt ((lt_lastPoll_iff interval).1 h))

theorem pollAt_of_le (interval : 0 < settings.pollInterval) (h : settings.lastPoll ≤ k) :
    settings.pollAt k = settings.confirmationTimeout :=
  Nat.min_eq_right (Nat.le_of_not_lt ((lt_lastPoll_iff interval).not.1 (Nat.not_lt.2 h)))

theorem pollAt_mono {j : Nat} (h : j ≤ k) : settings.pollAt j ≤ settings.pollAt k :=
  min_le_min_right _ (Nat.mul_le_mul_right _ h)

theorem nextPoll_pollAt (interval : 0 < settings.pollInterval) (h : k < settings.lastPoll) :
    Gateway.nextPoll settings settings.confirmationTimeout (settings.pollAt k) =
      settings.pollAt (k + 1) := by
  have one : Nat.max settings.pollInterval 1 = settings.pollInterval := Nat.max_eq_left interval
  rw [Gateway.nextPoll, one, pollAt_of_lt interval h, pollAt, Nat.succ_mul]

/-- The polls of a wait that runs out. -/
theorem polls_at_last (interval : 0 < settings.pollInterval) :
    (List.range (settings.lastPoll + 1)).map settings.pollAt =
      (List.range settings.lastPoll).map (· * settings.pollInterval) ++
        [settings.confirmationTimeout] := by
  have early : (List.range settings.lastPoll).map settings.pollAt =
      (List.range settings.lastPoll).map (· * settings.pollInterval) :=
    List.map_congr_left fun j hj => pollAt_of_lt interval (List.mem_range.1 hj)
  rw [List.range_succ, List.map_append, List.map_singleton, early,
    pollAt_of_le interval (Nat.le_refl _)]

/-- The polls up to an instant before the deadline. -/
theorem polls_before (interval : 0 < settings.pollInterval) {instant : Nat}
    (inTime : instant < settings.confirmationTimeout) :
    (List.range (instant / settings.pollInterval + 1)).map settings.pollAt =
      (List.range (instant / settings.pollInterval + 1)).map (· * settings.pollInterval) := by
  refine List.map_congr_left fun j hj => ?_
  have upTo : j * settings.pollInterval ≤ instant :=
    (Nat.le_div_iff_mul_le interval).1 (Nat.le_of_lt_succ (List.mem_range.1 hj))
  exact pollAt_of_lt interval
    ((lt_lastPoll_iff interval).2 (Nat.lt_of_le_of_lt upTo inTime))

end GatewaySettings

namespace Gateway

variable {g : Gateway} {hash : Word} {life : Lifecycle}
  {answers : Nat → Except Error (Option Receipt)}

/-! ## One turn of a wait -/

/-- A poll, and if it finds nothing before the deadline, a pause. -/
theorem run_turn {deadline : Nat} (s : Vigil) :
    (g.pollFrom hash deadline life s.world.now).run (Vigil.answering answers) s =
      match found? (answers s.polls.length) with
      | some receipt => (some (conclude hash receipt life), s.polled)
      | none =>
        if s.world.now < deadline then
          match s.world.pause (nextPoll g.settings deadline s.world.now) with
          | (.elapsed, w) =>
            (g.pollFrom hash deadline life (nextPoll g.settings deadline s.world.now)).run
              (Vigil.answering answers) ⟨w, s.polled.polls⟩
          | (.stopped, w) =>
            (some (.error (.confirmationCancelled hash.toHex "shutdown"), life),
              ⟨w, s.polled.polls⟩)
        else
          (some (.error (.confirmationCancelled hash.toHex "confirmation timeout"), life),
            s.polled) := by
  rw [pollFrom, run]
  change Program.run (Vigil.answering answers)
    (match found? (answers s.polls.length) with
      | some receipt => _
      | none => _) s.polled = _
  cases found? (answers s.polls.length) with
  | some receipt => rfl
  | none =>
    have same : Nat.max s.world.now s.world.now = s.world.now := Nat.max_self _
    dsimp only
    rw [run, Vigil.answering_clock]
    simp only [Vigil.polled_world, same]
    by_cases early : s.world.now < deadline
    · rw [dif_pos early, if_pos early, run, Vigil.answering_pause, Vigil.polled_world, same]
      generalize s.world.pause (nextPoll g.settings deadline s.world.now) = paused
      obtain ⟨ended, w⟩ := paused
      cases ended <;> rfl
    · rw [dif_neg early, if_neg early, run]

/-! ## Whole waits -/

/-- How a wait ends whose polls find what `found` tells, while shutdown is called for as `called`
tells: with what, at which instant, and after how many polls. -/
inductive Ending (settings : GatewaySettings) (hash : Word) (life : Lifecycle)
    (found : Nat → Option Receipt) (called : Nat → Bool) : Stepped Receipt → Nat → Nat → Prop
  | concluded (k : Nat) (receipt : Receipt) (reached : k ≤ settings.lastPoll)
      (vain : ∀ j < k, found j = none) (h : found k = some receipt)
      (calm : ∀ i < settings.pollAt k, called i = false) :
    Ending settings hash life found called (conclude hash receipt life) (settings.pollAt k) (k + 1)
  | stopped (k instant : Nat) (begun : settings.pollAt k ≤ instant)
      (inTime : instant < settings.pollAt (k + 1)) (vain : ∀ j ≤ k, found j = none)
      (calm : ∀ i < instant, called i = false) (h : called instant = true) :
    Ending settings hash life found called
      (.error (.confirmationCancelled hash.toHex "shutdown"), life) instant (k + 1)
  | expired (vain : ∀ j ≤ settings.lastPoll, found j = none)
      (calm : ∀ i < settings.confirmationTimeout, called i = false) :
    Ending settings hash life found called
      (.error (.confirmationCancelled hash.toHex "confirmation timeout"), life)
      settings.confirmationTimeout (settings.lastPoll + 1)

/-- Before poll `k` of a wait that nothing has ended. -/
structure Turn (settings : GatewaySettings) (found : Nat → Option Receipt) (called : Nat → Bool)
    (k : Nat) (s : Vigil) : Prop where
  reached : k ≤ settings.lastPoll
  now : s.world.now = settings.pollAt k
  polls : s.polls = (List.range k).map settings.pollAt
  vain : ∀ j < k, found j = none
  calm : ∀ i < settings.pollAt k, called i = false
  same : ∀ i, settings.pollAt k ≤ i → s.world.calledAt i = called i

variable {found : Nat → Option Receipt} {called : Nat → Bool} {k : Nat} {s : Vigil}

theorem Turn.first (start : s.world.now = 0) (unpolled : s.polls = []) :
    Turn g.settings found s.world.calledAt 0 s where
  reached := Nat.zero_le _
  now := start.trans (GatewaySettings.pollAt_zero _).symm
  polls := unpolled
  vain _ hj := absurd hj (Nat.not_lt_zero _)
  calm _ hi := absurd (GatewaySettings.pollAt_zero g.settings ▸ hi) (Nat.not_lt_zero _)
  same _ _ := rfl

theorem Turn.polled (turn : Turn g.settings found called k s) :
    s.polled.polls = (List.range (k + 1)).map g.settings.pollAt := by
  rw [Vigil.polled, turn.polls, turn.now, List.range_succ, List.map_append]
  rfl

theorem Turn.length (turn : Turn g.settings found called k s) : s.polls.length = k := by
  rw [turn.polls, List.length_map, List.length_range]

/-- A pause that takes its time leads on to the next turn. -/
theorem Turn.next {after : World} (turn : Turn g.settings found called k s)
    (more : k < g.settings.lastPoll) (none : found k = none)
    (now : after.now = g.settings.pollAt (k + 1))
    (calm : ∀ i, s.world.now ≤ i → i < g.settings.pollAt (k + 1) → s.world.calledAt i = false)
    (same : ∀ i, g.settings.pollAt (k + 1) ≤ i → after.calledAt i = s.world.calledAt i) :
    Turn g.settings found called (k + 1) ⟨after, s.polled.polls⟩ where
  reached := more
  now := now
  polls := turn.polled
  vain j hj := by
    obtain early | rfl := Nat.lt_succ_iff_lt_or_eq.1 hj
    · exact turn.vain j early
    · exact none
  calm i hi := by
    by_cases early : i < g.settings.pollAt k
    · exact turn.calm i early
    · have begun := Nat.le_of_not_lt early
      rw [← turn.same i begun]
      exact calm i (turn.now ▸ begun) hi
  same i hi :=
    (same i hi).trans (turn.same i (Nat.le_trans (GatewaySettings.pollAt_mono (Nat.le_succ k)) hi))

/-- A run gave a result, with the polls at their instants. -/
def Ends (settings : GatewaySettings) (hash : Word) (life : Lifecycle)
    (found : Nat → Option Receipt) (called : Nat → Bool)
    (run : Option (Stepped Receipt) × Vigil) : Prop :=
  ∃ result, run.1 = some result ∧
    run.2.polls = (List.range run.2.polls.length).map settings.pollAt ∧
    Ending settings hash life found called result run.2.world.now run.2.polls.length

/-- A wait from poll `k` on. -/
def runFrom (g : Gateway) (hash : Word) (life : Lifecycle)
    (answers : Nat → Except Error (Option Receipt)) (k : Nat) (s : Vigil) :
    Option (Stepped Receipt) × Vigil :=
  (g.pollFrom hash g.settings.confirmationTimeout life (g.settings.pollAt k)).run
    (Vigil.answering answers) s

/-- A turn ends the wait or leads to the next one. -/
theorem Turn.step (interval : 0 < g.settings.pollInterval)
    (turn : Turn g.settings (fun k => found? (answers k)) called k s) :
    Ends g.settings hash life (fun k => found? (answers k)) called
        (g.runFrom hash life answers k s) ∨
      k < g.settings.lastPoll ∧ ∃ s',
        g.runFrom hash life answers k s = g.runFrom hash life answers (k + 1) s' ∧
          Turn g.settings (fun k => found? (answers k)) called (k + 1) s' := by
  have length : s.polled.polls.length = k + 1 := by
    rw [turn.polled, List.length_map, List.length_range]
  have polls : s.polled.polls =
      (List.range s.polled.polls.length).map g.settings.pollAt := by
    rw [length, turn.polled]
  have turned : g.runFrom hash life answers k s = _ := turn.now ▸ run_turn s
  rw [turned, turn.length]
  cases h : found? (answers k) with
  | some receipt =>
    refine .inl ⟨_, rfl, polls, ?_⟩
    rw [length, show s.polled.world.now = g.settings.pollAt k from turn.now]
    exact .concluded k receipt turn.reached turn.vain h turn.calm
  | none =>
    have vain (j : Nat) (hj : j ≤ k) : found? (answers j) = none := by
      obtain early | rfl := Nat.lt_or_eq_of_le hj
      · exact turn.vain j early
      · exact h
    dsimp only
    by_cases more : k < g.settings.lastPoll
    · have next := GatewaySettings.nextPoll_pollAt interval more
      have early : g.settings.pollAt k < g.settings.confirmationTimeout := by
        rw [GatewaySettings.pollAt_of_lt interval more]
        exact (GatewaySettings.lt_lastPoll_iff interval).1 more
      have ahead : s.world.now < g.settings.pollAt (k + 1) := by
        rw [turn.now, ← next]
        exact lt_nextPoll g.settings early
      have paused := World.pause_paused ahead
      rw [if_pos early, next]
      generalize s.world.pause (g.settings.pollAt (k + 1)) = result at paused ⊢
      cases paused with
      | stopped after begun inTime calm call =>
        refine .inl ⟨_, rfl, polls, ?_⟩
        rw [turn.now] at begun calm
        rw [length]
        refine .stopped k _ begun inTime vain (fun i hi => ?_) ((turn.same _ begun).symm.trans call)
        by_cases before : i < g.settings.pollAt k
        · exact turn.calm i before
        · have reached := Nat.le_of_not_lt before
          exact (turn.same i reached).symm.trans (calm i reached hi)
      | elapsed after now calm same =>
        exact .inr ⟨more, ⟨after, s.polled.polls⟩, rfl, turn.next more h now calm same⟩
    · have late := Nat.le_of_not_lt more
      have now := GatewaySettings.pollAt_of_le interval late
      have last : k = g.settings.lastPoll := Nat.le_antisymm turn.reached late
      have calm := turn.calm
      rw [now] at calm ⊢
      rw [if_neg (Nat.lt_irrefl _)]
      refine .inl ⟨_, rfl, polls, ?_⟩
      rw [length, show s.polled.world.now = g.settings.confirmationTimeout from turn.now.trans now,
        last]
      exact .expired (last ▸ vain) calm

/-- From any of its turns a wait comes to its end. -/
theorem Turn.run (interval : 0 < g.settings.pollInterval)
    (turn : Turn g.settings (fun k => found? (answers k)) called k s) :
    Ends g.settings hash life (fun k => found? (answers k)) called
      (g.runFrom hash life answers k s) := by
  obtain ⟨left, last⟩ := Nat.exists_eq_add_of_le turn.reached
  induction left generalizing k s with
  | zero =>
    refine (turn.step interval).resolve_right ?_
    rintro ⟨more, -⟩
    omega
  | succ left ih =>
    obtain ended | ⟨-, s', same, next⟩ := turn.step interval
    · exact ended
    · rw [same]
      exact ih next (by omega)

/-- A run gave the result at the instant, after polls at these instants. -/
def Closed (run : Option (Stepped Receipt) × Vigil) (result : Stepped Receipt) (instant : Nat)
    (polls : List Nat) : Prop :=
  run.1 = some result ∧ run.2.world.now = instant ∧ run.2.polls = polls

/-! ## Which end a wait comes to -/

namespace Ending

variable {settings : GatewaySettings} {result : Stepped Receipt} {instant polls : Nat}

theorem of_receipt (h : Ending settings hash life found called result instant polls)
    {receipt : Receipt} (reached : k ≤ settings.lastPoll) (hit : found k = some receipt)
    (vain : ∀ j < k, found j = none)
    (calm : k = 0 ∨ ∀ i ≤ settings.pollAt k, called i = false) :
    result = conclude hash receipt life ∧ instant = settings.pollAt k ∧ polls = k + 1 := by
  cases h with
  | concluded k' receipt' reached' vain' hit' calm' =>
    obtain early | rfl | late := Nat.lt_trichotomy k k'
    · exact absurd ((vain' k early).symm.trans hit) nofun
    · obtain rfl := Option.some.inj (hit'.symm.trans hit)
      exact ⟨rfl, rfl, rfl⟩
    · exact absurd ((vain k' late).symm.trans hit') nofun
  | stopped k' instant begun inTime vain' calm' call =>
    obtain early | late := Nat.lt_or_ge k' k
    · have before : instant ≤ settings.pollAt k :=
        Nat.le_of_lt (Nat.lt_of_lt_of_le inTime (GatewaySettings.pollAt_mono early))
      have calm := calm.resolve_left (Nat.ne_zero_of_lt early)
      exact absurd ((calm instant before).symm.trans call) nofun
    · exact absurd ((vain' k late).symm.trans hit) nofun
  | expired vain' calm' => exact absurd ((vain' k reached).symm.trans hit) nofun

theorem of_silence (h : Ending settings hash life found called result instant polls)
    (vain : ∀ j ≤ settings.lastPoll, found j = none)
    (calm : settings.confirmationTimeout = 0 ∨
      ∀ i ≤ settings.confirmationTimeout, called i = false) :
    result = (.error (.confirmationCancelled hash.toHex "confirmation timeout"), life) ∧
      instant = settings.confirmationTimeout ∧ polls = settings.lastPoll + 1 := by
  cases h with
  | concluded k receipt reached vain' hit calm' => exact absurd ((vain k reached).symm.trans hit) nofun
  | stopped k instant begun inTime vain' calm' call =>
    have before : instant < settings.confirmationTimeout :=
      Nat.lt_of_lt_of_le inTime (Nat.min_le_right _ _)
    have calm := calm.resolve_left (Nat.ne_zero_of_lt before)
    exact absurd ((calm instant (Nat.le_of_lt before)).symm.trans call) nofun
  | expired vain' calm' => exact ⟨rfl, rfl, rfl⟩

theorem of_call (h : Ending settings hash life found called result instant polls) {i : Nat}
    (inTime : i < settings.confirmationTimeout) (call : called i = true)
    (calm : ∀ j < i, called j = false)
    (vain : ∀ j, j * settings.pollInterval ≤ i → found j = none) :
    result = (.error (.confirmationCancelled hash.toHex "shutdown"), life) ∧ instant = i ∧
      polls = i / settings.pollInterval + 1 := by
  -- A poll up to the call is not the last one, so it comes at a multiple of the interval.
  have multiple {k : Nat} (le : settings.pollAt k ≤ i) : k * settings.pollInterval ≤ i := by
    rw [GatewaySettings.pollAt] at le
    omega
  cases h with
  | concluded k receipt reached vain' hit calm' =>
    obtain early | late := Nat.lt_or_ge i (settings.pollAt k)
    · exact absurd ((calm' i early).symm.trans call) nofun
    · exact absurd ((vain k (multiple late)).symm.trans hit) nofun
  | stopped k instant begun inTime' vain' calm' call' =>
    obtain early | rfl | late := Nat.lt_trichotomy i instant
    · exact absurd ((calm' i early).symm.trans call) nofun
    · have below : i < (k + 1) * settings.pollInterval :=
        Nat.lt_of_lt_of_le inTime' (Nat.min_le_left _ _)
      refine ⟨rfl, rfl, ?_⟩
      rw [Nat.div_eq_of_lt_le (multiple begun) below]
    · exact absurd ((calm instant late).symm.trans call') nofun
  | expired vain' calm' => exact absurd ((calm' i inTime).symm.trans call) nofun

theorem polls_le (interval : 0 < settings.pollInterval)
    (h : Ending settings hash life found called result instant polls) :
    polls ≤ settings.lastPoll + 1 := by
  cases h with
  | concluded k receipt reached => exact Nat.succ_le_succ reached
  | stopped k instant begun inTime =>
    -- From the last poll on there is no time left.
    refine Nat.succ_le_succ (Nat.le_of_not_lt fun more => ?_)
    rw [GatewaySettings.pollAt_of_le interval (Nat.le_of_lt more)] at begun
    have ended : instant < settings.confirmationTimeout :=
      Nat.lt_of_lt_of_le inTime (Nat.min_le_right _ _)
    exact absurd begun (Nat.not_le.2 ended)
  | expired => exact Nat.le_refl _

end Ending

theorem Ends.closed {run : Option (Stepped Receipt) × Vigil}
    (h : Ends g.settings hash life found called run) {result : Stepped Receipt} {instant n : Nat}
    (end_eq : ∀ {result' instant' polls},
      Ending g.settings hash life found called result' instant' polls →
        result' = result ∧ instant' = instant ∧ polls = n) :
    Closed run result instant ((List.range n).map g.settings.pollAt) := by
  obtain ⟨_, hresult, polls, ended⟩ := h
  obtain ⟨rfl, hnow, hn⟩ := end_eq ended
  exact ⟨hresult, hnow, hn ▸ polls⟩

theorem conclude_pending (receipt : Receipt) :
    conclude hash receipt { life with phase := .pending } =
      if receipt.success then (.ok receipt, { life with phase := .confirmed })
      else (.error (.transactionReverted hash.toHex receipt.blockNumber),
        { life with phase := .failed }) := by
  unfold conclude
  split <;> rfl

/-- A wait for a submitted transaction begins with the first turn. -/
theorem run_waitForReceipt {s : Vigil} (submitted : life.phase = .submitted)
    (reach : ∀ last ∈ g.settings.horizon, g.settings.confirmationTimeout ≤ last)
    (start : s.world.now = 0) :
    (g.waitForReceipt hash life).run (Vigil.answering answers) s =
      g.runFrom hash { life with phase := .pending } answers 0 s := by
  have pending : (life.advance .pending).1 = { life with phase := .pending } := by
    rw [Lifecycle.advance, submitted]
    rfl
  have deadline : deadline? g.settings 0 = some g.settings.confirmationTimeout := by
    rw [deadline?, Nat.zero_add]
    cases horizon : g.settings.horizon with
    | none => rfl
    | some last => exact if_pos (reach last horizon)
  have clock : (request .clock).run (Vigil.answering answers) s = (some 0, s) := by
    rw [← start]
    rfl
  rw [waitForReceipt, run_bind_of_run clock, deadline, if_pos submitted, pending, runFrom,
    GatewaySettings.pollAt_zero]

/-- A wait goes by what the polls find and not by why they find nothing. -/
theorem run_pollFrom_congr {answers' : Nat → Except Error (Option Receipt)}
    (same : ∀ k, found? (answers k) = found? (answers' k)) (deadline reached : Nat) (s : Vigil) :
    (g.pollFrom hash deadline life reached).run (Vigil.answering answers) s =
      (g.pollFrom hash deadline life reached).run (Vigil.answering answers') s := by
  induction reached using pollFrom.induct g deadline generalizing s with
  | case1 reached ih =>
  rw [pollFrom, run, run]
  change Program.run _ (match found? (answers s.polls.length) with
      | some receipt => _
      | none => _) s.polled =
    Program.run _ (match found? (answers' s.polls.length) with
      | some receipt => _
      | none => _) s.polled
  rw [same]
  cases found? (answers' s.polls.length) with
  | some receipt => rfl
  | none =>
    dsimp only
    rw [run, run, Vigil.answering_clock, Vigil.answering_clock]
    dsimp only
    by_cases early : Nat.max reached s.polled.world.now < deadline
    · rw [dif_pos early, run, run, Vigil.answering_pause, Vigil.answering_pause]
      generalize s.polled.world.pause _ = paused
      obtain ⟨ended, w⟩ := paused
      cases ended with
      | elapsed => exact ih s.polled.world.now early _
      | stopped => rfl
    · rw [dif_neg early]
      rfl

/-- The end of a wait that begins at instant zero is determined, on a clock that can tell its
deadline, and it comes after no more polls than there is room for. The first receipt settles the
transaction at the instant of its poll. If there is none, the wait ends at the deadline after all
its polls. A call for shutdown ends it at its instant, be it there from the beginning or come
between two polls; at the instant of a poll either may come first, and nothing is said of it. A poll
that fails is as one without receipt, and messages that are no calls call for nothing, nor does the
end of the sender. -/
theorem waitForReceipt_determined (g : Gateway) (hash : Word) (life : Lifecycle)
    (answers : Nat → Except Error (Option Receipt)) (s : Vigil)
    (submitted : life.phase = .submitted) (interval : 0 < g.settings.pollInterval)
    (reach : ∀ last ∈ g.settings.horizon, g.settings.confirmationTimeout ≤ last)
    (start : s.world.now = 0) (unpolled : s.polls = []) :
    let period := g.settings.pollInterval
    let timeout := g.settings.confirmationTimeout
    let called := s.world.calledAt
    let wait := fun answers => (g.waitForReceipt hash life).run (Vigil.answering answers) s
    (∃ result s', wait answers = (some result, s') ∧
      s'.polls.length ≤ timeout ⌈/⌉ period + 1) ∧
    (∀ k receipt, k ≤ timeout ⌈/⌉ period → found? (answers k) = some receipt →
      (∀ j < k, found? (answers j) = none) →
      (k = 0 ∨ ∀ i ≤ min (k * period) timeout, called i = false) →
        Closed (wait answers)
          (if receipt.success then (.ok receipt, { life with phase := .confirmed })
            else (.error (.transactionReverted hash.toHex receipt.blockNumber),
              { life with phase := .failed }))
          (min (k * period) timeout)
          ((List.range (k + 1)).map fun j => min (j * period) timeout)) ∧
    ((∀ j ≤ timeout ⌈/⌉ period, found? (answers j) = none) →
      (timeout = 0 ∨ ∀ i ≤ timeout, called i = false) →
        Closed (wait answers)
          (.error (.confirmationCancelled hash.toHex "confirmation timeout"),
            { life with phase := .pending })
          timeout ((List.range (timeout ⌈/⌉ period)).map (· * period) ++ [timeout])) ∧
    (∀ i < timeout, i = 0 ∨ ¬period ∣ i → called i = true → (∀ j < i, called j = false) →
      (∀ j, j * period ≤ i → found? (answers j) = none) →
        Closed (wait answers)
          (.error (.confirmationCancelled hash.toHex "shutdown"), { life with phase := .pending })
          i ((List.range (i / period + 1)).map (· * period))) ∧
    (∀ answers', (∀ k, found? (answers k) = found? (answers' k)) →
      wait answers = wait answers') ∧
    ((∀ channel ∈ s.world.shutdown, channel.value = false ∧
        ∀ p ∈ channel.parcels, p.message ≠ some true) →
      ∀ i, called i = false) := by
  intro period timeout called wait
  let pending : Lifecycle := { life with phase := .pending }
  have begun (answers : Nat → Except Error (Option Receipt)) :
      wait answers = g.runFrom hash pending answers 0 s :=
    run_waitForReceipt submitted reach start
  have ends : Ends g.settings hash pending (fun k => found? (answers k)) called (wait answers) :=
    begun answers ▸ (Turn.first start unpolled).run interval
  refine ⟨?_, ?_, ?_, ?_, ?_, ?_⟩
  · obtain ⟨result, run, -, ended⟩ := ends
    exact ⟨result, _, Prod.ext run rfl, ended.polls_le interval⟩
  · intro k receipt reached hit vain calm
    rw [← conclude_pending]
    exact ends.closed fun ended => ended.of_receipt reached hit vain calm
  · intro vain calm
    have closed := ends.closed fun ended => ended.of_silence vain calm
    rw [GatewaySettings.polls_at_last interval] at closed
    exact closed
  · intro i inTime _ call calm vain
    have closed := ends.closed fun ended => ended.of_call inTime call calm vain
    rw [GatewaySettings.polls_before interval inTime] at closed
    exact closed
  · intro answers' same
    rw [begun, begun]
    exact run_pollFrom_congr same _ _ s
  · exact World.calledAt_eq_false

/-! ## A receipt at the deadline -/

def patientGateway : Gateway where
  signer := .ofKey sampleKey
  settings :=
    { chainId := 1, maxGasPrice := 10, pollInterval := 10, confirmationTimeout := 25
      multicall := .zero, horizon := none }

def sampleLife (phase : Phase) : Lifecycle :=
  ⟨"registry_update", phase, some .zero⟩

/-- The first poll fails, the fourth one finds a receipt, all others find none. -/
def lateReceipt : Nat → Except Error (Option Receipt)
  | 0 => .error (.nodeRpc "eth_getTransactionReceipt" "reply lost")
  | 3 => .ok (some ⟨true, some 7⟩)
  | _ => .ok none

def sampleVigil (parcels : List Parcel) : Vigil where
  world :=
    { chain := .usual .zero, remote := none, secondary := none, exclusions := .empty
      observed := false, metrics := .start, now := 0, shutdown := some ⟨.start, parcels⟩
      log := [] }
  polls := []

/-- A wait whose receipt comes at the deadline, whatever is sent that is no call; and the same wait
with a call between two polls. -/
theorem waitForReceipt_determined_late :
    Closed ((patientGateway.waitForReceipt .zero (sampleLife .submitted)).run
        (Vigil.answering lateReceipt) (sampleVigil [⟨5, some false⟩, ⟨20, none⟩]))
      (.ok ⟨true, some 7⟩, sampleLife .confirmed) 25 [0, 10, 20, 25] ∧
    Closed ((patientGateway.waitForReceipt .zero (sampleLife .submitted)).run
        (Vigil.answering lateReceipt) (sampleVigil [⟨5, some false⟩, ⟨13, some true⟩]))
      (.error (.confirmationCancelled (FixedBytes.zero : Word).toHex "shutdown"),
        sampleLife .pending) 13 [0, 10] := by
  constructor
  · obtain ⟨-, receipt, -, -, -, harmless⟩ :=
      waitForReceipt_determined patientGateway .zero (sampleLife .submitted) lateReceipt
        (sampleVigil [⟨5, some false⟩, ⟨20, none⟩]) rfl (by decide) nofun rfl rfl
    have calm := harmless (by rintro _ ⟨⟩; decide)
    exact receipt 3 _ (by decide) rfl (by decide) (.inr fun i _ => calm i)
  · obtain ⟨-, -, -, call, -, -⟩ :=
      waitForReceipt_determined patientGateway .zero (sampleLife .submitted) lateReceipt
        (sampleVigil [⟨5, some false⟩, ⟨13, some true⟩]) rfl (by decide) nofun rfl rfl
    have vain (j : Nat) (h : j * 10 ≤ 13) : found? (lateReceipt j) = none := by
      obtain rfl | rfl : j = 0 ∨ j = 1 := by omega
      · rfl
      · rfl
    exact call 13 (by decide) (by decide) rfl (by decide) vain

end Gateway

end Registrar
