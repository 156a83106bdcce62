import Registrar.Proofs.Handover

/-! The watcher's task comes to polling at fixed instants. Its loop waits for the next poll and for
the shutdown channel at once and takes them as they come; whatever is written to the file and sent on
the channel meanwhile, the polls fall on the multiples of the period until the task is told to stop. -/
namespace Registrar
set_option autoImplicit false

/-! ## Histories -/

/-- What happens at an instant: a poll of the task, or something around it. -/
inductive Occurrence where
  | poll
  | event (e : WatchEvent)

namespace Occurrence

def event? : Occurrence → Option WatchEvent
  | poll => none
  | event e => some e

/-- What it is to the watcher and its file; messages are nothing to them. -/
def fileStep? : Occurrence → Option FileStep
  | poll => some .poll
  | event (.fileChanged (some f)) => some (.write f)
  | event (.fileChanged none) => some .delete
  | event (.message _) | event .hangUp => none

end Occurrence

/-- What happened, each at its instant, in the order in which it happened. -/
abbrev History := List (Nat × Occurrence)

namespace History

def polls (h : History) : List Nat :=
  h.filterMap fun x => match x.2 with
    | .poll => some x.1
    | .event _ => none

def events (h : History) : List (Nat × WatchEvent) :=
  h.filterMap fun x => x.2.event?.map (x.1, ·)

def fileSteps (h : History) : List FileStep :=
  h.filterMap (·.2.fileStep?)

theorem mem_of_mem_polls {h : History} {i : Nat} (hi : i ∈ h.polls) : ∃ x ∈ h, x.1 = i := by
  obtain ⟨x, hx, poll⟩ := List.mem_filterMap.1 hi
  refine ⟨x, hx, ?_⟩
  split at poll
  · exact Option.some.inj poll
  · cases poll

theorem polls_append (h more : History) : polls (h ++ more) = polls h ++ polls more :=
  List.filterMap_append

theorem events_append (h more : History) : events (h ++ more) = events h ++ events more :=
  List.filterMap_append

theorem fileSteps_append (h more : History) :
    fileSteps (h ++ more) = fileSteps h ++ fileSteps more :=
  List.filterMap_append

end History

/-! ## Orders to stop -/

/-- The event tells the task to stop. -/
def WatchEvent.stops : WatchEvent → Bool
  | message stop => stop
  | hangUp => true
  | fileChanged _ => false

/-- The instant of the first order to stop. -/
def stopped? (events : List (Nat × WatchEvent)) : Option Nat :=
  (events.find? (·.2.stops)).map (·.1)

/-- Events as they come to a task with this period: an order to stop is not taken back, and the first
one does not come at the instant of a poll. -/
structure Orderly (period : Nat) (events : List (Nat × WatchEvent)) : Prop where
  final : events.Pairwise fun x y => x.2.stops = true → y.2 ≠ .message false
  apart : ∀ instant, stopped? events = some instant → ¬period ∣ instant

theorem stopped?_append (events more : List (Nat × WatchEvent)) :
    stopped? (events ++ more) = (stopped? events).or (stopped? more) := by
  unfold stopped?
  rw [List.find?_append]
  cases events.find? (·.2.stops) <;> rfl

theorem exists_order {events : List (Nat × WatchEvent)} {instant : Nat}
    (h : stopped? events = some instant) : ∃ x ∈ events, x.2.stops = true := by
  obtain ⟨x, first, -⟩ := Option.map_eq_some_iff.1 h
  exact ⟨x, List.mem_of_find?_eq_some first, by simpa using List.find?_some first⟩

/-- Nothing that was said before is taken back by the last event. -/
theorem Orderly.last {period instant : Nat} {events : List (Nat × WatchEvent)} {e : WatchEvent}
    (h : Orderly period (events ++ [(instant, e)])) {stop : Nat}
    (stopped : stopped? events = some stop) : e ≠ .message false := by
  obtain ⟨x, hx, stops⟩ := exists_order stopped
  exact (List.pairwise_append.1 h.final).2.2 x hx _ (List.mem_singleton_self _) stops

theorem Orderly.earlier {period : Nat} {events more : List (Nat × WatchEvent)}
    (h : Orderly period (events ++ more)) : Orderly period events where
  final := (List.pairwise_append.1 h.final).1
  apart instant first := h.apart instant (by rw [stopped?_append, first, Option.some_or])

namespace WatchTask

/-! ## What happens around the task -/

section

variable (t : WatchTask) (e : WatchEvent)

@[simp] theorem period_happen : (t.happen e).period = t.period := by cases e <;> rfl

@[simp] theorem now_happen : (t.happen e).now = t.now := by cases e <;> rfl

@[simp] theorem nextPoll_happen : (t.happen e).nextPoll = t.nextPoll := by cases e <;> rfl

@[simp] theorem finished_happen : (t.happen e).finished = t.finished := by cases e <;> rfl

theorem watching_happen (instant : Nat) :
    (t.happen e).watching = t.watching.run (History.fileSteps [(instant, .event e)]) := by
  cases e with
  | fileChanged file => cases file <;> rfl
  | message stop => rfl
  | hangUp => rfl

end

/-! ## Runs of the task -/

/-- No branch is ready: all that is to happen at this instant has happened. -/
def Idle (t : WatchTask) : Prop :=
  ∀ b, t.ready b = false

/-- One step of the task or of what is around it, with what happens in it. Of two branches that are
ready either may be taken. Time passes only when none is, and not beyond the next poll. -/
inductive Step : WatchTask → History → WatchTask → Prop
  | tick {t : WatchTask} (ready : t.ready .tick = true) :
    Step t [(t.now, .poll)] (t.enter .tick)
  | hear {t : WatchTask} (ready : t.ready .hear = true) : Step t [] (t.enter .hear)
  | event (t : WatchTask) (e : WatchEvent) : Step t [(t.now, .event e)] (t.happen e)
  | wait {t : WatchTask} (instant : Nat) (idle : t.Idle) (later : t.now ≤ instant)
      (sleeps : t.finished = none → instant ≤ t.nextPoll) : Step t [] { t with now := instant }

/-- The states that the task can reach, each with what happened on the way. -/
inductive Ran (first : WatchTask) : History → WatchTask → Prop
  | start : Ran first [] first
  | step {h more : History} {t t' : WatchTask} (ran : Ran first h t) (step : Step t more t') :
    Ran first (h ++ more) t'

/-! ## Polls -/

/-- What holds of every run: the watcher has gone through what happened, the polls fell on the first
multiples of the period, and the next one is due at the next multiple. -/
structure OnTime (first : WatchTask) (h : History) (t : WatchTask) : Prop where
  period : t.period = first.period
  watching : t.watching = first.watching.run h.fileSteps
  ordered : (h.map (·.1)).Pairwise (· ≤ ·)
  past : ∀ x ∈ h, x.1 ≤ t.now
  polls : h.polls = (List.range h.polls.length).map (· * first.period)
  next : t.finished = none →
    t.nextPoll = h.polls.length * first.period ∧ t.now ≤ t.nextPoll
  ended : ∀ instant, t.finished = some instant → instant ≤ t.now ∧
    instant ≤ h.polls.length * first.period ∧ ∀ i ∈ h.polls, i ≤ instant

theorem onTime_start {first : WatchTask} (now : first.now = 0) (nextPoll : first.nextPoll = 0)
    (running : first.finished = none) : OnTime first [] first where
  period := rfl
  watching := rfl
  ordered := .nil
  past _ hx := absurd hx List.not_mem_nil
  polls := rfl
  next _ := by simp [History.polls, now, nextPoll]
  ended instant ended := by rw [running] at ended; cases ended

namespace OnTime

variable {first t t' : WatchTask} {h more : History}

/-- What happens now happens after what has happened. -/
theorem ordered_concat (onTime : OnTime first h t) (o : Occurrence) :
    ((h ++ [(t.now, o)]).map (·.1)).Pairwise (· ≤ ·) := by
  rw [List.map_append]
  refine List.pairwise_append.2 ⟨onTime.ordered, List.pairwise_singleton _ _, ?_⟩
  rintro i hi j hj
  obtain ⟨x, hx, rfl⟩ := List.mem_map.1 hi
  obtain rfl := List.mem_singleton.1 hj
  exact onTime.past x hx

theorem past_concat (onTime : OnTime first h t) (o : Occurrence) :
    ∀ x ∈ h ++ [(t.now, o)], x.1 ≤ t.now :=
  List.forall_mem_append.2 ⟨onTime.past, List.forall_mem_singleton.2 (Nat.le_refl _)⟩

theorem polls_le (onTime : OnTime first h t) : ∀ i ∈ h.polls, i ≤ t.now := by
  intro i hi
  obtain ⟨x, hx, rfl⟩ := History.mem_of_mem_polls hi
  exact onTime.past x hx

theorem tick (positive : 0 < first.period) (onTime : OnTime first h t)
    (ready : t.ready .tick = true) : OnTime first (h ++ [(t.now, .poll)]) (t.enter .tick) := by
  obtain ⟨running, due, -⟩ := tick_cases ready
  obtain ⟨nextPoll, reached⟩ := onTime.next running
  have now : t.now = h.polls.length * first.period := by omega
  have polls : History.polls (h ++ [(t.now, .poll)]) = h.polls ++ [t.now] := History.polls_append _ _
  have length : (History.polls (h ++ [(t.now, .poll)])).length = h.polls.length + 1 := by
    rw [polls, List.length_append, List.length_singleton]
  constructor
  · exact onTime.period
  · rw [History.fileSteps_append, Watching.run_append, ← onTime.watching]
    rfl
  · exact onTime.ordered_concat .poll
  · exact onTime.past_concat .poll
  · rw [length, List.range_succ, List.map_append, ← onTime.polls, polls, List.map_singleton, now]
  · intro _
    have put_off : (t.enter .tick).nextPoll = t.now + first.period := by
      have max : Nat.max t.period 1 = t.period :=
        Nat.max_eq_left (onTime.period ▸ positive)
      rw [← onTime.period, ← max]
      rfl
    have same : (t.enter .tick).now = t.now := rfl
    rw [put_off, same, length, Nat.succ_mul]
    omega
  · intro instant ended
    cases running.symm.trans ended

theorem hear (onTime : OnTime first h t) (ready : t.ready .hear = true) :
    OnTime first h (t.enter .hear) := by
  obtain ⟨running, ⟨-, stopped⟩ | ⟨-, -, heard⟩⟩ := hear_cases ready
  · obtain ⟨nextPoll, reached⟩ := onTime.next running
    rw [stopped]
    refine { onTime with next := nofun, ended := ?_ }
    rintro instant ⟨⟩
    exact ⟨Nat.le_refl _, nextPoll ▸ reached, onTime.polls_le⟩
  · rw [heard]
    exact { onTime with }

theorem event (onTime : OnTime first h t) (e : WatchEvent) :
    OnTime first (h ++ [(t.now, .event e)]) (t.happen e) := by
  have polls : History.polls (h ++ [(t.now, .event e)]) = h.polls :=
    (History.polls_append _ _).trans (List.append_nil _)
  constructor
  · rw [period_happen, onTime.period]
  · rw [History.fileSteps_append, Watching.run_append, ← onTime.watching, watching_happen]
  · exact onTime.ordered_concat _
  · rw [now_happen]
    exact onTime.past_concat _
  · rw [polls]
    exact onTime.polls
  · rw [finished_happen, nextPoll_happen, now_happen, polls]
    exact onTime.next
  · rw [finished_happen, now_happen, polls]
    exact onTime.ended

theorem wait (onTime : OnTime first h t) {instant : Nat} (later : t.now ≤ instant)
    (sleeps : t.finished = none → instant ≤ t.nextPoll) :
    OnTime first h { t with now := instant } where
  period := onTime.period
  watching := onTime.watching
  ordered := onTime.ordered
  past x hx := Nat.le_trans (onTime.past x hx) later
  polls := onTime.polls
  next running := ⟨(onTime.next running).1, sleeps running⟩
  ended i ended := by
    obtain ⟨past, within, polls⟩ := onTime.ended i ended
    exact ⟨Nat.le_trans past later, within, polls⟩

theorem step (positive : 0 < first.period) (onTime : OnTime first h t) (step : Step t more t') :
    OnTime first (h ++ more) t' := by
  cases step with
  | tick ready => exact onTime.tick positive ready
  | hear ready =>
    rw [List.append_nil]
    exact onTime.hear ready
  | event e => exact onTime.event e
  | wait instant idle later sleeps =>
    rw [List.append_nil]
    exact onTime.wait later sleeps

end OnTime

theorem Ran.onTime {first t : WatchTask} {h : History} (ran : Ran first h t)
    (start : OnTime first [] first) (positive : 0 < first.period) : OnTime first h t := by
  induction ran with
  | start => exact start
  | step ran step ih => exact ih.step positive step

/-! ## Stopping -/

/-- An order to stop has come and is still to be heard. -/
def Told (t : WatchTask) : Prop :=
  t.receiver.connected = false ∨ (t.receiver.unheard = true ∧ t.receiver.value = true)

theorem ready_hear_of_told {t : WatchTask} (running : t.finished = none) (told : t.Told) :
    t.ready .hear = true := by
  unfold ready StopReceiver.changed
  obtain gone | ⟨unheard, -⟩ := told
  · rw [running, gone, Bool.or_comm]
    rfl
  · rw [running, unheard]
    rfl

/-- The task stands to the orders in the history as it should: without one it runs, and with one it has
ended at the instant of the first, or is still at this instant and about to hear of it. -/
structure Obeys (h : History) (t : WatchTask) : Prop where
  untold : stopped? h.events = none →
    t.finished = none ∧ t.receiver.connected = true ∧ t.receiver.value = false
  told : ∀ instant, stopped? h.events = some instant →
    t.finished = some instant ∨ (t.finished = none ∧ t.now = instant ∧ t.Told)

namespace Obeys

variable {t t' : WatchTask} {h more : History}

theorem hear (obeys : Obeys h t) (ready : t.ready .hear = true) : Obeys h (t.enter .hear) := by
  obtain ⟨running, heard⟩ := hear_cases ready
  constructor
  · intro untold
    obtain ⟨-, connected, value⟩ := obeys.untold untold
    -- Without an order there is a message, and it is no order.
    have unheard : t.receiver.unheard = true := by
      have changed := (Bool.and_eq_true_iff.1 ready).2
      simpa [StopReceiver.changed, connected] using changed
    obtain ⟨stops, -⟩ | ⟨-, -, heard⟩ := heard
    · simp [StopReceiver.stops, unheard, value] at stops
    · rw [heard]
      exact ⟨running, connected, value⟩
  · intro instant order
    obtain ended | ⟨-, now, told⟩ := obeys.told instant order
    · cases running.symm.trans ended
    obtain ⟨-, stopped⟩ | ⟨-, value, heard⟩ := heard
    · rw [stopped, now]
      exact .inl rfl
    · rw [heard]
      refine .inr ⟨running, now, .inl (told.resolve_right fun h => ?_)⟩
      cases value.symm.trans h.2

theorem event_untold (obeys : Obeys h t) (untold : stopped? h.events = none) (e : WatchEvent)
    (kind : e.stops = false) : (t.happen e).finished = none ∧
      (t.happen e).receiver.connected = true ∧ (t.happen e).receiver.value = false := by
  obtain ⟨running, connected, value⟩ := obeys.untold untold
  cases e with
  | fileChanged file => exact ⟨running, connected, value⟩
  | message stop =>
    cases kind
    rw [happen, StopReceiver.send, if_pos connected]
    exact ⟨running, connected, rfl⟩
  | hangUp => cases kind

theorem told_of_stops (connected : t.receiver.connected = true) {e : WatchEvent}
    (order : e.stops = true) : (t.happen e).Told := by
  cases e with
  | fileChanged file => cases order
  | message stop =>
    cases order
    rw [Told, happen, StopReceiver.send, if_pos connected]
    exact .inr ⟨rfl, rfl⟩
  | hangUp => exact .inl rfl

theorem told_event (told : t.Told) {e : WatchEvent} (kept : e ≠ .message false) :
    (t.happen e).Told := by
  cases e with
  | fileChanged file => exact told
  | message stop =>
    cases stop with
    | false => exact absurd rfl kept
    | true =>
      cases connected : t.receiver.connected with
      | true => exact told_of_stops connected rfl
      | false =>
        rw [Told, happen, StopReceiver.send, connected]
        exact .inl connected
  | hangUp => exact .inl rfl

theorem event (obeys : Obeys h t) (e : WatchEvent) {period : Nat}
    (orderly : Orderly period (History.events (h ++ [(t.now, .event e)]))) :
    Obeys (h ++ [(t.now, .event e)]) (t.happen e) := by
  have events : History.events (h ++ [(t.now, .event e)]) = h.events ++ [(t.now, e)] :=
    History.events_append _ _
  rw [events] at orderly
  have first : stopped? [(t.now, e)] = if e.stops then some t.now else none := by
    cases order : e.stops <;> simp [stopped?, order]
  constructor
  · rw [events, stopped?_append, first]
    intro untold
    obtain ⟨before, last⟩ := Option.or_eq_none_iff.1 untold
    refine obeys.event_untold before e ?_
    cases order : e.stops with
    | false => rfl
    | true => rw [order] at last; cases last
  · rw [events, stopped?_append, first, finished_happen, now_happen]
    intro instant order
    cases before : stopped? h.events with
    | some stop =>
      rw [before, Option.some_or] at order
      cases order
      refine (obeys.told _ before).imp_right fun ⟨running, same, told⟩ => ?_
      exact ⟨running, same, told_event told (orderly.last before)⟩
    | none =>
      obtain ⟨running, connected, -⟩ := obeys.untold before
      rw [before, Option.none_or] at order
      obtain ⟨order, same⟩ : e.stops = true ∧ t.now = instant := by
        cases kind : e.stops <;> simp_all
      exact .inr ⟨running, same, told_of_stops connected order⟩

theorem step (obeys : Obeys h t) (step : Step t more t') {period : Nat}
    (orderly : Orderly period (History.events (h ++ more))) : Obeys (h ++ more) t' := by
  cases step with
  | tick ready =>
    have events : History.events (h ++ [(t.now, .poll)]) = h.events :=
      (History.events_append _ _).trans (List.append_nil _)
    constructor
    · rw [events]
      exact obeys.untold
    · rw [events]
      exact obeys.told
  | hear ready =>
    rw [List.append_nil]
    exact obeys.hear ready
  | event e => exact obeys.event e orderly
  | wait instant idle later sleeps =>
    rw [List.append_nil]
    refine ⟨obeys.untold, fun stop order => (obeys.told stop order).imp_right ?_⟩
    -- Time does not pass while an order is still to be heard.
    rintro ⟨running, -, told⟩
    cases (idle .hear).symm.trans (ready_hear_of_told running told)

end Obeys

theorem Ran.obeys {first t : WatchTask} {h : History} (ran : Ran first h t)
    (start : Obeys [] first) {period : Nat} (orderly : Orderly period h.events) : Obeys h t := by
  induction ran with
  | start => exact start
  | step ran step ih =>
    have whole := orderly
    rw [History.events_append] at orderly
    exact (ih orderly.earlier).step step whole

/-! ## Letting time pass -/

theorem idle_of_not_ready {t : WatchTask} (undue : ¬t.ready .tick = true)
    (unheard : ¬t.ready .hear = true) : t.Idle := by
  intro b
  cases b with
  | tick => exact Bool.eq_false_iff.2 undue
  | hear => exact Bool.eq_false_iff.2 unheard

theorem Idle.now_lt {t : WatchTask} (idle : t.Idle) (running : t.finished = none) :
    t.now < t.nextPoll := by
  have undue := idle .tick
  simpa [ready, running] using undue

/-- Left to itself the task comes to rest at any later instant. -/
theorem ran_passTo {first t : WatchTask} {h : History} (ran : Ran first h t) (instant : Nat)
    (later : t.now ≤ instant) :
    ∃ more : History, more.events = [] ∧ Ran first (h ++ more) (t.passTo instant) ∧
      (t.passTo instant).Idle ∧ (t.passTo instant).now = instant := by
  induction t using passTo.induct instant generalizing h with
  | case1 t ready ih =>
    obtain ⟨more, quiet, ran, rest⟩ := ih (ran.step (.tick ready)) later
    rw [passTo, if_pos ready]
    refine ⟨(t.now, .poll) :: more, quiet, ?_, rest⟩
    rwa [List.append_cons]
  | case2 t undue ready ih =>
    have now : (t.enter .hear).now = t.now := by
      obtain ⟨-, ⟨-, stopped⟩ | ⟨-, -, heard⟩⟩ := hear_cases ready
      · rw [stopped]
      · rw [heard]
    have heard := ran.step (.hear ready)
    rw [List.append_nil] at heard
    rw [passTo, if_neg undue, if_pos ready]
    exact ih heard (now ▸ later)
  | case3 t undue unheard sleeps ih =>
    obtain ⟨running, within⟩ := Bool.and_eq_true_iff.1 sleeps
    have idle : t.Idle := idle_of_not_ready undue unheard
    have ahead : t.now ≤ t.nextPoll := Nat.le_of_lt (idle.now_lt (Option.isNone_iff_eq_none.1 running))
    have slept := ran.step (.wait t.nextPoll idle ahead fun _ => Nat.le_refl _)
    rw [List.append_nil] at slept
    rw [passTo, if_neg undue, if_neg unheard, if_pos sleeps]
    exact ih slept (of_decide_eq_true within)
  | case4 t undue unheard resting =>
    have idle : t.Idle := idle_of_not_ready undue unheard
    have max : Nat.max t.now instant = instant := Nat.max_eq_right later
    have sleeps (running : t.finished = none) : instant < t.nextPoll := by
      simpa [running] using resting
    have slept := ran.step (.wait instant idle later fun running => Nat.le_of_lt (sleeps running))
    rw [passTo, if_neg undue, if_neg unheard, if_neg resting, max]
    refine ⟨[], rfl, slept, ?_, rfl⟩
    intro b
    cases b with
    | tick =>
      cases running : t.finished with
      | none => simp [ready, sleeps running]
      | some stop => simp [ready]
    | hear => exact idle .hear

/-- The task left to itself up to each event of a schedule, and then up to an instant. -/
def attend (t : WatchTask) (schedule : List (Nat × WatchEvent)) (instant : Nat) : WatchTask :=
  (schedule.foldl (fun t x => t.take x.1 x.2) t).passTo instant

/-- Every schedule can be gone through. -/
theorem ran_attend {first : WatchTask} {schedule : List (Nat × WatchEvent)} {instant : Nat}
    (ordered : (schedule.map (·.1)).Pairwise (· ≤ ·))
    (within : ∀ x ∈ schedule, first.now ≤ x.1 ∧ x.1 ≤ instant) (later : first.now ≤ instant) :
    ∃ h : History, h.events = schedule ∧ Ran first h (first.attend schedule instant) ∧
      (first.attend schedule instant).Idle ∧ (first.attend schedule instant).now = instant := by
  induction schedule using List.reverseRecOn generalizing instant with
  | nil =>
    obtain ⟨more, quiet, ran, rest⟩ := ran_passTo (.start : Ran first [] first) instant later
    exact ⟨more, quiet, ran, rest⟩
  | append_singleton schedule x ih =>
    obtain ⟨earlier, last⟩ := List.forall_mem_append.1 within
    obtain ⟨after, before⟩ := last x (List.mem_singleton_self x)
    rw [List.map_append, List.pairwise_append] at ordered
    obtain ⟨ordered, -, apart⟩ := ordered
    have reached : ∀ y ∈ schedule, first.now ≤ y.1 ∧ y.1 ≤ x.1 := fun y hy =>
      ⟨(earlier y hy).1, apart _ (List.mem_map_of_mem hy) _ (List.mem_singleton_self x.1)⟩
    obtain ⟨h, events, ran, -, now⟩ := ih ordered reached after
    have happened := ran.step (.event _ x.2)
    have still : ((first.attend schedule x.1).happen x.2).now = x.1 := (now_happen _ _).trans now
    obtain ⟨more, quiet, ran, rest⟩ := ran_passTo happened instant (still.trans_le before)
    have whole : first.attend (schedule ++ [x]) instant =
        ((first.attend schedule x.1).happen x.2).passTo instant := by
      rw [attend, List.foldl_append]
      rfl
    rw [whole]
    refine ⟨_, ?_, ran, rest⟩
    rw [History.events_append, History.events_append, events, quiet, now, List.append_nil]
    rfl

/-! ## Polling at fixed instants -/

theorem OnTime.polls_eq {first t : WatchTask} {h : History} (onTime : OnTime first h t)
    {last : Nat} (before : last < h.polls.length * first.period)
    (until_last : ∀ i ∈ h.polls, i ≤ last) :
    h.polls = (List.range (last / first.period + 1)).map (· * first.period) := by
  obtain ⟨k, length⟩ : ∃ k, h.polls.length = k + 1 := by
    cases length : h.polls.length with
    | zero => rw [length, Nat.zero_mul] at before; cases before
    | succ k => exact ⟨k, rfl⟩
  have reached : k * first.period ≤ last := by
    refine until_last _ ?_
    rw [onTime.polls, length]
    exact List.mem_map_of_mem (List.mem_range.2 (Nat.lt_succ_self k))
  rw [Nat.div_eq_of_lt_le reached (length ▸ before), ← length]
  exact onTime.polls

/-- The task comes to polling at fixed instants. At rest, in whatever order the branches were taken
and whatever was written and sent, the polls so far fell on the multiples of the period, each once, up
to now or to the first order to stop; that order has ended the task at its own instant, and without one
the task goes on. The watcher and its file, and so the published table, are what the same writes and
deletions make of them with one poll at each of these instants. Each schedule of events is gone through
by the task up to any later instant. -/
theorem polls_at_fixed_instants (store : ExclusionStore) (path : String) (file : Option WatchedFile)
    (period : Nat) (positive : 0 < period) :
    let first := start store path file period
    (∀ (h : History) (t : WatchTask), Ran first h t → Orderly period h.events → t.Idle →
      t.finished = stopped? h.events ∧
      h.polls = (List.range ((stopped? h.events).getD t.now / period + 1)).map (· * period) ∧
      (h.map (·.1)).Pairwise (· ≤ ·) ∧
      t.watching = first.watching.run h.fileSteps) ∧
    ∀ (schedule : List (Nat × WatchEvent)) (instant : Nat),
      (schedule.map (·.1)).Pairwise (· ≤ ·) → (∀ x ∈ schedule, x.1 ≤ instant) →
        ∃ h : History, h.events = schedule ∧ Ran first h (first.attend schedule instant) ∧
          (first.attend schedule instant).Idle ∧ (first.attend schedule instant).now = instant := by
  intro first
  refine ⟨fun h t ran orderly idle => ?_, fun schedule instant ordered within => ?_⟩
  · have onTime : OnTime first h t := ran.onTime (onTime_start rfl rfl rfl) positive
    have obeys : Obeys h t := ran.obeys ⟨fun _ => ⟨rfl, rfl, rfl⟩, nofun⟩ orderly
    cases order : stopped? h.events with
    | none =>
      obtain ⟨running, -, -⟩ := obeys.untold order
      obtain ⟨nextPoll, -⟩ := onTime.next running
      have before : t.now < h.polls.length * first.period := nextPoll ▸ idle.now_lt running
      exact ⟨running, onTime.polls_eq before onTime.polls_le, onTime.ordered, onTime.watching⟩
    | some stop =>
      have ended : t.finished = some stop := by
        refine (obeys.told stop order).resolve_right ?_
        rintro ⟨running, -, told⟩
        cases (idle .hear).symm.trans (ready_hear_of_told running told)
      obtain ⟨-, reached, until_stop⟩ := onTime.ended stop ended
      -- The order came between two polls.
      have before : stop < h.polls.length * first.period := by
        refine Nat.lt_of_le_of_ne reached fun same => ?_
        exact orderly.apart stop order ⟨_, same.trans (Nat.mul_comm _ _)⟩
      exact ⟨ended, onTime.polls_eq before until_stop, onTime.ordered, onTime.watching⟩
  · exact ran_attend ordered (fun x hx => ⟨Nat.zero_le _, within x hx⟩) (Nat.zero_le _)

/-- A message that is no order, a file written between two polls, and an order to stop. -/
theorem polls_at_fixed_instants_sample :
    let first := start .empty "list.json" none 10
    let schedule : List (Nat × WatchEvent) :=
      [(5, .message false), (15, .fileChanged (some ⟨[], 1⟩)), (25, .message true)]
    Orderly 10 schedule ∧ ∃ h : History, h.events = schedule ∧
      (first.attend schedule 31).now = 31 ∧ (first.attend schedule 31).finished = some 25 ∧
      h.polls = [0, 10, 20] ∧
      (first.attend schedule 31).watching = first.watching.run h.fileSteps := by
  intro first schedule
  have order : stopped? schedule = some 25 := by decide
  have orderly : Orderly 10 schedule := by
    refine ⟨by decide, ?_⟩
    rw [order]
    decide
  obtain ⟨polling, attending⟩ := polls_at_fixed_instants .empty "list.json" none 10 (by decide)
  obtain ⟨h, events, ran, idle, now⟩ := attending schedule 31 (by decide) (by decide)
  obtain ⟨finished, polls, -, watching⟩ := polling h _ ran (events ▸ orderly) idle
  rw [events, order] at finished polls
  exact ⟨orderly, h, events, now, finished, polls.trans (by rw [Option.getD_some]; decide),
    watching⟩

end WatchTask

end Registrar
