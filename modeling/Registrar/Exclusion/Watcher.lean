import Registrar.Exclusion.Store
import Registrar.Shutdown

/-! Keeping the published list in step with its file: a watcher that compares fingerprints at each
poll, and a task that polls at fixed intervals until it is told to stop. -/
namespace Registrar
set_option autoImplicit false

/-! ## Files -/

/-- A file as the watcher meets it; times are in seconds. -/
structure WatchedFile where
  content : Bytes
  modified : Nat
deriving DecidableEq, Repr

structure Fingerprint where
  modified : Nat
  length : Nat
deriving DecidableEq, Repr

def WatchedFile.fingerprint (f : WatchedFile) : Fingerprint :=
  ⟨f.modified, f.content.length⟩

def WatchedFile.reading : Option WatchedFile → FileReading
  | some f => .content f.content
  | none => .missing

/-! ## Polls -/

structure ExclusionWatcher where
  store : ExclusionStore
  path : String
  lastSeen : Option Fingerprint

namespace ExclusionWatcher

/-- A watcher over a store; `loaded` when the store holds what the file holds. -/
def start (store : ExclusionStore) (path : String) (file : Option WatchedFile) (loaded : Bool) :
    ExclusionWatcher :=
  ⟨store, path, if loaded then file.map (·.fingerprint) else none⟩

/-- Reloads the file if its fingerprint changed; says whether a new table was published. -/
def poll (w : ExclusionWatcher) (file : Option WatchedFile) : ExclusionWatcher × Bool :=
  match file with
  | none => ({ w with lastSeen := none }, false)
  | some f =>
    if w.lastSeen = some f.fingerprint then (w, false)
    else
      match w.store.reload w.path (.content f.content) with
      | (store, .ok _) => ({ w with store, lastSeen := some f.fingerprint }, true)
      | (store, .error _) => ({ w with store, lastSeen := some f.fingerprint }, false)

end ExclusionWatcher

/-- What is heard next is an order to stop, or that no more will come. -/
def StopReceiver.stops (r : StopReceiver) : Bool :=
  !r.unheard || r.value

/-! ## The task -/

/-- What can happen besides the passing of time. -/
inductive WatchEvent where
  | fileChanged (file : Option WatchedFile)
  /-- A message on the shutdown channel. -/
  | message (stop : Bool)
  /-- The sender of the shutdown channel is gone. -/
  | hangUp
deriving DecidableEq, Repr

/-- The task on a clock in milliseconds. -/
structure WatchTask where
  watcher : ExclusionWatcher
  file : Option WatchedFile
  period : Nat
  now : Nat
  /-- The instant of the next poll. -/
  nextPoll : Nat
  receiver : StopReceiver
  /-- The instant at which the task ended. -/
  finished : Option Nat

namespace WatchTask

/-- What the task waits for at once. -/
inductive Branch where
  | tick
  | hear
deriving DecidableEq, Repr

/-- A task begun at instant zero over a store that holds what the file holds. -/
def start (store : ExclusionStore) (path : String) (file : Option WatchedFile) (period : Nat) :
    WatchTask :=
  ⟨.start store path file true, file, period, 0, 0, .start, none⟩

def ready (t : WatchTask) : Branch → Bool
  | .tick => t.finished.isNone && t.nextPoll ≤ t.now
  | .hear => t.finished.isNone && t.receiver.changed

/-- Takes a branch. The poll after this one comes a period from now, even if this one is late. -/
def enter (t : WatchTask) : Branch → WatchTask
  | .tick =>
    { t with watcher := (t.watcher.poll t.file).1, nextPoll := t.now + Nat.max t.period 1 }
  | .hear =>
    if t.receiver.stops then { t with finished := some t.now }
    else { t with receiver := { t.receiver with unheard := false } }

/-- A poll that is due puts off the next one. -/
theorem tick_cases {t : WatchTask} (h : t.ready .tick = true) :
    t.finished = none ∧ t.nextPoll ≤ t.now ∧ t.now < (t.enter .tick).nextPoll := by
  obtain ⟨running, due⟩ := (Bool.and_eq_true ..).mp h
  exact ⟨Option.isNone_iff_eq_none.mp running, of_decide_eq_true due,
    Nat.lt_add_of_pos_right (Nat.le_max_right t.period 1)⟩

/-- What is heard ends the task, or it is a message that was unheard. -/
theorem hear_cases {t : WatchTask} (h : t.ready .hear = true) :
    t.finished = none ∧
      ((t.receiver.stops = true ∧ t.enter .hear = { t with finished := some t.now }) ∨
        (t.receiver.unheard = true ∧ t.receiver.value = false ∧
          t.enter .hear = { t with receiver := { t.receiver with unheard := false } })) := by
  obtain ⟨running, -⟩ := (Bool.and_eq_true ..).mp h
  refine ⟨Option.isNone_iff_eq_none.mp running, ?_⟩
  cases stops : t.receiver.stops with
  | true => exact .inl ⟨rfl, if_pos stops⟩
  | false =>
    obtain ⟨unheard, value⟩ := (Bool.or_eq_false_iff ..).mp stops
    refine .inr ⟨by simpa using unheard, value, if_neg ?_⟩
    rw [stops]
    exact Bool.false_ne_true

/-- Lets the task run up to an instant: it takes branches while one is ready, and else sleeps to the
next poll. Ready branches are taken in this order here; the order matters only where the task is to
stop at the instant of a poll. -/
def passTo (t : WatchTask) (instant : Nat) : WatchTask :=
  if t.ready .tick then (t.enter .tick).passTo instant
  else if t.ready .hear then (t.enter .hear).passTo instant
  else if t.finished.isNone && t.nextPoll ≤ instant then
    { t with now := t.nextPoll : WatchTask }.passTo instant
  else { t with now := Nat.max t.now instant }
termination_by (Nat.max instant t.now + 1 - t.nextPoll,
  t.receiver.unheard.toNat + t.finished.isNone.toNat, instant - t.now)
decreasing_by
  · rename_i ready
    obtain ⟨-, due, later⟩ := tick_cases ready
    have reached : t.now ≤ Nat.max instant t.now := Nat.le_max_right _ _
    have now : (t.enter .tick).now = t.now := rfl
    refine Prod.Lex.left _ _ ?_
    rw [now]
    omega
  · rename_i ready
    obtain ⟨running, ⟨-, stopped⟩ | ⟨unheard, -, heard⟩⟩ := hear_cases ready
    · rw [stopped, running]
      exact Prod.Lex.right _ (Prod.Lex.left _ _ (Nat.lt_succ_self _))
    · rw [heard, unheard, running]
      exact Prod.Lex.right _ (Prod.Lex.left _ _ (Nat.lt_succ_self 1))
  · rename_i idle _ sleeps
    obtain ⟨running, within⟩ := (Bool.and_eq_true ..).mp sleeps
    have within : t.nextPoll ≤ instant := of_decide_eq_true within
    have later : t.now < t.nextPoll := Nat.lt_of_not_le fun due =>
      idle ((Bool.and_eq_true ..).mpr ⟨running, decide_eq_true due⟩)
    have reached : Nat.max instant t.nextPoll = Nat.max instant t.now :=
      (Nat.max_eq_left within).trans (Nat.max_eq_left (by omega)).symm
    rw [reached]
    exact Prod.Lex.right _ (Prod.Lex.right _ (by omega))

def happen (t : WatchTask) : WatchEvent → WatchTask
  | .fileChanged file => { t with file }
  | .message stop => { t with receiver := t.receiver.send stop }
  | .hangUp => { t with receiver := { t.receiver with connected := false } }

def take (t : WatchTask) (instant : Nat) (e : WatchEvent) : WatchTask :=
  (t.passTo instant).happen e

end WatchTask

end Registrar
