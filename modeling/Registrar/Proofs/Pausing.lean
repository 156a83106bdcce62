import Registrar.Simulation.World

/-! When shutdown is called for, as messages arrive on its channel, and what that makes of a pause. -/
namespace Registrar
set_option autoImplicit false

/-! ## Hearing -/

namespace StopReceiver

variable (r : StopReceiver) (message : Option Bool)

theorem value_receive :
    (r.receive message).value = if r.connected then message.getD r.value else r.value := by
  cases message with
  | none => exact (ite_self r.value).symm
  | some stop => exact apply_ite StopReceiver.value ..

theorem connected_receive : (r.receive message).connected = (r.connected && message.isSome) := by
  cases message with
  | none => exact (Bool.and_false _).symm
  | some stop =>
    rw [receive, send, Option.isSome_some, Bool.and_true]
    split <;> rfl

variable {r}

/-- The receivers differ at most in what has been heard. -/
structure Alike (r r' : StopReceiver) : Prop where
  value : r.value = r'.value
  connected : r.connected = r'.connected

theorem Alike.receive {r' : StopReceiver} (h : r.Alike r') :
    (r.receive message).Alike (r'.receive message) where
  value := by rw [value_receive, value_receive, h.value, h.connected]
  connected := by rw [connected_receive, connected_receive, h.connected]

end StopReceiver

namespace ShutdownWait

/-- Whoever is called for later is not missed: a call that came while the wait listened is still to
be heard, and a wait without end has no call to come. -/
def Heeds (r : StopReceiver) : ShutdownWait → Prop
  | looking => True
  | listening => r.value = true → r.unheard = true
  | ended => False
  | endless => r.value = false ∧ r.connected = false

variable {stage : ShutdownWait} {r : StopReceiver}

theorem Heeds.ne_ended (h : stage.Heeds r) : stage ≠ .ended := by
  rintro rfl
  exact h

theorem Heeds.receive (h : stage.Heeds r) (message : Option Bool) :
    stage.Heeds (r.receive message) := by
  cases stage with
  | looking => trivial
  | listening =>
    cases message with
    | none => exact h
    | some stop =>
      rw [StopReceiver.receive, StopReceiver.send]
      split
      · exact fun _ => rfl
      · exact h
  | ended => exact h
  | endless =>
    obtain ⟨value, gone⟩ := h
    constructor
    · rw [StopReceiver.value_receive, gone, if_neg Bool.false_ne_true, value]
    · rw [StopReceiver.connected_receive, gone, Bool.false_and]

/-- Going on with a wait leaves the channel as it is, but for what is heard now. -/
theorem resume_alike (stage : ShutdownWait) (r : StopReceiver) : (stage.resume r).2.Alike r := by
  have looked (r : StopReceiver) : (look r).2.Alike r := by
    unfold look
    split
    · exact ⟨rfl, rfl⟩
    · split <;> exact ⟨rfl, rfl⟩
  cases stage with
  | looking => exact looked r
  | listening =>
    unfold resume
    dsimp only
    split
    · exact ⟨(looked r.heard).value, (looked r.heard).connected⟩
    · split <;> exact ⟨rfl, rfl⟩
  | ended | endless => exact ⟨rfl, rfl⟩

theorem heeds_looking (r : StopReceiver) : looking.Heeds r := trivial

theorem heeds_look (r : StopReceiver) :
    (r.value = true ∧ (look r).1 = .ended) ∨ (r.value = false ∧ (look r).1.Heeds (look r).2) := by
  unfold look
  cases value : r.value with
  | true => exact .inl ⟨rfl, rfl⟩
  | false =>
    rw [if_neg Bool.false_ne_true]
    cases gone : r.heard.changed with
    | true =>
      have connected : r.connected = false := by
        simpa [StopReceiver.changed, StopReceiver.heard] using gone
      exact .inr ⟨rfl, value, connected⟩
    | false => exact .inr ⟨rfl, fun call => absurd (value.symm.trans call) Bool.false_ne_true⟩

/-- A wait that goes on has ended when the channel calls for shutdown, and heeds it else. -/
theorem Heeds.resume (h : stage.Heeds r) :
    (r.value = true ∧ (stage.resume r).1 = .ended) ∨
      (r.value = false ∧ (stage.resume r).1.Heeds (stage.resume r).2) := by
  cases stage with
  | looking => exact heeds_look r
  | listening =>
    unfold ShutdownWait.resume
    cases unheard : r.unheard with
    | true => exact heeds_look r.heard
    | false =>
      have value : r.value = false := by
        refine Bool.eq_false_iff.2 fun call => ?_
        exact Bool.false_ne_true (unheard.symm.trans (h call))
      refine .inr ⟨value, ?_⟩
      dsimp only
      rw [if_neg Bool.false_ne_true]
      cases gone : r.changed with
      | true =>
        have connected : r.connected = false := by
          simpa [StopReceiver.changed, unheard] using gone
        exact ⟨value, connected⟩
      | false => exact h
  | ended => exact h.elim
  | endless => exact .inr ⟨h.1, h⟩

end ShutdownWait

namespace Simulation

namespace Shutdown

/-- The value of the channel when the messages that were sent up to the instant have arrived. -/
def calledFrom (instant : Nat) (r : StopReceiver) : List Parcel → Bool
  | [] => r.value
  | p :: rest =>
    if p.instant ≤ instant then calledFrom instant (r.receive p.message) rest else r.value

/-- Whether shutdown is called for once all has arrived that was sent up to the instant. -/
def calledAt (s : Shutdown) (instant : Nat) : Bool :=
  calledFrom instant s.toStopReceiver s.parcels

/-- It makes no difference what of this has been heard. -/
theorem calledFrom_congr {instant : Nat} {r r' : StopReceiver} (alike : r.Alike r')
    (parcels : List Parcel) : calledFrom instant r parcels = calledFrom instant r' parcels := by
  induction parcels generalizing r r' with
  | nil => exact alike.value
  | cons p rest ih =>
    rw [calledFrom, calledFrom, alike.value]
    split
    · exact ih (alike.receive p.message)
    · rfl

/-- Messages that are no calls call for nothing, nor does the end of the sender. -/
theorem calledFrom_eq_false {instant : Nat} {r : StopReceiver} {parcels : List Parcel}
    (value : r.value = false) (h : ∀ p ∈ parcels, p.message ≠ some true) :
    calledFrom instant r parcels = false := by
  induction parcels generalizing r with
  | nil => exact value
  | cons p rest ih =>
    have harmless : (r.receive p.message).value = false := by
      rw [StopReceiver.value_receive, value]
      split
      · match message : p.message with
        | none => rfl
        | some false => rfl
        | some true => exact absurd message (h p List.mem_cons_self)
      · rfl
    rw [calledFrom]
    split
    · exact ih harmless fun p hp => h p (List.mem_cons_of_mem _ hp)
    · exact value

/-- What a pause comes to: it ends at the first instant at which shutdown is called for, or it takes
its time and leaves the later messages under way. -/
inductive Passed (s : Shutdown) (now wake : Nat) : Wake × Nat × Shutdown → Prop
  | stopped (instant : Nat) (after : Shutdown) (begun : now ≤ instant) (inTime : instant < wake)
      (calm : ∀ i, now ≤ i → i < instant → s.calledAt i = false)
      (called : s.calledAt instant = true) : Passed s now wake (.stopped, instant, after)
  | elapsed (after : Shutdown) (calm : ∀ i, now ≤ i → i < wake → s.calledAt i = false)
      (same : ∀ i, wake ≤ i → after.calledAt i = s.calledAt i) :
    Passed s now wake (.elapsed, wake, after)

variable {s s' : Shutdown} {now later wake : Nat} {result : Wake × Nat × Shutdown}

/-- A pause may be taken up later, if shutdown is not called for until then. -/
theorem Passed.of_later (h : Passed s' later wake result) (le : now ≤ later)
    (calm : ∀ i, now ≤ i → i < later → s.calledAt i = false)
    (same : ∀ i, later ≤ i → s'.calledAt i = s.calledAt i) (lt : later < wake) :
    Passed s now wake result := by
  have calm_to {bound : Nat} (rest : ∀ i, later ≤ i → i < bound → s'.calledAt i = false) (i : Nat)
      (begun : now ≤ i) (below : i < bound) : s.calledAt i = false := by
    by_cases early : i < later
    · exact calm i begun early
    · rw [← same i (Nat.le_of_not_lt early)]
      exact rest i (Nat.le_of_not_lt early) below
  cases h with
  | stopped instant after begun inTime rest called =>
    exact .stopped instant after (Nat.le_trans le begun) inTime (calm_to rest)
      (same instant begun ▸ called)
  | elapsed after rest same' =>
    exact .elapsed after (calm_to rest) fun i hi =>
      (same' i hi).trans (same i (Nat.le_trans (Nat.le_of_lt lt) hi))

/-- Shutdown is called for at the very beginning. -/
theorem Passed.at_once (after : Shutdown) (h : now < wake) (called : s.calledAt now = true) :
    Passed s now wake (.stopped, now, after) :=
  .stopped now after (Nat.le_refl _) h (fun _ begun early => absurd begun (Nat.not_le.2 early))
    called

/-- A pause in which the wait for shutdown has missed no call. The induction is on the messages under
way; the wait heeds the calls among them at every turn. -/
theorem passFrom_passed {stage : ShutdownWait} {r : StopReceiver} (heeds : stage.Heeds r)
    (parcels : List Parcel) (h : now < wake) :
    Passed ⟨r, parcels⟩ now wake (passFrom stage r now wake parcels) := by
  induction parcels generalizing stage r now with
  | nil =>
    rw [passFrom]
    obtain ⟨value, ended⟩ | ⟨value, heeds⟩ := heeds.resume
    · rw [if_pos ended]
      exact .at_once _ h value
    · have same : Nat.max now wake = wake := Nat.max_eq_right (Nat.le_of_lt h)
      rw [if_neg heeds.ne_ended, same]
      exact .elapsed _ (fun _ _ _ => value) fun _ _ => (stage.resume_alike r).value
  | cons p rest ih =>
    -- Up to the first message the value stands; from then on it is that of the others.
    have before (i : Nat) (early : i < p.instant) : calledAt ⟨r, p :: rest⟩ i = r.value :=
      if_neg (Nat.not_le.2 early)
    have behind (i : Nat) (le : p.instant ≤ i) :
        calledAt ⟨r.receive p.message, rest⟩ i = calledAt ⟨r, p :: rest⟩ i := (if_pos le).symm
    rw [passFrom]
    by_cases arrived : p.instant ≤ now
    · rw [if_pos arrived]
      exact (ih (heeds.receive p.message) h).of_later (Nat.le_refl _)
        (fun i hi lt => absurd hi (Nat.not_le.2 lt))
        (fun i hi => behind i (Nat.le_trans arrived hi)) h
    rw [if_neg arrived]
    have ahead := Nat.lt_of_not_le arrived
    have alike := stage.resume_alike r
    obtain ⟨value, ended⟩ | ⟨value, heeds⟩ := heeds.resume
    · rw [if_pos ended]
      exact .at_once _ h ((before now ahead).trans value)
    rw [if_neg heeds.ne_ended]
    have calm (i : Nat) (early : i < p.instant) : calledAt ⟨r, p :: rest⟩ i = false :=
      (before i early).trans value
    by_cases inTime : p.instant < wake
    · rw [if_pos inTime]
      refine (ih (heeds.receive p.message) inTime).of_later (Nat.le_of_lt ahead)
        (fun i _ early => calm i early) (fun i le => ?_) inTime
      rw [← behind i le]
      exact calledFrom_congr (alike.receive p.message) rest
    · rw [if_neg inTime]
      exact .elapsed _ (fun i _ lt => calm i (Nat.lt_of_lt_of_le lt (Nat.le_of_not_lt inTime)))
        fun _ _ => calledFrom_congr alike _

end Shutdown

/-- Whether shutdown is called for by the instant; never without a channel. -/
def World.calledAt (w : World) (instant : Nat) : Bool :=
  w.shutdown.any (·.calledAt instant)

theorem World.calledAt_eq_false {w : World}
    (harmless : ∀ channel ∈ w.shutdown, channel.value = false ∧
      ∀ p ∈ channel.parcels, p.message ≠ some true) (instant : Nat) :
    w.calledAt instant = false := by
  unfold World.calledAt
  cases channel : w.shutdown with
  | none => rfl
  | some s =>
    obtain ⟨value, parcels⟩ := harmless s channel
    exact Shutdown.calledFrom_eq_false value parcels

/-- What a pause of a world comes to. -/
inductive World.Paused (w : World) (wake : Nat) : Wake × World → Prop
  | stopped (after : World) (begun : w.now ≤ after.now) (inTime : after.now < wake)
      (calm : ∀ i, w.now ≤ i → i < after.now → w.calledAt i = false)
      (called : w.calledAt after.now = true) : Paused w wake (.stopped, after)
  | elapsed (after : World) (now : after.now = wake)
      (calm : ∀ i, w.now ≤ i → i < wake → w.calledAt i = false)
      (same : ∀ i, wake ≤ i → after.calledAt i = w.calledAt i) : Paused w wake (.elapsed, after)

theorem World.pause_paused {w : World} {wake : Nat} (h : w.now < wake) :
    w.Paused wake (w.pause wake) := by
  unfold World.pause
  cases channel : w.shutdown with
  | none =>
    have silent (i : Nat) : w.calledAt i = false := by
      rw [World.calledAt, channel]
      rfl
    refine .elapsed _ (Nat.max_eq_right (Nat.le_of_lt h)) (fun i _ _ => silent i) fun i _ => ?_
    rw [silent i]
    rfl
  | some s =>
    have told (i : Nat) : w.calledAt i = s.calledAt i := by
      rw [World.calledAt, channel]
      rfl
    have passed : s.Passed w.now wake (s.pass w.now wake) :=
      Shutdown.passFrom_passed (ShutdownWait.heeds_looking _) _ h
    dsimp only
    generalize s.pass w.now wake = result at passed ⊢
    cases passed with
    | stopped instant after begun inTime calm called =>
      exact .stopped { w with now := instant, shutdown := some after } begun inTime
        (fun i hi lt => (told i).trans (calm i hi lt)) ((told instant).trans called)
    | elapsed after calm same =>
      exact .elapsed { w with now := wake, shutdown := some after } rfl
        (fun i hi lt => (told i).trans (calm i hi lt))
        fun i hi => (same i hi).trans (told i).symm

end Simulation

end Registrar
