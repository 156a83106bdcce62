import Mathlib.Data.List.Infix
import Mathlib.Logic.Function.Basic
import Mathlib.Logic.Relation
import Registrar.Proofs.Transcript

/-! Calls side by side. At each step one of them goes on with an answer to its question, and a lock
is given only to a call that asks for it while nobody holds it. Calls that hold the session from
beginning to end come one after another all the same. -/
namespace Registrar
set_option autoImplicit false

open Program

/-- The question neither takes the session nor gives it back. -/
def Ask.KeepsSession (q : Ask) : Prop :=
  q ≠ .acquire .session ∧ q ≠ .release .session

namespace Program

variable {α β : Type}

/-! ## What is left of a program -/

/-- `p.Leaves t p'`: after the exchanges `t`, what is left of `p` is `p'`. -/
inductive Leaves : Program α → List Exchange → Program α → Prop
  | nil (p : Program α) : Leaves p [] p
  | cons {q : Ask} {next : q.Answer → Program α} {answer : q.Answer} {t : List Exchange}
      {p : Program α} (h : Leaves (next answer) t p) : Leaves (ask q next) (⟨q, answer⟩ :: t) p

theorem Leaves.concat {p : Program α} {t : List Exchange} {q : Ask} {next : q.Answer → Program α}
    (h : p.Leaves t (ask q next)) (answer : q.Answer) :
    p.Leaves (t ++ [⟨q, answer⟩]) (next answer) := by
  generalize hp' : ask q next = p' at h
  induction h with
  | nil p =>
    subst hp'
    exact .cons (.nil _)
  | cons h ih => exact .cons (ih hp')

theorem Leaves.begins {p p' : Program α} {t : List Exchange} (h : p.Leaves t p') :
    p.Begins t := by
  induction h with
  | nil p => exact begins_nil p
  | cons h ih => exact .inr ⟨_, _, rfl, ih⟩

theorem Leaves.yields {p : Program α} {t : List Exchange} {a : α} (h : p.Leaves t (done a)) :
    p.Yields t a := by
  generalize hp' : done a = p' at h
  induction h with
  | nil p =>
    subst hp'
    exact ⟨rfl, rfl⟩
  | cons h ih => exact ⟨_, _, rfl, ih hp'⟩

/-- After its first part, what is left of a sequence is its second part. -/
theorem Yields.leaves_bind {p : Program α} {f : α → Program β} {t : List Exchange} {a : α}
    (h : p.Yields t a) : (p >>= f).Leaves t (f a) := by
  induction p generalizing t with
  | done b =>
    obtain ⟨rfl, rfl⟩ := h
    exact .nil _
  | ask q next ih =>
    obtain ⟨answer, rest, rfl, h⟩ := h
    exact .cons (ih answer h)
  | stuck => exact h.elim

theorem Yields.leaves {p : Program α} {t : List Exchange} {a : α} (h : p.Yields t a) :
    p.Leaves t (done a) := by
  have whole := h.leaves_bind (f := done)
  rwa [show p >>= done = p from bind_done p] at whole

/-! ## Sessions -/

/-- Inside a session: to give the session back is the last thing that the program does, and it does
not ask for the session again. -/
def InSession : Program α → Prop
  | done _ => False
  | stuck => True
  | ask q next =>
    q ≠ .acquire .session ∧ (q = .release .session → ∀ answer, ∃ a, next answer = done a) ∧
      (q ≠ .release .session → ∀ answer, (next answer).InSession)

/-- The program asks for nothing before it holds the session, and holds it to the end. -/
def Sessioned : Program α → Prop
  | done _ | stuck => True
  | ask q next => q = .acquire .session ∧ ∀ answer, (next answer).InSession

theorem InSession.bind {p : Program α} {f : α → Program β} (hp : p.Asks Ask.KeepsSession)
    (hf : ∀ a, (f a).InSession) : (p.bind f).InSession := by
  induction p with
  | done a => exact hf a
  | ask q next ih =>
    exact ⟨hp.1.1, fun leaving => absurd leaving hp.1.2, fun _ answer => ih answer (hp.2 answer)⟩
  | stuck => trivial

/-- The end of a session. -/
theorem inSession_release (a : α) : (request (.release .session) >>= fun _ => done a).InSession :=
  ⟨nofun, fun _ _ => ⟨a, rfl⟩, fun leaving => absurd rfl leaving⟩

end Program

/-! ## Calls side by side -/

/-- Calls under way: what each of them has still to do, who holds each lock, and all that has been
asked. -/
structure Calls (ι α : Type) where
  left : ι → Program α
  holder : Lock → Option ι
  trace : List Exchange

namespace Calls

variable {ι α : Type} {calls : ι → Program α} {s s' : Calls ι α}

def start (calls : ι → Program α) : Calls ι α :=
  ⟨calls, fun _ => none, []⟩

/-- A lock passes to another holder. -/
def pass (s : Calls ι α) (l : Lock) (holder : Option ι) : Calls ι α :=
  { s with holder := Function.update s.holder l holder }

@[simp] theorem left_pass (s : Calls ι α) (l : Lock) (holder : Option ι) :
    (s.pass l holder).left = s.left := rfl

@[simp] theorem holder_pass (s : Calls ι α) (l : Lock) (holder : Option ι) :
    (s.pass l holder).holder = Function.update s.holder l holder := rfl

@[simp] theorem trace_pass (s : Calls ι α) (l : Lock) (holder : Option ι) :
    (s.pass l holder).trace = s.trace := rfl

/-! ## One after another -/

/-- The calls come one after another: those that do not hold the session have not begun or have
ended, all that the holder has asked stands at the end, and whatever was asked was asked by a call
of which everything stands right before it. -/
structure Serial (calls : ι → Program α) (s : Calls ι α) : Prop where
  waiting : ∀ i, s.holder .session ≠ some i →
    s.left i = calls i ∨ s.left i = stuck ∨ ∃ a, s.left i = done a
  holding : ∀ i, s.holder .session = some i → (s.left i).InSession ∧
    ∃ before own, s.trace = before ++ own ∧ (calls i).Leaves own (s.left i)
  located : ∀ u x, u ++ [x] <+: s.trace →
    ∃ i before own, u = before ++ own ∧ (calls i).Begins (own ++ [x])
  finished : ∀ i a, s.left i = done a → ∃ own, own <:+: s.trace ∧ (calls i).Yields own a

theorem serial_start (calls : ι → Program α) : Serial calls (start calls) where
  waiting i _ := .inl rfl
  holding i held := nomatch held
  located u x h := by
    have none : u ++ [x] = [] := List.prefix_nil.1 h
    simp at none
  finished i a h := ⟨[], List.nil_infix, by
    have same : calls i = done a := h
    rw [same]
    exact ⟨rfl, rfl⟩⟩

theorem Serial.located_proceed (h : Serial calls s) {i : ι} {before own : List Exchange}
    {x : Exchange} (trace : s.trace = before ++ own) (begins : (calls i).Begins (own ++ [x])) :
    ∀ u y, u ++ [y] <+: s.trace ++ [x] →
      ∃ i before own, u = before ++ own ∧ (calls i).Begins (own ++ [y]) := by
  intro u y hu
  obtain whole | hu := List.prefix_concat_iff.1 hu
  · obtain ⟨rfl, same⟩ := List.append_inj' whole rfl
    obtain rfl := List.singleton_inj.1 same
    exact ⟨i, before, own, trace, begins⟩
  · exact h.located u y hu

/-! ## Steps -/

variable [DecidableEq ι]

/-- A call goes on with an answer to its question. -/
def proceed (s : Calls ι α) (i : ι) {q : Ask} (next : q.Answer → Program α) (answer : q.Answer) :
    Calls ι α :=
  { s with left := Function.update s.left i (next answer), trace := s.trace ++ [⟨q, answer⟩] }

/-- A call goes no further, and holds nothing any more. -/
def drop (s : Calls ι α) (i : ι) : Calls ι α :=
  { s with
    left := Function.update s.left i stuck
    holder := fun l => (s.holder l).filter (· ≠ i) }

section

variable (s) (i : ι) {q : Ask} (next : q.Answer → Program α) (answer : q.Answer) (l : Lock)

@[simp] theorem left_proceed :
    (s.proceed i next answer).left = Function.update s.left i (next answer) := rfl

@[simp] theorem holder_proceed : (s.proceed i next answer).holder = s.holder := rfl

@[simp] theorem trace_proceed :
    (s.proceed i next answer).trace = s.trace ++ [⟨q, answer⟩] := rfl

@[simp] theorem left_drop : (s.drop i).left = Function.update s.left i stuck := rfl

theorem holder_drop : (s.drop i).holder l = (s.holder l).filter (· ≠ i) := rfl

@[simp] theorem trace_drop : (s.drop i).trace = s.trace := rfl

end

/-- What can happen next: a call is answered, takes a lock that is free, gives back a lock that it
holds, or is dropped, which frees its locks. -/
inductive Step (s : Calls ι α) : Calls ι α → Prop
  | answer (i : ι) (q : Ask) (next : q.Answer → Program α) (answer : q.Answer)
      (asks : s.left i = ask q next) (plain : ∀ l, q ≠ .acquire l ∧ q ≠ .release l) :
    Step s (s.proceed i next answer)
  | acquire (i : ι) (l : Lock) (next : Unit → Program α) (asks : s.left i = ask (.acquire l) next)
      (free : s.holder l = none) :
    Step s ((s.proceed i (q := .acquire l) next ()).pass l (some i))
  | release (i : ι) (l : Lock) (next : Unit → Program α) (asks : s.left i = ask (.release l) next)
      (held : s.holder l = some i) :
    Step s ((s.proceed i (q := .release l) next ()).pass l none)
  | drop (i : ι) : Step s (s.drop i)

/-- The calls can come this far. -/
def Reached (calls : ι → Program α) (s : Calls ι α) : Prop :=
  Relation.ReflTransGen Step (start calls) s

/-! ## Every step -/

namespace Serial

variable {i : ι} {q : Ask} {next : q.Answer → Program α} {answer : q.Answer}

/-- Nobody asks for anything but the session without holding it. -/
theorem holds (sessioned : ∀ i, (calls i).Sessioned) (h : Serial calls s)
    (asks : s.left i = ask q next) (inside : q ≠ .acquire .session) :
    s.holder .session = some i := by
  by_contra other
  obtain unbegun | dropped | ⟨a, ended⟩ := h.waiting i other
  · have opening := sessioned i
    rw [← unbegun, asks] at opening
    exact inside opening.1
  · cases asks.symm.trans dropped
  · cases asks.symm.trans ended

theorem finished_of_ne (h : Serial calls s) {j : ι} {a : α} {x : Exchange} {p : Program α}
    (other : j ≠ i) (ended : Function.update s.left i p j = done a) :
    ∃ own, own <:+: s.trace ++ [x] ∧ (calls j).Yields own a := by
  rw [Function.update_of_ne other] at ended
  obtain ⟨own, inside, yields⟩ := h.finished j a ended
  exact ⟨own, inside.trans (List.prefix_append ..).isInfix, yields⟩

theorem waiting_of_ne (h : Serial calls s) {j : ι} {p : Program α} (other : j ≠ i)
    (free : s.holder .session ≠ some j) :
    Function.update s.left i p j = calls j ∨ Function.update s.left i p j = stuck ∨
      ∃ a, Function.update s.left i p j = done a := by
  rw [Function.update_of_ne other]
  exact h.waiting j free

theorem proceed (h : Serial calls s) (held : s.holder .session = some i)
    (asks : s.left i = ask q next) (keeps : q.KeepsSession)
    (left : s'.left = Function.update s.left i (next answer))
    (trace : s'.trace = s.trace ++ [⟨q, answer⟩])
    (holder : s'.holder .session = s.holder .session) : Serial calls s' := by
  obtain ⟨inside, before, own, split, leaves⟩ := h.holding i held
  rw [asks] at inside leaves
  have still : (next answer).InSession := inside.2.2 keeps.2 answer
  have further := leaves.concat answer
  constructor
  · intro j free
    rw [holder, held] at free
    have other : j ≠ i := fun same => free (congrArg some same.symm)
    rw [left]
    exact h.waiting_of_ne other (held ▸ free)
  · intro j held'
    rw [holder, held] at held'
    obtain rfl := Option.some.inj held'
    rw [left, Function.update_self, trace, split]
    exact ⟨still, before, own ++ [⟨q, answer⟩], List.append_assoc .., further⟩
  · rw [trace]
    exact h.located_proceed split further.begins
  · intro j a ended
    rw [left] at ended
    rw [trace]
    by_cases same : j = i
    · rw [same, Function.update_self] at ended
      rw [ended] at still
      exact still.elim
    · exact h.finished_of_ne same ended

theorem begin (sessioned : ∀ i, (calls i).Sessioned) (h : Serial calls s)
    {next : Unit → Program α} (free : s.holder .session = none)
    (asks : s.left i = ask (.acquire .session) next) :
    Serial calls ((s.proceed i (q := .acquire .session) next ()).pass .session (some i)) := by
  have unbegun : calls i = ask (.acquire .session) next := by
    obtain unbegun | dropped | ⟨a, ended⟩ := h.waiting i (by rw [free]; nofun)
    · exact unbegun.symm.trans asks
    · cases asks.symm.trans dropped
    · cases asks.symm.trans ended
  have opening := sessioned i
  rw [unbegun] at opening
  have inside : (next ()).InSession := opening.2 ()
  have first : (calls i).Leaves [⟨.acquire .session, ()⟩] (next ()) := by
    rw [unbegun]
    exact .cons (.nil _)
  constructor
  · intro j free'
    rw [holder_pass, Function.update_self] at free'
    exact h.waiting_of_ne (fun same => free' (congrArg some same.symm)) (by rw [free]; nofun)
  · intro j held
    rw [holder_pass, Function.update_self] at held
    obtain rfl := Option.some.inj held
    rw [left_pass, left_proceed, Function.update_self]
    exact ⟨inside, s.trace, _, rfl, first⟩
  · exact h.located_proceed (List.append_nil _).symm first.begins
  · intro j a ended
    by_cases same : j = i
    · rw [left_pass, left_proceed, same, Function.update_self] at ended
      rw [ended] at inside
      exact inside.elim
    · exact h.finished_of_ne same ended

theorem finish (h : Serial calls s) {next : Unit → Program α}
    (held : s.holder .session = some i) (asks : s.left i = ask (.release .session) next) :
    Serial calls ((s.proceed i (q := .release .session) next ()).pass .session none) := by
  obtain ⟨inside, before, own, split, leaves⟩ := h.holding i held
  rw [asks] at inside leaves
  obtain ⟨result, last⟩ := inside.2.1 rfl ()
  have further := leaves.concat ()
  rw [last] at further
  constructor
  · intro j free
    by_cases same : j = i
    · rw [left_pass, left_proceed, same, Function.update_self, last]
      exact .inr (.inr ⟨result, rfl⟩)
    · exact h.waiting_of_ne same fun held' => same (Option.some.inj (held'.symm.trans held))
  · intro j held'
    rw [holder_pass, Function.update_self] at held'
    cases held'
  · exact h.located_proceed split further.begins
  · intro j a ended
    by_cases same : j = i
    · rw [left_pass, left_proceed, same, Function.update_self, last] at ended
      cases ended
      refine ⟨own ++ [⟨.release .session, ()⟩], ?_, same ▸ further.yields⟩
      rw [trace_pass, trace_proceed, split, List.append_assoc]
      exact (List.suffix_append ..).isInfix
    · exact h.finished_of_ne same ended

theorem drop (h : Serial calls s) (i : ι) : Serial calls (s.drop i) := by
  constructor
  · intro j free
    by_cases same : j = i
    · exact .inr (.inl (by rw [left_drop, same, Function.update_self]))
    · refine h.waiting_of_ne same fun held => free ?_
      simp [holder_drop, held, same]
  · intro j held
    obtain ⟨held, other⟩ : s.holder .session = some j ∧ j ≠ i := by
      simpa [holder_drop, Option.filter_eq_some_iff] using held
    rw [left_drop, Function.update_of_ne other]
    exact h.holding j held
  · exact h.located
  · intro j a ended
    by_cases same : j = i
    · rw [left_drop, same, Function.update_self] at ended
      cases ended
    · rw [left_drop, Function.update_of_ne same] at ended
      exact h.finished j a ended

theorem step (sessioned : ∀ i, (calls i).Sessioned) (h : Serial calls s) (next : Step s s') :
    Serial calls s' := by
  cases next with
  | answer i q next answer asks plain =>
    have keeps : q.KeepsSession := ⟨(plain .session).1, (plain .session).2⟩
    exact h.proceed (h.holds sessioned asks keeps.1) asks keeps rfl rfl rfl
  | acquire i l next asks free =>
    cases l with
    | session => exact h.begin sessioned free asks
    | nonce =>
      have keeps : (Ask.acquire .nonce).KeepsSession := ⟨nofun, nofun⟩
      exact h.proceed (h.holds sessioned asks keeps.1) asks keeps rfl rfl rfl
  | release i l next asks held =>
    cases l with
    | session => exact h.finish held asks
    | nonce =>
      have keeps : (Ask.release .nonce).KeepsSession := ⟨nofun, nofun⟩
      exact h.proceed (h.holds sessioned asks keeps.1) asks keeps rfl rfl rfl
  | drop i => exact h.drop i

end Serial

/-- However the steps fall, calls that hold the session throughout come one after another. -/
theorem Reached.serial (sessioned : ∀ i, (calls i).Sessioned) (h : Reached calls s) :
    Serial calls s := by
  induction h with
  | refl => exact serial_start calls
  | tail _ next ih => exact ih.step sessioned next

/-! ## A call alone -/

/-- With these holders, the exchanges take no lock but a free one for the call, and give back none
but its own. -/
def Orderly (i : ι) : (Lock → Option ι) → List Exchange → Prop
  | _, [] => True
  | holder, x :: t =>
    match x.question with
    | .acquire l => holder l = none ∧ Orderly i (Function.update holder l (some i)) t
    | .release l => holder l = some i ∧ Orderly i (Function.update holder l none) t
    | _ => Orderly i holder t

/-- Who holds each lock after the call has made these exchanges. -/
def held (i : ι) (holder : Lock → Option ι) (t : List Exchange) : Lock → Option ι :=
  t.foldl (fun holder x =>
    match x.question with
    | .acquire l => Function.update holder l (some i)
    | .release l => Function.update holder l none
    | _ => holder) holder

/-- A call can go on while the others wait. -/
theorem Reached.onward (h : Reached calls s) {i : ι} {t : List Exchange} {p : Program α}
    (leaves : (s.left i).Leaves t p) (orderly : Orderly i s.holder t) :
    Reached calls ⟨Function.update s.left i p, held i s.holder t, s.trace ++ t⟩ := by
  generalize hp : s.left i = p' at leaves
  induction leaves generalizing s with
  | nil p =>
    rw [← hp, Function.update_eq_self, List.append_nil]
    exact h
  | @cons q next answer t p leaves ih =>
    have go {s' : Calls ι α} (step : Step s s')
        (left : s'.left = Function.update s.left i (next answer))
        (holder : held i s'.holder t = held i s.holder (⟨q, answer⟩ :: t))
        (trace : s'.trace = s.trace ++ [⟨q, answer⟩]) (orderly : Orderly i s'.holder t) :
        Reached calls ⟨Function.update s.left i p, held i s.holder (⟨q, answer⟩ :: t),
          s.trace ++ ⟨q, answer⟩ :: t⟩ := by
      have further := ih (h.tail step) orderly (by rw [left, Function.update_self])
      rw [left, Function.update_idem, holder, trace, List.append_assoc] at further
      exact further
    cases q with
    | acquire l =>
      obtain ⟨free, orderly⟩ := orderly
      exact go (.acquire i l next hp free) rfl rfl rfl orderly
    | release l =>
      obtain ⟨own, orderly⟩ := orderly
      exact go (.release i l next hp own) rfl rfl rfl orderly
    | _ => exact go (.answer i _ next answer hp fun l => ⟨nofun, nofun⟩) rfl rfl rfl orderly

/-- A call can go on to its end while the others wait. -/
theorem Reached.alone (h : Reached calls s) {i : ι} {t : List Exchange} {a : α}
    (yields : (s.left i).Yields t a) (orderly : Orderly i s.holder t) :
    ∃ s', Reached calls s' ∧ s'.left i = done a ∧ s'.trace = s.trace ++ t :=
  ⟨_, h.onward yields.leaves orderly, Function.update_self .., rfl⟩

end Calls

end Registrar
