import Registrar.Program

/-! Transcripts: the questions that a program asked, each with the answer that it got. A program has
one transcript for each way in which it can be answered, so what holds of all its transcripts holds
in all surroundings. -/
namespace Registrar
set_option autoImplicit false

/-- A question and the answer to it. -/
structure Exchange where
  question : Ask
  answer : question.Answer

namespace Program

variable {α β σ : Type}

/-! ## Runs and beginnings of runs -/

/-- `p.Yields t a`: with the exchanges `t` the program comes to its end and gives `a`. -/
def Yields : Program α → List Exchange → α → Prop
  | done b, t, a => t = [] ∧ a = b
  | ask q next, t, a => ∃ answer rest, t = ⟨q, answer⟩ :: rest ∧ (next answer).Yields rest a
  | stuck, _, _ => False

/-- `p.Begins t`: the exchanges `t` are the first ones of some run, which may end with them. -/
def Begins : Program α → List Exchange → Prop
  | ask q next, t => t = [] ∨ ∃ answer rest, t = ⟨q, answer⟩ :: rest ∧ (next answer).Begins rest
  | done _, t | stuck, t => t = []

@[simp] theorem yields_stuck {t : List Exchange} {a : α} : ¬(stuck : Program α).Yields t a := id

@[simp] theorem yields_request {q : Ask} {t : List Exchange} {a : q.Answer} :
    (request q).Yields t a ↔ t = [⟨q, a⟩] := by
  constructor
  · rintro ⟨answer, rest, rfl, rfl, rfl⟩
    rfl
  · rintro rfl
    exact ⟨a, [], rfl, rfl, rfl⟩

@[simp] theorem yields_observe {e : Event} {t : List Exchange} {u : Unit} :
    (observe e).Yields t u ↔ t = [⟨.observe e, ()⟩] :=
  yields_request

theorem yields_bind {p : Program α} {f : α → Program β} {t : List Exchange} {b : β} :
    (p.bind f).Yields t b ↔ ∃ u v a, t = u ++ v ∧ p.Yields u a ∧ (f a).Yields v b := by
  induction p generalizing t with
  | done a =>
    constructor
    · intro h
      exact ⟨[], t, a, rfl, ⟨rfl, rfl⟩, h⟩
    · rintro ⟨u, v, a, rfl, ⟨rfl, rfl⟩, h⟩
      exact h
  | ask q next ih =>
    constructor
    · rintro ⟨answer, rest, rfl, h⟩
      obtain ⟨u, v, a, rfl, hu, hv⟩ := (ih answer).1 h
      exact ⟨⟨q, answer⟩ :: u, v, a, rfl, ⟨answer, u, rfl, hu⟩, hv⟩
    · rintro ⟨u, v, a, rfl, ⟨answer, rest, rfl, hu⟩, hv⟩
      exact ⟨answer, rest ++ v, rfl, (ih answer).2 ⟨rest, v, a, rfl, hu, hv⟩⟩
  | stuck => simp [bind]

@[simp] theorem yields_monad_bind {p : Program α} {f : α → Program β} {t : List Exchange} {b : β} :
    (p >>= f).Yields t b ↔ ∃ u v a, t = u ++ v ∧ p.Yields u a ∧ (f a).Yields v b :=
  yields_bind

theorem yields_request_bind {q : Ask} {f : q.Answer → Program β} {t : List Exchange} {b : β} :
    (request q >>= f).Yields t b ↔
      ∃ answer rest, t = ⟨q, answer⟩ :: rest ∧ (f answer).Yields rest b := Iff.rfl

@[simp] theorem begins_done {b : α} {t : List Exchange} : (done b).Begins t ↔ t = [] := Iff.rfl

theorem begins_nil (p : Program α) : p.Begins [] := by
  cases p with
  | done a => rfl
  | ask q next => exact .inl rfl
  | stuck => rfl

/-- A run of a sequence either stands in its first part or has left it. -/
theorem begins_bind {p : Program α} {f : α → Program β} {t : List Exchange} :
    (p.bind f).Begins t ↔
      p.Begins t ∨ ∃ u v a, t = u ++ v ∧ p.Yields u a ∧ (f a).Begins v := by
  induction p generalizing t with
  | done a =>
    constructor
    · intro h
      exact .inr ⟨[], t, a, rfl, ⟨rfl, rfl⟩, h⟩
    · rintro (rfl | ⟨u, v, a, rfl, ⟨rfl, rfl⟩, h⟩)
      · exact begins_nil _
      · exact h
  | ask q next ih =>
    constructor
    · rintro (rfl | ⟨answer, rest, rfl, h⟩)
      · exact .inl (begins_nil _)
      · obtain h | ⟨u, v, a, rfl, hu, hv⟩ := (ih answer).1 h
        · exact .inl (.inr ⟨answer, rest, rfl, h⟩)
        · exact .inr ⟨⟨q, answer⟩ :: u, v, a, rfl, ⟨answer, u, rfl, hu⟩, hv⟩
    · rintro ((rfl | ⟨answer, rest, rfl, h⟩) | ⟨u, v, a, rfl, ⟨answer, rest, rfl, hu⟩, hv⟩)
      · exact .inl rfl
      · exact .inr ⟨answer, rest, rfl, (ih answer).2 (.inl h)⟩
      · exact .inr ⟨answer, rest ++ v, rfl, (ih answer).2 (.inr ⟨rest, v, a, rfl, hu, hv⟩)⟩
  | stuck => simp [bind, Begins]

theorem begins_monad_bind {p : Program α} {f : α → Program β} {t : List Exchange} :
    (p >>= f).Begins t ↔
      p.Begins t ∨ ∃ u v a, t = u ++ v ∧ p.Yields u a ∧ (f a).Begins v :=
  begins_bind

theorem begins_request_bind {q : Ask} {f : q.Answer → Program β} {t : List Exchange} :
    (request q >>= f).Begins t ↔
      t = [] ∨ ∃ answer rest, t = ⟨q, answer⟩ :: rest ∧ (f answer).Begins rest := Iff.rfl

theorem begins_request_concat {q : Ask} {t : List Exchange} {x : Exchange}
    (h : (request q).Begins (t ++ [x])) : x.question = q := by
  obtain none | ⟨answer, rest, same, rfl⟩ := h
  · simp at none
  · have one : t ++ [x] = [] ++ [⟨q, answer⟩] := same
    obtain ⟨-, last⟩ := List.append_inj' one rfl
    rw [List.singleton_inj.1 last]

theorem Yields.begins {p : Program α} {t : List Exchange} {a : α} (h : p.Yields t a) :
    p.Begins t := by
  induction p generalizing t with
  | done b => exact h.1
  | ask q next ih =>
    obtain ⟨answer, rest, rfl, hr⟩ := h
    exact .inr ⟨answer, rest, rfl, ih answer hr⟩
  | stuck => exact h.elim

theorem Begins.of_append {p : Program α} {u v : List Exchange} (h : p.Begins (u ++ v)) :
    p.Begins u := by
  induction p generalizing u with
  | done a => exact (List.append_eq_nil_iff.1 h).1
  | ask q next ih =>
    cases u with
    | nil => exact .inl rfl
    | cons x u =>
      obtain none | ⟨answer, rest, same, hr⟩ := h
      · cases none
      · obtain ⟨rfl, rfl⟩ := List.cons.inj same
        exact .inr ⟨answer, u, rfl, ih answer hr⟩
  | stuck => exact (List.append_eq_nil_iff.1 h).1

/-- The last exchange of a sequence belongs to the first part, or to the part behind it. -/
theorem begins_bind_concat {p : Program α} {f : α → Program β} {t : List Exchange} {x : Exchange}
    (h : (p >>= f).Begins (t ++ [x])) :
    p.Begins (t ++ [x]) ∨
      ∃ u v a, t = u ++ v ∧ p.Yields u a ∧ (f a).Begins (v ++ [x]) := by
  obtain h | ⟨u, v, a, ht, hu, hv⟩ := begins_monad_bind.1 h
  · exact .inl h
  obtain rfl | ⟨v, y, rfl⟩ := List.eq_nil_or_concat v
  · rw [List.append_nil] at ht
    rw [ht]
    exact .inl hu.begins
  · rw [List.concat_eq_append] at ht hv
    rw [← List.append_assoc] at ht
    obtain ⟨rfl, same⟩ := List.append_inj' ht rfl
    obtain rfl := List.singleton_inj.1 same
    exact .inr ⟨u, v, a, rfl, hu, hv⟩

/-! ## What can be asked shows in every transcript -/

variable {P : Ask → Prop}

theorem Asks.question_of_begins {p : Program α} (hp : p.Asks P) {t : List Exchange}
    (ht : p.Begins t) : ∀ x ∈ t, P x.question := by
  induction p generalizing t with
  | done a => simp [begins_done.1 ht]
  | ask q next ih =>
    obtain rfl | ⟨answer, rest, rfl, hr⟩ := ht
    · simp
    · intro x hx
      obtain rfl | hx := List.mem_cons.1 hx
      · exact hp.1
      · exact ih answer (hp.2 answer) hr x hx
  | stuck =>
    obtain rfl : t = [] := ht
    simp

theorem Asks.question_of_yields {p : Program α} (hp : p.Asks P) {t : List Exchange} {a : α}
    (ht : p.Yields t a) : ∀ x ∈ t, P x.question :=
  hp.question_of_begins ht.begins

/-- As `Asks.bind`, where the second part matters only for results that the first part gives. -/
theorem Asks.bind_of_yields {p : Program α} {f : α → Program β} (hp : p.Asks P)
    (hf : ∀ t a, p.Yields t a → (f a).Asks P) : (p.bind f).Asks P := by
  induction p with
  | done a => exact hf [] a ⟨rfl, rfl⟩
  | ask q next ih =>
    exact ⟨hp.1, fun answer => ih answer (hp.2 answer) fun t a h =>
      hf (⟨q, answer⟩ :: t) a ⟨answer, t, rfl, h⟩⟩
  | stuck => trivial

/-! ## Transcripts of runs -/

/-- What a program asks in the given surroundings, and what it is answered. -/
def transcript (h : Surroundings σ) : Program α → σ → List Exchange
  | ask q next, s => ⟨q, (h q s).1⟩ :: (next (h q s).1).transcript h (h q s).2
  | done _, _ | stuck, _ => []

theorem yields_transcript (h : Surroundings σ) (p : Program α) (s : σ) {a : α}
    (hr : (p.run h s).1 = some a) : p.Yields (p.transcript h s) a := by
  induction p generalizing s with
  | done b => exact ⟨rfl, (Option.some.inj hr).symm⟩
  | ask q next ih => exact ⟨_, _, rfl, ih _ _ hr⟩
  | stuck => cases hr

/-- At whatever question a run is cut short, what it has asked by then begins a run. -/
theorem begins_of_prefix_transcript (h : Surroundings σ) (p : Program α) (s : σ)
    {t : List Exchange} (ht : t <+: p.transcript h s) : p.Begins t := by
  induction p generalizing s t with
  | done b => exact List.prefix_nil.1 ht
  | ask q next ih =>
    cases t with
    | nil => exact .inl rfl
    | cons x rest =>
      obtain ⟨rfl, hrest⟩ := List.cons_prefix_cons.1 ht
      exact .inr ⟨_, rest, rfl, ih _ _ hrest⟩
  | stuck => exact List.prefix_nil.1 ht

/-- The surroundings after the exchanges, which the given state began. -/
def after (h : Surroundings σ) (t : List Exchange) (s : σ) : σ :=
  t.foldl (fun s x => (h x.question s).2) s

theorem after_append (h : Surroundings σ) (t u : List Exchange) (s : σ) :
    after h (t ++ u) s = after h u (after h t s) :=
  List.foldl_append

theorem run_state (h : Surroundings σ) (p : Program α) (s : σ) :
    (p.run h s).2 = after h (p.transcript h s) s := by
  induction p generalizing s with
  | done a => rfl
  | ask q next ih => exact ih _ _
  | stuck => rfl

/-- Each answer in a transcript is the one that the surroundings gave in the state reached by
then. -/
theorem transcript_answer (h : Surroundings σ) (p : Program α) (s : σ) {t u : List Exchange}
    {x : Exchange} (ht : p.transcript h s = t ++ x :: u) :
    x.answer = (h x.question (after h t s)).1 := by
  induction p generalizing s t with
  | done a => simp [transcript] at ht
  | ask q next ih =>
    cases t with
    | nil =>
      obtain ⟨rfl, -⟩ := List.cons.inj ht
      rfl
    | cons y t =>
      obtain ⟨rfl, hrest⟩ := List.cons.inj ht
      exact ih (h q s).1 (h q s).2 hrest
  | stuck => simp [transcript] at ht

/-- Surroundings that answer alike all that a program can ask lead it through one and the same
run. -/
theorem Asks.run_alike {τ : Type} {h : Surroundings σ} {h' : Surroundings τ} {R : σ → τ → Prop}
    (alike : ∀ q s s', P q → R s s' → (h q s).1 = (h' q s').1 ∧ R (h q s).2 (h' q s').2)
    {p : Program α} (asks : p.Asks P) {s : σ} {s' : τ} (related : R s s') :
    (p.run h s).1 = (p.run h' s').1 ∧ R (p.run h s).2 (p.run h' s').2 ∧
      p.transcript h s = p.transcript h' s' := by
  induction p generalizing s s' with
  | done a => exact ⟨rfl, related, rfl⟩
  | stuck => exact ⟨rfl, related, rfl⟩
  | ask q next ih =>
    obtain ⟨same, further⟩ := alike q s s' asks.1 related
    obtain ⟨result, last, rest⟩ := ih (h q s).1 (asks.2 _) further
    simp only [run, transcript]
    rw [← same]
    exact ⟨result, last, by rw [rest]⟩

/-! ## Surroundings that remember -/

/-- Surroundings that answer by what has been asked so far. -/
def recording (f : List Exchange → (q : Ask) → q.Answer) : Surroundings (List Exchange) :=
  fun q t => (f t q, t ++ [⟨q, f t q⟩])

/-- Each answer is the one that `f` gives after all the exchanges before it. -/
def AnsweredBy (f : List Exchange → (q : Ask) → q.Answer) (t : List Exchange) : Prop :=
  ∀ u x v, t = u ++ x :: v → x.answer = f u x.question

variable {f : List Exchange → (q : Ask) → q.Answer}

theorem answeredBy_nil : AnsweredBy f [] := by
  intro u x v h
  simp at h

theorem AnsweredBy.concat {t : List Exchange} (h : AnsweredBy f t) (q : Ask) :
    AnsweredBy f (t ++ [⟨q, f t q⟩]) := by
  intro u x v ht
  obtain rfl | ⟨v, y, rfl⟩ := List.eq_nil_or_concat v
  · obtain ⟨rfl, same⟩ := List.append_inj' ht rfl
    obtain rfl := List.singleton_inj.1 same
    rfl
  · rw [List.concat_eq_append, ← List.cons_append, ← List.append_assoc] at ht
    exact h u x v (List.append_inj' ht rfl).1

theorem run_recording (p : Program α) (t : List Exchange) :
    (p.run (recording f) t).2 = t ++ p.transcript (recording f) t := by
  induction p generalizing t with
  | done a => exact (List.append_nil t).symm
  | ask q next ih => exact (ih _ _).trans (List.append_assoc ..)
  | stuck => exact (List.append_nil t).symm

theorem AnsweredBy.run {t : List Exchange} (h : AnsweredBy f t) (p : Program α) :
    AnsweredBy f (p.run (recording f) t).2 := by
  induction p generalizing t with
  | done a => exact h
  | ask q next ih => exact ih _ (h.concat q)
  | stuck => exact h

/-- As `AnsweredBy`, of the exchanges behind those in `t`. -/
def AnsweredFrom (f : List Exchange → (q : Ask) → q.Answer) (t : List Exchange) :
    List Exchange → Prop
  | [] => True
  | x :: u => x.answer = f t x.question ∧ AnsweredFrom f (t ++ [x]) u

theorem AnsweredFrom.answeredBy {t u : List Exchange} (h : AnsweredFrom f t u)
    (before : AnsweredBy f t) : AnsweredBy f (t ++ u) := by
  induction u generalizing t with
  | nil => rwa [List.append_nil]
  | cons x u ih =>
    obtain ⟨q, answer⟩ := x
    obtain ⟨same, h⟩ := h
    obtain rfl : answer = f t q := same
    have split : t ++ ⟨q, f t q⟩ :: u = t ++ [⟨q, f t q⟩] ++ u := by simp
    rw [split]
    exact ih h (before.concat q)

/-- A course of the program in which each answer is the one that `f` gives is its run. -/
theorem run_of_yields {p : Program α} {t u : List Exchange} {a : α} (h : p.Yields u a)
    (answered : AnsweredBy f (t ++ u)) : p.run (recording f) t = (some a, t ++ u) := by
  induction p generalizing t u with
  | done b =>
    obtain ⟨rfl, rfl⟩ := h
    rw [List.append_nil]
    rfl
  | ask q next ih =>
    obtain ⟨answer, rest, rfl, h⟩ := h
    obtain rfl : answer = f t q := answered t ⟨q, answer⟩ rest rfl
    have split : t ++ ⟨q, f t q⟩ :: rest = t ++ [⟨q, f t q⟩] ++ rest := by simp
    rw [split] at answered ⊢
    exact ih (f t q) h answered
  | stuck => exact h.elim

/-! ## Runs without a result -/

/-- `p.Stalls t`: with the exchanges `t` the program comes to an instant beyond the clock. -/
def Stalls : Program α → List Exchange → Prop
  | done _, _ => False
  | ask q next, t => ∃ answer rest, t = ⟨q, answer⟩ :: rest ∧ (next answer).Stalls rest
  | stuck, t => t = []

/-- A sequence stalls in its first part or behind it. -/
theorem stalls_bind {p : Program α} {f : α → Program β} {t : List Exchange} :
    (p.bind f).Stalls t ↔
      p.Stalls t ∨ ∃ u v a, t = u ++ v ∧ p.Yields u a ∧ (f a).Stalls v := by
  induction p generalizing t with
  | done a =>
    constructor
    · intro h
      exact .inr ⟨[], t, a, rfl, ⟨rfl, rfl⟩, h⟩
    · rintro (h | ⟨u, v, a, rfl, ⟨rfl, rfl⟩, h⟩)
      · exact h.elim
      · exact h
  | ask q next ih =>
    constructor
    · rintro ⟨answer, rest, rfl, h⟩
      obtain h | ⟨u, v, a, rfl, hu, hv⟩ := (ih answer).1 h
      · exact .inl ⟨answer, rest, rfl, h⟩
      · exact .inr ⟨⟨q, answer⟩ :: u, v, a, rfl, ⟨answer, u, rfl, hu⟩, hv⟩
    · rintro (⟨answer, rest, rfl, h⟩ | ⟨u, v, a, rfl, ⟨answer, rest, rfl, hu⟩, hv⟩)
      · exact ⟨answer, rest, rfl, (ih answer).2 (.inl h)⟩
      · exact ⟨answer, rest ++ v, rfl, (ih answer).2 (.inr ⟨rest, v, a, rfl, hu, hv⟩)⟩
  | stuck => simp [bind, Stalls]

theorem stalls_monad_bind {p : Program α} {f : α → Program β} {t : List Exchange} :
    (p >>= f).Stalls t ↔
      p.Stalls t ∨ ∃ u v a, t = u ++ v ∧ p.Yields u a ∧ (f a).Stalls v :=
  stalls_bind

theorem stalls_request_bind {q : Ask} {f : q.Answer → Program β} {t : List Exchange} :
    (request q >>= f).Stalls t ↔
      ∃ answer rest, t = ⟨q, answer⟩ :: rest ∧ (f answer).Stalls rest := Iff.rfl

theorem Stalls.begins {p : Program α} {t : List Exchange} (h : p.Stalls t) : p.Begins t := by
  induction p generalizing t with
  | done a => exact h.elim
  | ask q next ih =>
    obtain ⟨answer, rest, rfl, hr⟩ := h
    exact .inr ⟨answer, rest, rfl, ih answer hr⟩
  | stuck => exact h

@[simp] theorem not_stalls_pure {a : α} {t : List Exchange} :
    ¬(pure a : Program α).Stalls t := id

theorem stalls_transcript (h : Surroundings σ) (p : Program α) (s : σ)
    (hr : (p.run h s).1 = none) : p.Stalls (p.transcript h s) := by
  induction p generalizing s with
  | done a => cases hr
  | ask q next ih => exact ⟨_, _, rfl, ih _ _ hr⟩
  | stuck => rfl

/-- A sequence stalls behind its first part if that cannot stall. -/
theorem Stalls.of_bind {p : Program α} {f : α → Program β} {t : List Exchange}
    (h : (p >>= f).Stalls t) (hp : ∀ t, ¬p.Stalls t) :
    ∃ u v a, t = u ++ v ∧ p.Yields u a ∧ (f a).Stalls v :=
  (stalls_monad_bind.1 h).resolve_left (hp t)

theorem not_stalls_monad_bind {p : Program α} {f : α → Program β} (hp : ∀ t, ¬p.Stalls t)
    (hf : ∀ a t, ¬(f a).Stalls t) : ∀ t, ¬(p >>= f).Stalls t := by
  intro t h
  obtain ⟨u, v, a, -, -, h⟩ := h.of_bind hp
  exact hf a v h

theorem not_stalls_request (q : Ask) : ∀ t, ¬(request q).Stalls t := by
  rintro t ⟨answer, rest, rfl, h⟩
  exact h

/-- A program that cannot stall gives a result in all surroundings. -/
theorem exists_run_of_not_stalls {p : Program α} (hp : ∀ t, ¬p.Stalls t) (h : Surroundings σ)
    (s : σ) : ∃ a s', p.run h s = (some a, s') := by
  cases hr : (p.run h s).1 with
  | none => exact absurd (stalls_transcript h p s hr) (hp _)
  | some a => exact ⟨a, _, Prod.ext hr rfl⟩

end Program

end Registrar
