import Registrar.Lifecycle
import Mathlib.Data.List.Induction

/-! Calls on the lifecycle of a transaction, in any order and accepted or not. A rejected call leaves
label and phase as they were, but a signature's hash is taken down before its move is looked at: the
hash on record is the one that was last signed with, even by a call that was rejected. -/
namespace Registrar
set_option autoImplicit false

/-! ## Moves between phases -/

namespace Phase

theorem allows_built (phase : Phase) : phase.allows .built = false := by
  cases phase <;> decide

theorem allows_signed_iff {phase : Phase} : phase.allows .signed = true ↔ phase = .built := by
  cases phase <;> decide

end Phase

namespace Lifecycle

/-! ## Calls -/

inductive Call where
  | sign (hash : Word)
  | advance (target : Phase)
  | fail
deriving DecidableEq

namespace Call

/-- The phase that the call asks for. -/
def target : Call → Phase
  | sign _ => .signed
  | advance target => target
  | fail => .failed

/-- The hash that comes with the call. -/
def hash? : Call → Option Word
  | sign hash => some hash
  | advance _ | fail => none

end Call

def lastHash? (calls : List Call) : Option Word :=
  (calls.filterMap Call.hash?).getLast?

variable {t : Lifecycle} {c : Call} {calls : List Call}

def call (t : Lifecycle) : Call → Lifecycle × Except Error Unit
  | .sign hash => t.sign hash
  | .advance target => t.advance target
  | .fail => (t.fail, .ok ())

/-- The lifecycle behind calls, whatever each of them answered. -/
def behind (t : Lifecycle) (calls : List Call) : Lifecycle :=
  calls.foldl (fun t c => (t.call c).1) t

theorem behind_concat (t : Lifecycle) (calls : List Call) (c : Call) :
    t.behind (calls ++ [c]) = ((t.behind calls).call c).1 := by
  simp [behind]

/-! ## One call -/

/-- A call moves to the phase that it asks for, or stays where it is. In both cases a hash that comes
with it is taken down; all that stay are rejected, but for a failure. -/
theorem call_cases (t : Lifecycle) (c : Call) :
    (t.phase.allows c.target = true ∧
        t.call c = (⟨t.label, c.target, c.hash?.or t.txHash⟩, .ok ())) ∨
      (t.phase.allows c.target = false ∧
        t.call c = (⟨t.label, t.phase, c.hash?.or t.txHash⟩,
          if c = .fail then .ok () else .error (.invalidTransition t.phase.label c.target.label))) := by
  obtain ⟨label, phase, txHash⟩ := t
  cases c with
  | sign hash =>
    by_cases allowed : phase.allows .signed = true
    · simp [call, sign, advance, Call.target, Call.hash?, allowed]
    · simp [call, sign, advance, Call.target, Call.hash?, allowed]
  | advance target =>
    by_cases allowed : phase.allows target = true
    · simp [call, advance, Call.target, Call.hash?, allowed]
    · simp [call, advance, Call.target, Call.hash?, allowed]
  | fail =>
    cases phase <;> simp [call, fail, Call.target, Call.hash?, Phase.allows, Phase.moves,
      Phase.isTerminal]

theorem label_call (t : Lifecycle) (c : Call) : (t.call c).1.label = t.label := by
  obtain ⟨-, done⟩ | ⟨-, done⟩ := t.call_cases c <;> rw [done]

theorem txHash_call (t : Lifecycle) (c : Call) :
    (t.call c).1.txHash = c.hash?.or t.txHash := by
  obtain ⟨-, done⟩ | ⟨-, done⟩ := t.call_cases c <;> rw [done]

theorem call_of_error {e : Error} (rejected : (t.call c).2 = .error e) :
    (t.call c).1 = { t with txHash := c.hash?.or t.txHash } := by
  obtain ⟨-, done⟩ | ⟨-, done⟩ := t.call_cases c
  · rw [done] at rejected
    cases rejected
  · rw [done]

/-- No call leads back to the first phase. -/
theorem phase_call_ne_built (begun : t.phase ≠ .built) (c : Call) :
    (t.call c).1.phase ≠ .built := by
  obtain ⟨allowed, done⟩ | ⟨-, done⟩ := t.call_cases c
  · rw [done]
    intro back
    rw [show c.target = .built from back, Phase.allows_built] at allowed
    cases allowed
  · rw [done]
    exact begun

/-- Whatever has left the first phase cannot be signed again. -/
theorem sign_of_begun (begun : t.phase ≠ .built) (hash : Word) :
    (t.call (.sign hash)).2 = .error (.invalidTransition t.phase.label "signed") := by
  obtain ⟨allowed, -⟩ | ⟨-, done⟩ := t.call_cases (.sign hash)
  · exact absurd (Phase.allows_signed_iff.1 allowed) begun
  · rw [done]
    rfl

/-! ## Runs of calls -/

theorem label_behind (t : Lifecycle) (calls : List Call) : (t.behind calls).label = t.label := by
  induction calls using List.reverseRecOn with
  | nil => rfl
  | append_singleton calls c ih => rw [behind_concat, label_call, ih]

theorem phase_behind_ne_built (begun : t.phase ≠ .built) (calls : List Call) :
    (t.behind calls).phase ≠ .built := by
  induction calls using List.reverseRecOn with
  | nil => exact begun
  | append_singleton calls c ih =>
    rw [behind_concat]
    exact phase_call_ne_built ih c

theorem lastHash?_concat (calls : List Call) (c : Call) :
    lastHash? (calls ++ [c]) = c.hash?.or (lastHash? calls) := by
  rw [lastHash?, List.filterMap_append]
  cases hash : c.hash? with
  | none => simp [hash, lastHash?]
  | some hash' => simp [hash]

theorem lastHash?_eq_none_iff : lastHash? calls = none ↔ ∀ c ∈ calls, c.hash? = none := by
  rw [lastHash?, List.getLast?_eq_none_iff, List.filterMap_eq_nil_iff]

theorem txHash_behind (t : Lifecycle) (calls : List Call) :
    (t.behind calls).txHash = (lastHash? calls).or t.txHash := by
  induction calls using List.reverseRecOn with
  | nil => rfl
  | append_singleton calls c ih =>
    rw [behind_concat, txHash_call, ih, lastHash?_concat, Option.or_assoc]

/-- A rejected call leaves label and phase, and the hash too unless it comes with one of its own. Behind
the first phase every signature is rejected; there is a hash on record exactly when one was ever signed
with, and it stays on record exactly as long as the last signature behind it carries the same one. -/
theorem behind_hash (label : String) {calls : List Call} {t : Lifecycle}
    (reached : (start label).behind calls = t) :
    t.label = label ∧
      (∀ c e, (t.call c).2 = .error e → (t.call c).1 = { t with txHash := c.hash?.or t.txHash }) ∧
      (t.txHash = none ↔ ∀ c ∈ calls, c.hash? = none) ∧
      (t.phase ≠ .built → ∀ later,
        (∀ hash, ((t.behind later).call (.sign hash)).2 =
          .error (.invalidTransition (t.behind later).phase.label "signed")) ∧
        ((t.behind later).txHash = t.txHash ↔
          ∀ hash, lastHash? later = some hash → t.txHash = some hash)) := by
  subst reached
  refine ⟨label_behind .., fun c e rejected => call_of_error rejected, ?present, ?kept⟩
  case present =>
    rw [txHash_behind, ← lastHash?_eq_none_iff, start, Option.or_none]
  case kept =>
    intro begun later
    refine ⟨fun hash => sign_of_begun (phase_behind_ne_built begun later) hash, ?_⟩
    rw [txHash_behind _ later]
    cases last : lastHash? later with
    | none => simp
    | some hash => simp [eq_comm]

theorem behind_hash_signed_twice :
    let calls : List Call := [.sign (.replicate 32 1), .sign (.replicate 32 2), .advance .submitted]
    let t : Lifecycle := ⟨"registry", .submitted, some (.replicate 32 2)⟩
    (start "registry").behind calls = t ∧
      (t.call .fail).1.txHash = t.txHash ∧
      (t.behind [.sign (.replicate 32 3)]).txHash ≠ t.txHash := by
  intro calls t
  have reached : (start "registry").behind calls = t := by decide
  obtain ⟨-, -, -, begun⟩ := behind_hash "registry" reached
  refine ⟨reached, by decide, ?_⟩
  intro same
  have kept := ((begun (by decide) [.sign (.replicate 32 3)]).2.mp same) (.replicate 32 3) (by decide)
  exact absurd kept (by decide)

/-- A second signature is rejected, and its hash stands in place of the first. -/
theorem sign_twice_keeps_rejected_hash :
    ∃ t : Lifecycle, (start "registry").behind [.sign (.replicate 32 1)] = t ∧
      t.phase = .signed ∧ t.txHash = some (.replicate 32 1) ∧
      t.call (.sign (.replicate 32 2)) =
        ({ t with txHash := some (.replicate 32 2) },
          .error (.invalidTransition "signed" "signed")) := by
  refine ⟨⟨"registry", .signed, some (.replicate 32 1)⟩, ?_, rfl, rfl, ?_⟩
  · decide
  · rfl

/-- A plain move into the second phase leaves it without a hash. -/
example : (start "registry").call (.advance .signed) = (⟨"registry", .signed, none⟩, .ok ()) := rfl

end Lifecycle

end Registrar
