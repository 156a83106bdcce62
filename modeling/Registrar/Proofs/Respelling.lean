import Registrar.Proofs.JsonText
import Registrar.Proofs.Numerals

/-! The spellings of a value. The members of an object may come in any order, and a number that is
written in quotes may come without them; a record is read from every spelling alike. -/
namespace Registrar.Json
set_option autoImplicit false

/-! ## Spellings -/

/-- The members whose numbers may come with or without quotes. -/
def quotedNames : List String :=
  ["gas_limit", "timestamp"]

mutual

/-- The second value says what the first one does. -/
inductive Respelled : Json → Json → Prop
  | same (v : Json) : Respelled v v
  | array {items items' : List Json} (each : RespelledItems items items') :
    Respelled (.array items) (.array items')
  | object {members spelled ordered : List (String × Json)}
      (each : RespelledMembers members spelled) (order : spelled.Perm ordered) :
    Respelled (.object members) (.object ordered)

inductive RespelledItems : List Json → List Json → Prop
  | nil : RespelledItems [] []
  | cons {v w : Json} {vs ws : List Json} (first : Respelled v w) (rest : RespelledItems vs ws) :
    RespelledItems (v :: vs) (w :: ws)

/-- What a member of the given name may come as. -/
inductive RespelledMember : String → Json → Json → Prop
  | value {name : String} {v w : Json} (h : Respelled v w) : RespelledMember name v w
  | bare {name : String} (quoted : name ∈ quotedNames) (n : UInt64) :
    RespelledMember name (Wire.ofQuotedWord64 n) (Wire.ofWord64 n)

inductive RespelledMembers : List (String × Json) → List (String × Json) → Prop
  | nil : RespelledMembers [] []
  | cons {name : String} {v w : Json} {vs ws : List (String × Json)}
      (first : RespelledMember name v w) (rest : RespelledMembers vs ws) :
    RespelledMembers ((name, v) :: vs) ((name, w) :: ws)

end

theorem RespelledItems.exists_of_mem {vs ws : List Json} (h : RespelledItems vs ws) {w : Json}
    (hw : w ∈ ws) : ∃ v ∈ vs, Respelled v w := by
  induction vs generalizing ws with
  | nil =>
    cases h
    cases hw
  | cons v vs ih =>
    obtain _ | ⟨first, rest⟩ := h
    obtain _ | ⟨_, hw⟩ := hw
    · exact ⟨v, List.mem_cons_self, first⟩
    · obtain ⟨v', hv', spelled⟩ := ih rest hw
      exact ⟨v', List.mem_cons_of_mem _ hv', spelled⟩

namespace RespelledMembers

variable {vs ws : List (String × Json)} {name : String} {v w : Json}

theorem names (h : RespelledMembers vs ws) : ws.map (·.1) = vs.map (·.1) := by
  induction vs generalizing ws with
  | nil =>
    cases h
    rfl
  | cons p vs ih =>
    obtain _ | ⟨first, rest⟩ := h
    exact congrArg (_ :: ·) (ih rest)

theorem exists_of_mem (h : RespelledMembers vs ws) (hw : (name, w) ∈ ws) :
    ∃ v, (name, v) ∈ vs ∧ RespelledMember name v w := by
  induction vs generalizing ws with
  | nil =>
    cases h
    cases hw
  | cons p vs ih =>
    obtain _ | ⟨first, rest⟩ := h
    obtain _ | ⟨_, hw⟩ := hw
    · exact ⟨_, List.mem_cons_self, first⟩
    · obtain ⟨v, hv, spelled⟩ := ih rest hw
      exact ⟨v, List.mem_cons_of_mem _ hv, spelled⟩

theorem exists_spelling (h : RespelledMembers vs ws) (hv : (name, v) ∈ vs) :
    ∃ w, (name, w) ∈ ws ∧ RespelledMember name v w := by
  induction vs generalizing ws with
  | nil => cases hv
  | cons p vs ih =>
    obtain _ | ⟨first, rest⟩ := h
    obtain _ | ⟨_, hv⟩ := hv
    · exact ⟨_, List.mem_cons_self, first⟩
    · obtain ⟨w, hw, spelled⟩ := ih rest hv
      exact ⟨w, List.mem_cons_of_mem _ hw, spelled⟩

end RespelledMembers

/-! ## Spellings are printed and kept like the value itself -/

theorem retainableItems_iff {items : List Json} :
    retainableItems items = true ↔ ∀ v ∈ items, v.retainable = true := by
  induction items with
  | nil => simp [retainableItems]
  | cons v items ih => simp [retainableItems, ih]

theorem retainableMembers_iff {members : List (String × Json)} :
    retainableMembers members = true ↔ ∀ m ∈ members, m.2.retainable = true := by
  induction members with
  | nil => simp [retainableMembers]
  | cons m members ih => simp [retainableMembers, ih]

theorem retainable_ofWord64 (n : UInt64) : (Wire.ofWord64 n).retainable = true := by
  rw [Wire.ofWord64, ofNat, retainable, overflows_toString (Text.le_maxWord64 n)]
  rfl

theorem Printable.respelled {room : Nat} {v w : Json} (h : Printable room v)
    (spelled : Respelled v w) :
    Printable room w ∧ (v.retainable = true → w.retainable = true) := by
  -- On the tree of the value: what a spelling puts in another place or without quotes is a value
  -- of the tree or a word.
  induction h generalizing w with
  | null =>
    cases spelled
    exact ⟨.null, id⟩
  | bool b =>
    cases spelled
    exact ⟨.bool b, id⟩
  | number digits h =>
    cases spelled
    exact ⟨.number digits h, id⟩
  | string s =>
    cases spelled
    exact ⟨.string s, id⟩
  | array items each ih =>
    cases spelled with
    | same => exact ⟨.array items each, id⟩
    | array spelled =>
      constructor
      · refine .array _ fun w hw => ?_
        obtain ⟨v, hv, h⟩ := spelled.exists_of_mem hw
        exact (ih v hv h).1
      · intro kept
        refine retainableItems_iff.2 fun w hw => ?_
        obtain ⟨v, hv, h⟩ := spelled.exists_of_mem hw
        exact (ih v hv h).2 (retainableItems_iff.1 kept v hv)
  | object members each ih =>
    cases spelled with
    | same => exact ⟨.object members each, id⟩
    | object spelled order =>
      constructor
      · refine .object _ fun ⟨name, w⟩ hm => ?_
        obtain ⟨v, hv, h⟩ := spelled.exists_of_mem (order.mem_iff.2 hm)
        cases h with
        | value h => exact (ih _ hv h).1
        | bare quoted n => exact printable_ofNat _ _
      · intro kept
        refine retainableMembers_iff.2 fun ⟨name, w⟩ hm => ?_
        obtain ⟨v, hv, h⟩ := spelled.exists_of_mem (order.mem_iff.2 hm)
        cases h with
        | value h => exact (ih _ hv h).2 (retainableMembers_iff.1 kept _ hv)
        | bare quoted n => exact retainable_ofWord64 n

end Registrar.Json
