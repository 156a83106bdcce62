import Registrar.Text.Blank

/-! Texts cut where a pattern first occurs, and texts cut at each occurrence of a character. -/
namespace Registrar.Text
set_option autoImplicit false

variable {c : Char} {cs before after : List Char}

/-! ## The first occurrence -/

/-- A text is cut at a pattern whose first character does not occur before it. -/
theorem cutAt?_pattern (pat : List Char) (h : c ∉ before) :
    cutAt? (c :: pat) (before ++ c :: (pat ++ after)) = some (before, after) := by
  induction before with
  | nil => simp [cutAt?]
  | cons d rest ih =>
    simp only [List.mem_cons, not_or] at h
    simp [cutAt?, h.1, ih h.2]

theorem cutAt?_eq_none_iff : cutAt? [c] cs = none ↔ c ∉ cs := by
  induction cs with
  | nil => simp [cutAt?]
  | cons d rest ih =>
    by_cases h : c = d
    · simp [cutAt?, h]
    · simp [cutAt?, h, ih]

theorem cutAt?_eq_some_iff :
    cutAt? [c] cs = some (before, after) ↔ cs = before ++ c :: after ∧ c ∉ before := by
  constructor
  · intro h
    induction cs generalizing before with
    | nil => simp [cutAt?] at h
    | cons d rest ih =>
      by_cases same : c = d
      · simp only [cutAt?, same, List.isPrefixOf, BEq.rfl, Bool.and_self, if_true] at h
        cases h
        simp [same]
      · simp only [cutAt?, List.isPrefixOf, beq_eq_false_iff_ne.2 same, Bool.false_and,
          Bool.false_eq_true, if_false, Option.map_eq_some_iff] at h
        obtain ⟨⟨front, back⟩, cut, parts⟩ := h
        cases parts
        obtain ⟨rfl, absent⟩ := ih cut
        simp [same, absent]
  · rintro ⟨rfl, absent⟩
    exact cutAt?_pattern [] absent

end Registrar.Text
