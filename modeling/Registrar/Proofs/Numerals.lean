import Registrar.Wire.Scalar
import Mathlib.Data.List.TakeWhile

/-! Numbers written in digits are read back: decimal ones from a text and from JSON, others with the
mark of base sixteen. -/
namespace Registrar
set_option autoImplicit false

namespace Text

/-! ## Blanks -/

theorem trim_of_nonblank {cs : List Char} (h : ∀ c ∈ cs, isBlank c = false) : trim cs = cs := by
  have front {cs : List Char} (h : ∀ c ∈ cs, isBlank c = false) : cs.dropWhile isBlank = cs := by
    cases cs with
    | nil => rfl
    | cons c rest => exact List.dropWhile_cons_of_neg (by simp [h c List.mem_cons_self])
  have back := front fun c hc => h c (List.mem_reverse.1 hc)
  rw [trim, front h, trimEnd, back, List.reverse_reverse]

theorem isBlank_of_isDigit {c : Char} (h : c.isDigit = true) : isBlank c = false := by
  obtain ⟨lower, upper⟩ := Bool.and_eq_true_iff.1 h
  have low : 48 ≤ c.toNat := UInt32.le_iff_toNat_le.1 (of_decide_eq_true lower)
  have high : c.toNat ≤ 57 := UInt32.le_iff_toNat_le.1 (of_decide_eq_true upper)
  have apart : ∀ r ∈ blankRanges, r.2 < 48 ∨ 57 < r.1 := by decide
  refine List.any_eq_false.2 fun r hr => ?_
  simp only [Bool.and_eq_true, decide_eq_true_eq]
  have := apart r hr
  omega

/-! ## Decimal digits -/

theorem digitsValue_eq (digits : List Char) :
    digitsValue digits = Nat.ofDigitChars 10 digits 0 := rfl

theorem isDigit_of_mem {n : Nat} {c : Char} (h : c ∈ Nat.toDigits 10 n) : c.isDigit = true :=
  Nat.isDigit_of_mem_toDigits (by decide) (by decide) h

theorem decimal?_toDigits (n : Nat) : decimal? (Nat.toDigits 10 n) = some n := by
  have some : (Nat.toDigits 10 n).isEmpty = false := by simp
  have digits : (Nat.toDigits 10 n).all isDigit = true := by
    rw [List.all_eq_true]
    exact fun c hc => isDigit_of_mem hc
  rw [decimal?, some, digits, digitsValue_eq, Nat.ofDigitChars_toDigits (by decide) (by decide)]
  rfl

theorem toList_toString (n : Nat) : (toString n).toList = Nat.toDigits 10 n := by
  rw [Nat.toString_eq_repr, Nat.toList_repr]

theorem unsigned?_toDigits {limit n : Nat} (h : n ≤ limit) :
    unsigned? limit (Nat.toDigits 10 n) = some n := by
  unfold unsigned?
  split
  case h_1 r plus =>
    have digit : '+'.isDigit = true :=
      isDigit_of_mem (n := n) (by rw [plus]; exact List.mem_cons_self)
    cases digit
  case h_2 =>
    dsimp only
    rw [decimal?_toDigits, Option.filter_some, if_pos (by simpa using h)]

theorem le_maxWord64 (w : UInt64) : w.toNat ≤ maxWord64 := by
  have small := w.toNat_lt
  simp only [maxWord64, UInt64.size]
  omega

theorem word64?_trim_toString (w : UInt64) :
    word64? (trim (toString w.toNat).toList) = some w := by
  rw [toList_toString, trim_of_nonblank fun c hc => isBlank_of_isDigit (isDigit_of_mem hc), word64?,
    unsigned?_toDigits (le_maxWord64 w), Option.map_some, UInt64.ofNat_toNat]

/-! ## Digits in base sixteen -/

theorem digitValue?_digitChar {d : Nat} (h : d < 16) : digitValue? d.digitChar = some d := by
  revert d
  decide

theorem digitChar_ne_underscore {d : Nat} (h : d < 16) : d.digitChar ≠ '_' := by
  revert d
  decide

theorem inBase?_append_digitChar {acc n d : Nat} {cs : List Char} (h : d < 16)
    (reads : inBase? 16 acc cs = some n) :
    inBase? 16 acc (cs ++ [d.digitChar]) = some (n * 16 + d) := by
  fun_induction inBase? 16 acc cs with
  | case1 acc =>
    cases reads
    rw [List.nil_append, inBase?, if_neg (digitChar_ne_underscore h), digitValue?_digitChar h]
    dsimp only
    rw [if_pos h, inBase?]
  | case2 acc r ih => exact (if_pos rfl).trans (ih reads)
  | case3 acc c r plain d' value small ih =>
    rw [List.cons_append, inBase?, if_neg plain, value]
    dsimp only
    rw [if_pos small, ih reads]
  | case4 => cases reads
  | case5 => cases reads

theorem inBase?_toDigits (n : Nat) : inBase? 16 0 (Nat.toDigits 16 n) = some n := by
  induction n using Nat.strongRecOn with
  | ind n ih =>
    by_cases small : n < 16
    · rw [Nat.toDigits_of_lt_base small]
      have single : inBase? 16 0 ([] ++ [n.digitChar]) = some (0 * 16 + n) :=
        inBase?_append_digitChar small rfl
      rwa [List.nil_append, Nat.zero_mul, Nat.zero_add] at single
    · have behind := inBase?_append_digitChar (d := n % 16) (by omega) (ih (n / 16) (by omega))
      rw [Nat.toDigits_of_base_le (by decide) (by omega), behind]
      congr 1
      omega

theorem word256?_minimalHex (b : BitVec 256) : word256? (minimalHex b.toNat).toList = some b := by
  have chars : (minimalHex b.toNat).toList = '0' :: 'x' :: Nat.toDigits 16 b.toNat := by
    rw [minimalHex, String.toList_append, String.toList_ofList]
    simp
  have small : decide (b.toNat < Nat.pow 2 256) = true := decide_eq_true b.isLt
  rw [chars, word256?, if_pos (by decide), inBase?_toDigits, Option.filter_some, if_pos small,
    Option.map_some, BitVec.ofNat_toNat, BitVec.setWidth_eq]

end Text

/-! ## Numbers in JSON -/

namespace Json

open Text

theorem asNat_ofNat {limit n : Nat} (h : n ≤ limit) : asNat limit (ofNat n) = .ok n := by
  have within : decide (n ≤ limit) = true := by simpa using h
  rw [ofNat, asNat, toList_toString, decimal?_toDigits, Option.filter_some, if_pos within]

theorem asByte_ofNat (b : UInt8) : asByte (ofNat b.toNat) = .ok b := by
  have small : b.toNat ≤ 255 := Nat.le_of_lt_succ b.toNat_lt
  rw [asByte, asNat_ofNat small, Except.map, UInt8.ofNat_toNat]

/-! ### Words do not overflow -/

theorem le_ofDigitChars (s : Nat) (cs : List Char) : s ≤ Nat.ofDigitChars 10 cs s := by
  induction cs generalizing s with
  | nil => exact Nat.le_refl s
  | cons c cs ih =>
    rw [Nat.ofDigitChars_cons]
    exact Nat.le_trans (by omega) (ih _)

/-- All digits of a word fit into the significand. -/
theorem foldl_pushWhole {s : Nat} {cs : List Char} (h : Nat.ofDigitChars 10 cs s ≤ maxWord64) :
    cs.foldl Scaled.pushWhole ⟨s, 0, false⟩ = ⟨Nat.ofDigitChars 10 cs s, 0, false⟩ := by
  induction cs generalizing s with
  | nil => rfl
  | cons c cs ih =>
    rw [Nat.ofDigitChars_cons] at h ⊢
    have fits : 10 * s + (c.toNat - 48) ≤ maxWord64 := Nat.le_trans (le_ofDigitChars _ cs) h
    have pushed : Scaled.pushWhole ⟨s, 0, false⟩ c = ⟨10 * s + (c.toNat - 48), 0, false⟩ := by
      simp only [Scaled.pushWhole, Scaled.extended?, if_pos fits]
    rw [List.foldl_cons, pushed]
    exact ih h

theorem numberParts_toDigits (n : Nat) :
    numberParts (Nat.toDigits 10 n) = (Nat.toDigits 10 n, [], false, []) := by
  have unsigned : (Nat.toDigits 10 n).dropWhile (· == '-') = Nat.toDigits 10 n := by
    cases digits : Nat.toDigits 10 n with
    | nil => rfl
    | cons c rest =>
      refine List.dropWhile_cons_of_neg fun minus => ?_
      have first : c ∈ Nat.toDigits 10 n := digits ▸ List.mem_cons_self
      have digit : c.isDigit = true := isDigit_of_mem first
      rw [beq_iff_eq.1 minus] at digit
      cases digit
  have all : ∀ c ∈ Nat.toDigits 10 n, Text.isDigit c = true := fun c hc => isDigit_of_mem hc
  have taken : (Nat.toDigits 10 n).takeWhile Text.isDigit = Nat.toDigits 10 n :=
    List.takeWhile_eq_self_iff.2 all
  have dropped : (Nat.toDigits 10 n).dropWhile Text.isDigit = [] := List.dropWhile_eq_nil_iff.2 all
  unfold numberParts
  rw [unsigned]
  dsimp only
  rw [taken, dropped]
  rfl

theorem significandOf_toString {n : Nat} (h : n ≤ maxWord64) :
    significandOf (toString n) = ⟨n, 0, false⟩ := by
  have value : Nat.ofDigitChars 10 (Nat.toDigits 10 n) 0 = n :=
    Nat.ofDigitChars_toDigits (by decide) (by decide)
  rw [significandOf, toList_toString, numberParts_toDigits]
  dsimp only
  rw [Scaled.start, foldl_pushWhole (by rwa [value]), value]
  rfl

theorem round_lt_overflowBound {n : Nat} (h : n ≤ maxWord64) :
    Double.round n < Double.overflowBound := by
  have small : n < 2 ^ 64 := Nat.lt_of_le_of_lt h (by decide)
  have bits : n.log2 < 64 := by
    by_cases zero : n = 0
    · rw [zero]
      decide
    · exact (Nat.log2_lt zero).2 small
  have unit : Nat.pow 2 (n.log2 + 1 - Double.precision) ≤ 2 ^ 64 :=
    Nat.pow_le_pow_right (by decide) (by omega)
  have below := Nat.div_mul_le_self n (Nat.pow 2 (n.log2 + 1 - Double.precision))
  have bound : 2 ^ 65 ≤ Double.overflowBound := by decide +kernel
  unfold Double.round
  dsimp only
  split <;> omega

/-- Words of 64 bits are numbers in double precision. -/
theorem overflows_toString {n : Nat} (h : n ≤ maxWord64) : overflows (toString n) = false := by
  have fits := round_lt_overflowBound h
  have one : Double.round (Nat.pow 10 0) = 1 := by decide
  have scaled : Scaled.overflows ⟨n, 0, false⟩ = false := by
    cases n with
    | zero => rfl
    | succ k =>
      have unfolded : Scaled.overflows ⟨k + 1, 0, false⟩ =
          (decide (0 > Double.maxDecimalExponent) || decide (Double.overflowBound ≤
            Double.round (k + 1) * Double.round (Nat.pow 10 0))) := rfl
      rw [unfolded, one, Nat.mul_one, Bool.or_eq_false_iff]
      exact ⟨rfl, decide_eq_false (Nat.not_le.2 fits)⟩
  rw [overflows, significandOf_toString h, toList_toString, numberParts_toDigits]
  exact scaled

end Json

namespace Wire

open Text

theorem asQuotedWord64_ofQuotedWord64 (w : UInt64) : asQuotedWord64 (ofQuotedWord64 w) = .ok w := by
  have kept : Json.retained (.string (toString w.toNat)) = .ok (.string (toString w.toNat)) := rfl
  rw [ofQuotedWord64, asQuotedWord64, kept]
  dsimp only
  rw [word64?_trim_toString]

/-- A bare number counts like the same digits in quotes. -/
theorem asQuotedWord64_ofWord64 (w : UInt64) : asQuotedWord64 (ofWord64 w) = .ok w := by
  have kept : Json.retained (.number (toString w.toNat)) = .ok (.number (toString w.toNat)) := by
    rw [Json.retained, Json.retainable, Json.overflows_toString (le_maxWord64 w)]
    rfl
  rw [ofWord64, Json.ofNat, asQuotedWord64, kept]
  dsimp only
  rw [toList_toString, decimal?_toDigits]
  dsimp only
  rw [if_pos (le_maxWord64 w)]
  simp

theorem asBalance_ofBalance (b : BitVec 256) : asBalance (ofBalance b) = .ok b := by
  rw [ofBalance, asBalance, word256?_minimalHex]

end Wire

end Registrar
