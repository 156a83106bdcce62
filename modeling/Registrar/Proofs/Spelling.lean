import Registrar.Exclusion
import Registrar.Proofs.HexText
import Registrar.Proofs.Reading

/-! Spellings of keys. The reader is set against a grammar: blanks, a mark, digits in either case,
blanks. Texts outside of it fail for the first of three reasons, and two texts within it give one key
exactly if they differ in nothing but blanks, mark and case. -/
namespace Registrar
set_option autoImplicit false

namespace Text

/-! ## Digits -/

/-- The character is the digit of the value, in either case. -/
def IsHexDigit (c : Char) (v : Nat) : Prop :=
  "0123456789abcdef".toList[v]? = some c.toLower

instance (c : Char) (v : Nat) : Decidable (IsHexDigit c v) :=
  inferInstanceAs (Decidable (_ = _))

theorem IsHexDigit.lt {c : Char} {v : Nat} (h : IsHexDigit c v) : v < 16 := by
  obtain ⟨inside, -⟩ := List.getElem?_eq_some_iff.1 h
  exact inside

theorem isHexDigit_iff {c : Char} {v : Nat} : IsHexDigit c v ↔ v < 16 ∧ c.toLower = hexChar v := by
  have row : ∀ v < 16, "0123456789abcdef".toList[v]? = some (hexChar v) := by decide
  constructor
  · intro h
    have small := h.lt
    have same := (row v small).symm.trans h
    exact ⟨small, (Option.some.inj same).symm⟩
  · rintro ⟨small, same⟩
    rw [IsHexDigit, row v small, same]

theorem toLower_of_high {c : Char} (h : 128 ≤ c.toNat) : c.toLower = c := by
  have above : ¬(c.val ≥ 'A'.val ∧ c.val ≤ 'Z'.val) := by
    rintro ⟨-, upper⟩
    have most : c.toNat ≤ 90 := UInt32.le_iff_toNat_le.1 upper
    omega
  exact dif_neg above

theorem IsHexDigit.ascii {c : Char} {v : Nat} (h : IsHexDigit c v) : c.toNat < 128 := by
  refine Nat.lt_of_not_le fun high => ?_
  obtain ⟨small, same⟩ := isHexDigit_iff.1 h
  have low : ∀ v < 16, (hexChar v).toNat < 128 := by decide
  rw [toLower_of_high high] at same
  have := low v small
  rw [← same] at this
  omega

/-- What is checked for every code point below 128 holds of every character below 128. -/
theorem forall_ascii {P : Char → Prop} (h : ∀ n < 128, P (Char.ofNat n)) {c : Char}
    (ascii : c.toNat < 128) : P c := by
  have found := h c.toNat ascii
  rwa [Char.ofNat_toNat] at found

/-- The value that the reader sees in a byte is that of the digit. -/
theorem hexValue?_eq_some_iff {c : Char} {v : Nat} : hexValue? c.toNat = some v ↔ IsHexDigit c v := by
  by_cases ascii : c.toNat < 128
  · have same : ∀ v < 16, hexValue? c.toNat = some v ↔ IsHexDigit c v :=
      forall_ascii (P := fun c => ∀ v < 16, hexValue? c.toNat = some v ↔ IsHexDigit c v)
        (by decide +kernel) ascii
    have bound : ∀ v ∈ hexValue? c.toNat, v < 16 :=
      forall_ascii (P := fun c => ∀ v ∈ hexValue? c.toNat, v < 16) (by decide +kernel) ascii
    constructor
    · intro read
      exact (same v (bound v read)).1 read
    · intro h
      exact (same v h.lt).2 h
  · constructor
    · intro read
      unfold hexValue? at read
      simp only [Bool.and_eq_true, decide_eq_true_eq] at read
      split_ifs at read <;> omega
    · intro h
      exact absurd h.ascii ascii

theorem IsHexDigit.nonblank {c : Char} {v : Nat} (h : IsHexDigit c v) : isBlank c = false :=
  forall_ascii (P := fun c => ∀ v < 16, IsHexDigit c v → isBlank c = false) (by decide +kernel)
    h.ascii v h.lt h

/-! ## Bytes of a text -/

theorem utf8EncodeChar_of_ascii {c : Char} (h : c.toNat < 128) :
    String.utf8EncodeChar c = [UInt8.ofNat c.toNat] :=
  if_pos (Nat.le_of_lt_succ h)

/-- Every other character begins with a byte that is no digit. -/
theorem utf8EncodeChar_of_high {c : Char} (h : 128 ≤ c.toNat) :
    ∃ b rest, String.utf8EncodeChar c = b :: rest ∧ 128 ≤ b.toNat := by
  have one : ¬c.val.toNat ≤ 127 := Nat.not_le.2 h
  unfold String.utf8EncodeChar
  dsimp only
  rw [if_neg one]
  split_ifs
  all_goals
    refine ⟨_, _, rfl, ?_⟩
    rw [UInt8.toNat_ofNat']
    omega

theorem utf8_cons_of_ascii {c : Char} (h : c.toNat < 128) (cs : List Char) :
    utf8 (c :: cs) = UInt8.ofNat c.toNat :: utf8 cs := by
  rw [utf8, List.flatMap_cons, utf8EncodeChar_of_ascii h]
  rfl

theorem toNat_ofNat_of_ascii {c : Char} (h : c.toNat < 128) :
    (UInt8.ofNat c.toNat).toNat = c.toNat := by
  rw [UInt8.toNat_ofNat']
  omega

namespace Hex

/-! ## Digits in pairs -/

/-- The digits, two for each byte, denote the bytes. -/
inductive Denotes : List Char → Bytes → Prop
  | nil : Denotes [] []
  | pair {hi lo : Char} {x y : Nat} {digits : List Char} {bytes : Bytes} (high : IsHexDigit hi x)
      (low : IsHexDigit lo y) (rest : Denotes digits bytes) :
    Denotes (hi :: lo :: digits) (UInt8.ofNat (16 * x + y) :: bytes)

theorem Denotes.length {digits : List Char} {bytes : Bytes} (h : Denotes digits bytes) :
    digits.length = 2 * bytes.length := by
  induction h with
  | nil => rfl
  | pair _ _ _ ih =>
    simp only [List.length_cons]
    omega

theorem Denotes.isHexDigit {digits : List Char} {bytes : Bytes} (h : Denotes digits bytes)
    {c : Char} (hc : c ∈ digits) : ∃ v, IsHexDigit c v := by
  induction h with
  | nil => cases hc
  | pair high low rest ih =>
    obtain rfl | hc := List.mem_cons.1 hc
    · exact ⟨_, high⟩
    obtain rfl | hc := List.mem_cons.1 hc
    · exact ⟨_, low⟩
    · exact ih hc

theorem encode_cons (b : UInt8) (bytes : Bytes) :
    encode (b :: bytes) =
      hexChar (b.toNat / 16) :: hexChar (b.toNat % 16) :: encode bytes := rfl

/-- Digits denote the bytes exactly if they are, up to case, the digits in which the bytes are
written. -/
theorem denotes_iff {digits : List Char} {bytes : Bytes} :
    Denotes digits bytes ↔ digits.map Char.toLower = encode bytes := by
  constructor
  · intro h
    induction h with
    | nil => rfl
    | @pair hi lo x y digits bytes high low rest ih =>
      obtain ⟨hx, first⟩ := isHexDigit_iff.1 high
      obtain ⟨hy, second⟩ := isHexDigit_iff.1 low
      have value : (UInt8.ofNat (16 * x + y)).toNat = 16 * x + y := by
        rw [UInt8.toNat_ofNat']
        omega
      have upper : (16 * x + y) / 16 = x := by omega
      have lower : (16 * x + y) % 16 = y := by omega
      rw [List.map_cons, List.map_cons, ih, first, second, encode_cons, value, upper, lower]
  · intro h
    induction bytes generalizing digits with
    | nil =>
      obtain rfl := List.map_eq_nil_iff.1 h
      exact .nil
    | cons b bytes ih =>
      obtain ⟨high, low⟩ := halves_lt b
      rw [encode_cons] at h
      obtain ⟨hi, rest, rfl, first, h⟩ := List.map_eq_cons_iff.1 h
      obtain ⟨lo, digits, rfl, second, others⟩ := List.map_eq_cons_iff.1 h
      have whole : UInt8.ofNat (16 * (b.toNat / 16) + b.toNat % 16) = b := by
        rw [Nat.div_add_mod, UInt8.ofNat_toNat]
      rw [← whole]
      exact .pair (isHexDigit_iff.2 ⟨high, first⟩) (isHexDigit_iff.2 ⟨low, second⟩) (ih others)

/-! ## Reading digits -/

def IsHexByte (b : UInt8) : Prop :=
  ∃ v, IsHexDigit (Char.ofNat b.toNat) v

theorem toNat_latin (b : UInt8) : (Char.ofNat b.toNat).toNat = b.toNat := by
  have table : ∀ n < 256, (Char.ofNat n).toNat = n := by decide +kernel
  exact table b.toNat b.toNat_lt

theorem hexValue?_byte {b : UInt8} {v : Nat} :
    hexValue? b.toNat = some v ↔ IsHexDigit (Char.ofNat b.toNat) v := by
  rw [← hexValue?_eq_some_iff, toNat_latin]

theorem decodePairs_ok {index : Nat} {bs bytes : Bytes} (h : decodePairs index bs = .ok bytes) :
    bs.length = 2 * bytes.length ∧ ∀ b ∈ bs, IsHexByte b := by
  fun_induction decodePairs index bs generalizing bytes with
  | case1 index =>
    cases h
    exact ⟨rfl, by simp⟩
  | case2 | case3 | case4 | case5 => cases h
  | case6 index a b rest x hx y hy tail read ih =>
    cases h
    obtain ⟨length, digits⟩ := ih read
    refine ⟨by simp only [List.length_cons]; omega, ?_⟩
    simp only [List.forall_mem_cons]
    exact ⟨⟨x, hexValue?_byte.1 hx⟩, ⟨y, hexValue?_byte.1 hy⟩, digits⟩

theorem decodePairs_of_digits (index : Nat) {bs : Bytes} (even : bs.length % 2 = 0)
    (digits : ∀ b ∈ bs, IsHexByte b) : ∃ bytes, decodePairs index bs = .ok bytes := by
  match bs with
  | [] => exact ⟨[], rfl⟩
  | [_] => cases even
  | a :: b :: rest =>
    simp only [List.forall_mem_cons] at digits
    obtain ⟨⟨x, hx⟩, ⟨y, hy⟩, others⟩ := digits
    have fewer : rest.length % 2 = 0 := by
      simp only [List.length_cons] at even
      omega
    obtain ⟨bytes, read⟩ := decodePairs_of_digits (index + 2) fewer others
    rw [decodePairs_pair (hexValue?_byte.2 hx) (hexValue?_byte.2 hy), read]
    exact ⟨_, rfl⟩

/-- In a text of even length the first byte that is no digit is reported, with its place. -/
theorem decodePairs_of_bad (index : Nat) {front rest : Bytes} {b : UInt8}
    (even : (front ++ b :: rest).length % 2 = 0) (digits : ∀ x ∈ front, IsHexByte x)
    (bad : ¬IsHexByte b) :
    decodePairs index (front ++ b :: rest) = .error (.badCharacter b (index + front.length)) := by
  have unread : hexValue? b.toNat = none := by
    cases value : hexValue? b.toNat with
    | none => rfl
    | some v => exact absurd ⟨v, hexValue?_byte.1 value⟩ bad
  match front with
  | [] =>
    cases rest with
    | nil => cases even
    | cons c rest =>
      rw [List.nil_append, decodePairs, unread]
      rfl
  | [x] =>
    obtain ⟨v, hv⟩ := digits x (List.mem_singleton_self x)
    rw [List.singleton_append, decodePairs, hexValue?_byte.2 hv]
    dsimp only
    rw [unread]
    rfl
  | x :: y :: front =>
    simp only [List.forall_mem_cons] at digits
    obtain ⟨⟨v, hv⟩, ⟨w, hw⟩, others⟩ := digits
    have fewer : (front ++ b :: rest).length % 2 = 0 := by
      simp only [List.cons_append, List.length_cons] at even
      omega
    have later := decodePairs_of_bad (index + 2) fewer others bad
    have place : index + (x :: y :: front).length = index + 2 + front.length := by
      simp only [List.length_cons]
      omega
    rw [List.cons_append, List.cons_append,
      decodePairs_pair (hexValue?_byte.2 hv) (hexValue?_byte.2 hw), later, place]
    rfl

/-- Bytes are all digits, or one of them is the first that is none. -/
theorem exists_first_bad (bs : Bytes) :
    (∀ b ∈ bs, IsHexByte b) ∨ ∃ front b rest, bs = front ++ b :: rest ∧
      (∀ x ∈ front, IsHexByte x) ∧ ¬IsHexByte b := by
  induction bs with
  | nil => exact .inl (by simp)
  | cons b bs ih =>
    by_cases digit : IsHexByte b
    · obtain all | ⟨front, b', rest, rfl, digits, bad⟩ := ih
      · exact .inl (List.forall_mem_cons.2 ⟨digit, all⟩)
      · exact .inr ⟨b :: front, b', rest, rfl, List.forall_mem_cons.2 ⟨digit, digits⟩, bad⟩
    · exact .inr ⟨[], b, bs, rfl, by simp, digit⟩

theorem denotes_of_decodePairs {index : Nat} {cs : List Char} {bytes : Bytes}
    (ascii : ∀ c ∈ cs, c.toNat < 128) (h : decodePairs index (utf8 cs) = .ok bytes) :
    Denotes cs bytes := by
  match cs with
  | [] =>
    cases h
    exact .nil
  | [c] =>
    rw [utf8_cons_of_ascii (ascii c (List.mem_singleton_self c))] at h
    cases h
  | hi :: lo :: rest =>
    simp only [List.forall_mem_cons] at ascii
    obtain ⟨hhi, hlo, others⟩ := ascii
    rw [utf8_cons_of_ascii hhi, utf8_cons_of_ascii hlo] at h
    obtain ⟨⟨x, hx⟩, ⟨y, hy⟩, -⟩ : IsHexByte _ ∧ IsHexByte _ ∧ ∀ b ∈ utf8 rest, IsHexByte b := by
      simpa only [List.forall_mem_cons] using (decodePairs_ok h).2
    have high := hexValue?_byte.2 hx
    have low := hexValue?_byte.2 hy
    rw [decodePairs_pair high low] at h
    rw [toNat_ofNat_of_ascii hhi] at high
    rw [toNat_ofNat_of_ascii hlo] at low
    cases read : decodePairs (index + 2) (utf8 rest) with
    | error e =>
      rw [read] at h
      cases h
    | ok tail =>
      rw [read] at h
      cases h
      exact .pair (hexValue?_eq_some_iff.1 high) (hexValue?_eq_some_iff.1 low)
        (denotes_of_decodePairs others read)

theorem decodePairs_of_denotes {cs : List Char} {bytes : Bytes} (h : Denotes cs bytes)
    (index : Nat) : decodePairs index (utf8 cs) = .ok bytes := by
  induction h generalizing index with
  | nil => rfl
  | @pair hi lo x y digits bytes high low rest ih =>
    have hx : hexValue? (UInt8.ofNat hi.toNat).toNat = some x := by
      rw [toNat_ofNat_of_ascii high.ascii]
      exact hexValue?_eq_some_iff.2 high
    have hy : hexValue? (UInt8.ofNat lo.toNat).toNat = some y := by
      rw [toNat_ofNat_of_ascii low.ascii]
      exact hexValue?_eq_some_iff.2 low
    rw [utf8_cons_of_ascii high.ascii, utf8_cons_of_ascii low.ascii, decodePairs_pair hx hy, ih]
    rfl

theorem decodeDigits_utf8_iff {cs : List Char} {bytes : Bytes} :
    decodeDigits (utf8 cs) = .ok bytes ↔ Denotes cs bytes := by
  unfold decodeDigits
  constructor
  · intro h
    split_ifs at h
    refine denotes_of_decodePairs (fun c hc => ?_) h
    refine Nat.lt_of_not_le fun high => ?_
    obtain ⟨b, rest, bs, big⟩ := utf8EncodeChar_of_high high
    have among : b ∈ utf8 cs := List.mem_flatMap.2 ⟨c, hc, by rw [bs]; exact List.mem_cons_self⟩
    obtain ⟨v, digit⟩ := (decodePairs_ok h).2 b among
    have ascii := digit.ascii
    rw [toNat_latin] at ascii
    omega
  · intro h
    have read := decodePairs_of_denotes h 0
    have even : ¬(utf8 cs).length % 2 = 1 := by
      have length := (decodePairs_ok read).1
      omega
    rw [if_neg even, read]

/-! ## Blanks and marks -/

/-- The body is what stands between the blanks at both ends. -/
def Trims (cs body : List Char) : Prop :=
  ∃ before after, cs = before ++ body ++ after ∧ (∀ c ∈ before ++ after, isBlank c = true) ∧
    (∀ c ∈ body.head?, isBlank c = false) ∧ ∀ c ∈ body.getLast?, isBlank c = false

theorem dropWhile_of_head {l : List Char} (h : ∀ c ∈ l.head?, isBlank c = false) :
    l.dropWhile isBlank = l := by
  cases l with
  | nil => rfl
  | cons c rest =>
    have first := h c rfl
    exact List.dropWhile_cons_of_neg (by simp [first])

theorem head_dropWhile (l : List Char) : ∀ c ∈ (l.dropWhile isBlank).head?, isBlank c = false := by
  intro c hc
  have first := List.head?_dropWhile_not isBlank l
  rw [Option.mem_def.1 hc] at first
  exact first

theorem trims_trim (cs : List Char) : Trims cs (trim cs) := by
  have left : cs.takeWhile isBlank ++ cs.dropWhile isBlank = cs := List.takeWhile_append_dropWhile
  have blanks {l : List Char} : ∀ c ∈ l.takeWhile isBlank, isBlank c = true :=
    fun c => List.mem_takeWhile_imp
  have first := head_dropWhile cs
  unfold trim
  generalize cs.dropWhile isBlank = rest at left first
  have right : trimEnd rest ++ (rest.reverse.takeWhile isBlank).reverse = rest := by
    rw [trimEnd, ← List.reverse_append, List.takeWhile_append_dropWhile, List.reverse_reverse]
  refine ⟨cs.takeWhile isBlank, (rest.reverse.takeWhile isBlank).reverse, ?_, ?_, ?_, ?_⟩
  · rw [List.append_assoc, right, left]
  · intro c hc
    obtain hc | hc := List.mem_append.1 hc
    · exact blanks c hc
    · exact blanks c (List.mem_reverse.1 hc)
  · intro c hc
    refine first c ?_
    rw [← right, List.head?_append, Option.mem_def.1 hc]
    rfl
  · intro c hc
    rw [trimEnd, List.getLast?_reverse] at hc
    exact head_dropWhile _ c hc

theorem trim_eq_iff {cs body : List Char} : trim cs = body ↔ Trims cs body := by
  constructor
  · rintro rfl
    exact trims_trim cs
  · rintro ⟨before, after, rfl, blank, first, last⟩
    rw [List.forall_mem_append] at blank
    unfold trim
    rw [List.append_assoc, List.dropWhile_append_of_pos blank.1]
    cases body with
    | nil =>
      have none : after.dropWhile isBlank = [] := List.dropWhile_eq_nil_iff.2 blank.2
      rw [List.nil_append, none]
      rfl
    | cons c rest =>
      have solid : (c :: rest ++ after).dropWhile isBlank = c :: rest ++ after :=
        dropWhile_of_head first
      have back : (c :: rest).reverse.dropWhile isBlank = (c :: rest).reverse := by
        refine dropWhile_of_head ?_
        rw [List.head?_reverse]
        exact last
      have ending : ∀ c ∈ after.reverse, isBlank c = true :=
        fun c hc => blank.2 c (List.mem_reverse.1 hc)
      rw [solid, trimEnd, List.reverse_append, List.dropWhile_append_of_pos ending, back,
        List.reverse_reverse]

/-- The body is what stands behind blanks and one mark, and before blanks. -/
def Strips (cs body : List Char) : Prop :=
  ∃ mark, Trims cs (mark ++ body) ∧ (mark = ['0', 'x'] ∨ mark = ['0', 'X'] ∨
    mark = [] ∧ ¬['0', 'x'] <+: body ∧ ¬['0', 'X'] <+: body)

theorem strip_eq_iff {cs body : List Char} : strip cs = body ↔ Strips cs body := by
  have unmarked {c : Char} {r body : List Char} (same : '0' :: c :: r = [] ++ body) :
      ['0', c] <+: body := by
    rw [List.nil_append] at same
    rw [← same]
    exact ⟨r, rfl⟩
  unfold strip Strips
  simp only [← trim_eq_iff]
  constructor
  · rintro rfl
    split
    · rename_i r marked
      exact ⟨['0', 'x'], marked, .inl rfl⟩
    · rename_i r marked
      exact ⟨['0', 'X'], marked, .inr (.inl rfl)⟩
    · rename_i small large
      refine ⟨[], rfl, .inr (.inr ⟨rfl, ?_, ?_⟩)⟩
      · rintro ⟨r, same⟩
        exact small r same.symm
      · rintro ⟨r, same⟩
        exact large r same.symm
  · rintro ⟨mark, whole, rfl | rfl | ⟨rfl, small, large⟩⟩
    · rw [whole]
      rfl
    · rw [whole]
      rfl
    · rw [whole]
      split
      · rename_i r same
        exact absurd (unmarked same.symm) small
      · rename_i r same
        exact absurd (unmarked same.symm) large
      · rfl

/-- Where all characters are digits, nothing of them is taken for blanks or for a mark. -/
theorem strips_of_denotes {before mark digits after : List Char} {bytes : Bytes}
    (blank : ∀ c ∈ before ++ after, isBlank c = true)
    (marked : mark = [] ∨ mark = ['0', 'x'] ∨ mark = ['0', 'X']) (h : Denotes digits bytes) :
    Strips (before ++ mark ++ digits ++ after) digits := by
  have zero : isBlank '0' = false := by decide
  have small : isBlank 'x' = false := by decide
  have large : isBlank 'X' = false := by decide
  have solid : ∀ c ∈ mark ++ digits, isBlank c = false := by
    rw [List.forall_mem_append]
    constructor
    · obtain rfl | rfl | rfl := marked <;> simp [zero, small, large]
    · intro c hc
      obtain ⟨v, digit⟩ := h.isHexDigit hc
      exact digit.nonblank
  have trims : Trims (before ++ mark ++ digits ++ after) (mark ++ digits) :=
    ⟨before, after, by simp only [List.append_assoc], blank,
      fun c hc => solid c (List.mem_of_head? hc), fun c hc => solid c (List.mem_of_getLast? hc)⟩
  have foreign : ∀ v < 16, ¬IsHexDigit 'x' v ∧ ¬IsHexDigit 'X' v := by decide
  have unmarked {c : Char} (alien : ∀ v < 16, ¬IsHexDigit c v) : ¬['0', c] <+: digits := by
    intro front
    have among : c ∈ digits := front.subset (by simp)
    obtain ⟨v, digit⟩ := h.isHexDigit among
    exact alien v digit.lt digit
  refine ⟨mark, trims, ?_⟩
  obtain rfl | rfl | rfl := marked
  · exact .inr (.inr ⟨rfl, unmarked fun v hv => (foreign v hv).1,
      unmarked fun v hv => (foreign v hv).2⟩)
  · exact .inl rfl
  · exact .inr (.inl rfl)

end Hex

end Text

open Text Text.Hex

/-! ## Keys -/

/-- Why the bytes of a text are not the digits of `n` bytes: the first of three reasons. -/
inductive Misspelt (n : Nat) (bs : Bytes) : String → Prop
  | oddLength (odd : bs.length % 2 = 1) : Misspelt n bs "hex decode error: Odd number of digits"
  | badCharacter (front rest : Bytes) (b : UInt8) (split : bs = front ++ b :: rest)
      (even : bs.length % 2 = 0) (digits : ∀ x ∈ front, IsHexByte x) (bad : ¬IsHexByte b) :
    Misspelt n bs ("hex decode error: " ++
      ("Invalid character " ++ shownByte b ++ " at position " ++ toString front.length))
  | wrongCount (even : bs.length % 2 = 0) (digits : ∀ x ∈ bs, IsHexByte x)
      (count : bs.length / 2 ≠ n) :
    Misspelt n bs ("expected " ++ toString n ++ " bytes, got " ++ toString (bs.length / 2))

namespace FixedBytes

variable {n : Nat} {s : String}

theorem ofHex_of_fits {bytes : Bytes} (h : decodeDigits (utf8 (strip s.toList)) = .ok bytes)
    (fits : bytes.length = n) : ofHex s = .ok (⟨bytes, fits⟩ : FixedBytes n) := by
  have found : ofBytes? bytes = some (⟨bytes, fits⟩ : FixedBytes n) := dif_pos fits
  simp only [ofHex, decodeHex, decode, h, found]

theorem ofHex_of_misfit {bytes : Bytes} (h : decodeDigits (utf8 (strip s.toList)) = .ok bytes)
    (misfit : bytes.length ≠ n) :
    (ofHex s : Except Error (FixedBytes n)) =
      .error (.encoding ("expected " ++ toString n ++ " bytes, got " ++ toString bytes.length)) := by
  have none : (ofBytes? bytes : Option (FixedBytes n)) = none := dif_neg misfit
  simp only [ofHex, decodeHex, decode, h, none]

theorem ofHex_of_fault {fault : Fault} (h : decodeDigits (utf8 (strip s.toList)) = .error fault) :
    (ofHex s : Except Error (FixedBytes n)) =
      .error (.encoding ("hex decode error: " ++ fault.message)) := by
  simp only [ofHex, decodeHex, decode, h]

theorem ofHex_of_misspelt {message : String} (h : Misspelt n (utf8 (strip s.toList)) message) :
    (ofHex s : Except Error (FixedBytes n)) = .error (.encoding message) := by
  generalize read : utf8 (strip s.toList) = bs at h
  cases h with
  | oddLength odd =>
    have fault : decodeDigits bs = .error .oddLength := if_pos odd
    rw [ofHex_of_fault (read ▸ fault)]
    rfl
  | badCharacter front rest b split even digits bad =>
    subst split
    have fault : decodeDigits (front ++ b :: rest) = .error (.badCharacter b front.length) := by
      rw [decodeDigits, if_neg (by omega), decodePairs_of_bad 0 even digits bad, Nat.zero_add]
    rw [ofHex_of_fault (read ▸ fault)]
    rfl
  | wrongCount even digits count =>
    obtain ⟨bytes, pairs⟩ := decodePairs_of_digits 0 even digits
    have length := (decodePairs_ok pairs).1
    have whole : decodeDigits bs = .ok bytes := by rw [decodeDigits, if_neg (by omega), pairs]
    have half : bs.length / 2 = bytes.length := by omega
    have misfit : bytes.length ≠ n := by omega
    rw [ofHex_of_misfit (read ▸ whole) misfit, half]

theorem ofHex_cases (n : Nat) (s : String) :
    (∃ k : FixedBytes n, ofHex s = .ok k) ∨ ∃ message, Misspelt n (utf8 (strip s.toList)) message := by
  generalize read : utf8 (strip s.toList) = bs
  by_cases odd : bs.length % 2 = 1
  · exact .inr ⟨_, .oddLength odd⟩
  have even : bs.length % 2 = 0 := by omega
  obtain digits | ⟨front, b, rest, split, digits, bad⟩ := exists_first_bad bs
  · by_cases count : bs.length / 2 = n
    · obtain ⟨bytes, pairs⟩ := decodePairs_of_digits 0 even digits
      have length := (decodePairs_ok pairs).1
      have whole : decodeDigits bs = .ok bytes := by rw [decodeDigits, if_neg odd, pairs]
      have fits : bytes.length = n := by omega
      exact .inl ⟨⟨bytes, fits⟩, ofHex_of_fits (read ▸ whole) fits⟩
    · exact .inr ⟨_, .wrongCount even digits count⟩
  · exact .inr ⟨_, .badCharacter front rest b split even digits bad⟩

theorem ofHex_eq_ok_iff {k : FixedBytes n} :
    ofHex s = .ok k ↔ ∃ digits, Strips s.toList digits ∧ Denotes digits k.bytes := by
  simp only [← strip_eq_iff, exists_eq_left', ← decodeDigits_utf8_iff]
  constructor
  · intro h
    cases read : decodeDigits (utf8 (strip s.toList)) with
    | error fault =>
      rw [ofHex_of_fault read] at h
      cases h
    | ok bytes =>
      by_cases fits : bytes.length = n
      · rw [ofHex_of_fits read fits] at h
        cases h
        rfl
      · rw [ofHex_of_misfit read fits] at h
        cases h
  · intro h
    exact ofHex_of_fits h k.length_bytes

theorem ofHex_eq_error_iff {e : Error} :
    (ofHex s : Except Error (FixedBytes n)) = .error e ↔
      ∃ body message, Strips s.toList body ∧ Misspelt n (utf8 body) message ∧
        e = .encoding message := by
  constructor
  · intro h
    obtain ⟨k, read⟩ | ⟨message, misspelt⟩ := ofHex_cases n s
    · rw [read] at h
      cases h
    · rw [ofHex_of_misspelt misspelt] at h
      cases h
      exact ⟨_, message, strip_eq_iff.1 rfl, misspelt, rfl⟩
  · rintro ⟨body, message, strips, misspelt, rfl⟩
    obtain rfl := strip_eq_iff.2 strips
    exact ofHex_of_misspelt misspelt

/-- Of texts that are read, the digits tell the keys apart up to case. -/
theorem eq_iff_of_ofHex {s' : String} {k k' : FixedBytes n} {digits digits' : List Char}
    (read : ofHex s = .ok k) (read' : ofHex s' = .ok k') (strips : Strips s.toList digits)
    (strips' : Strips s'.toList digits') :
    k = k' ↔ digits.map Char.toLower = digits'.map Char.toLower := by
  obtain ⟨d, hd, denotes⟩ := ofHex_eq_ok_iff.1 read
  obtain ⟨d', hd', denotes'⟩ := ofHex_eq_ok_iff.1 read'
  obtain rfl : d = digits := (strip_eq_iff.2 hd).symm.trans (strip_eq_iff.2 strips)
  obtain rfl : d' = digits' := (strip_eq_iff.2 hd').symm.trans (strip_eq_iff.2 strips')
  rw [denotes_iff.1 denotes, denotes_iff.1 denotes', eq_iff]
  constructor
  · intro same
    rw [same]
  · intro same
    have written : utf8 (encode k.bytes) = utf8 (encode k'.bytes) := congrArg utf8 same
    have back := (decodeDigits_encode k.bytes).symm.trans (written ▸ decodeDigits_encode k'.bytes)
    exact Except.ok.inj back

end FixedBytes

theorem ExclusionTable.entry_ofRecords_append (records : List ExclusionRecord) (r : ExclusionRecord)
    (version : UInt64) (k : PublicKey) :
    (ofRecords (records ++ [r]) version).entry k =
      if r.pubkey = k then r.exclusion else (ofRecords records version).entry k := by
  unfold entry ofRecords
  rw [List.map_append, List.map_singleton, Table.ofList_append_singleton, Table.get?_insert]
  by_cases same : r.pubkey = k
  · rw [if_pos same, if_pos same]
    rfl
  · rw [if_neg same, if_neg same]

namespace FixedBytes

variable {n : Nat}

/-- The mark may be missing only where the rest does not begin with one, which digits never do. -/
theorem ofHex_eq_ok_iff_grammar {s : String} {k : FixedBytes n} :
    ofHex s = .ok k ↔
      ∃ before mark digits after, s.toList = before ++ mark ++ digits ++ after ∧
        (∀ c ∈ before ++ after, isBlank c = true) ∧
        (mark = [] ∨ mark = ['0', 'x'] ∨ mark = ['0', 'X']) ∧
        digits.length = 2 * n ∧ Denotes digits k.bytes := by
  rw [ofHex_eq_ok_iff]
  constructor
  · rintro ⟨digits, ⟨mark, ⟨before, after, whole, blank, -, -⟩, marked⟩, denotes⟩
    have length : digits.length = 2 * n := by rw [denotes.length, k.length_bytes]
    refine ⟨before, mark, digits, after, ?_, blank, ?_, length, denotes⟩
    · rw [whole]
      simp only [List.append_assoc]
    · obtain rfl | rfl | ⟨rfl, -, -⟩ := marked
      · exact .inr (.inl rfl)
      · exact .inr (.inr rfl)
      · exact .inl rfl
  · rintro ⟨before, mark, digits, after, whole, blank, marked, -, denotes⟩
    rw [whole]
    exact ⟨digits, strips_of_denotes blank marked denotes, denotes⟩

/-- A text is read as a key exactly if it is blanks, at most one mark, two digits in either case for
each byte of the key, and blanks. Every other text is an encoding error, which tells the first of
three faults of what stands between blanks and mark. A written key is read back, and texts that are
read give one key exactly if their digits agree up to case, so that the record of an exclusion under
one spelling is that of every other spelling of its key, and of no other key. -/
theorem ofHex_exact (s : String) :
    (∀ k : FixedBytes n, ofHex s = .ok k ↔
      ∃ before mark digits after, s.toList = before ++ mark ++ digits ++ after ∧
        (∀ c ∈ before ++ after, isBlank c = true) ∧
        (mark = [] ∨ mark = ['0', 'x'] ∨ mark = ['0', 'X']) ∧
        digits.length = 2 * n ∧ Denotes digits k.bytes) ∧
    (∀ e, (ofHex s : Except Error (FixedBytes n)) = .error e ↔
      ∃ body message, Strips s.toList body ∧ Misspelt n (utf8 body) message ∧
        e = .encoding message) ∧
    (∀ k : FixedBytes n, ofHex (toString k) = .ok k) ∧
    (∀ (s' : String) (k k' : FixedBytes n) (digits digits' : List Char), ofHex s = .ok k →
      ofHex s' = .ok k' → Strips s.toList digits → Strips s'.toList digits' →
        (k = k' ↔ digits.map Char.toLower = digits'.map Char.toLower)) ∧
    ∀ (s' : String) (k k' : PublicKey) (digits digits' : List Char) (exclusion : Exclusion)
      (records : List ExclusionRecord) (version : UInt64),
      Wire.asKey (.string s) = .ok k → ofHex s' = .ok k' → Strips s.toList digits →
      Strips s'.toList digits' →
        (ExclusionTable.ofRecords (records ++ [⟨k, exclusion⟩]) version).entry k' =
          if digits.map Char.toLower = digits'.map Char.toLower then exclusion
          else (ExclusionTable.ofRecords records version).entry k' := by
  refine ⟨fun k => ofHex_eq_ok_iff_grammar, fun e => ofHex_eq_error_iff, ofHex_toHex,
    fun s' k k' digits digits' => eq_iff_of_ofHex, ?records⟩
  case records =>
    intro s' k k' digits digits' exclusion records version read read' strips strips'
    have spelt : ofHex s = .ok k := Wire.asKey_string.1 read
    rw [ExclusionTable.entry_ofRecords_append]
    by_cases same : digits.map Char.toLower = digits'.map Char.toLower
    · rw [if_pos same, if_pos ((eq_iff_of_ofHex spelt read' strips strips').2 same)]
    · rw [if_neg same, if_neg fun equal => same ((eq_iff_of_ofHex spelt read' strips strips').1 equal)]

/-- Blanks of any width, and digits in both cases. -/
example : (ofHex " 0XaBcD\u2003" : Except Error (FixedBytes 2)) = .ok ⟨[0xab, 0xcd], rfl⟩ := by
  decide +kernel

end FixedBytes

end Registrar
