import Registrar.Proofs.Tiling
import Mathlib.Algebra.Order.Floor.Div

/-! Chunks that are cut in machine words. A chunk ends where its start and the width add up to, unless
the list ends before; so the sum is formed for the last chunk too, and can lie far behind the list. For a
list of less than 2^63 items it still fits a word, whatever the width: then the words are the chunks of
the numbers, which tile the list and are all full but the last. -/
namespace Registrar
set_option autoImplicit false

/-! ## Chunks of numbers -/

section

variable {length max width i : Nat} {r : IndexRange}

theorem length_chunkRanges_ceilDiv (length max : Nat) :
    (chunkRanges length max).length = length ⌈/⌉ Nat.max max 1 := by
  rw [length_chunkRanges, Nat.ceilDiv_eq_add_pred_div]

/-- A chunk begins inside the list. -/
theorem start_lt_of_lt_ceilDiv (pos : 0 < width) (h : i < length ⌈/⌉ width) :
    i * width < length := by
  rw [← not_le] at h ⊢
  rwa [ceilDiv_le_iff_le_smul pos, smul_eq_mul, Nat.mul_comm] at h

theorem length_of_mem_dropLast_chunkRanges (hr : r ∈ (chunkRanges length max).dropLast) :
    r.length = Nat.max max 1 := by
  have pos : 0 < Nat.max max 1 := Nat.le_max_right max 1
  rw [chunkRanges, ← Nat.ceilDiv_eq_add_pred_div] at hr
  generalize Nat.max max 1 = width at pos hr ⊢
  cases count : length ⌈/⌉ width with
  | zero =>
    rw [count] at hr
    cases hr
  | succ others =>
    rw [count, List.range_succ, List.map_append, List.map_singleton, List.dropLast_concat] at hr
    obtain ⟨i, hi, rfl⟩ := List.mem_map.1 hr
    -- The next chunk begins inside the list, so this one is not cut off.
    have next : i + 1 < length ⌈/⌉ width := by
      rw [count]
      exact Nat.succ_lt_succ (List.mem_range.1 hi)
    have inside : i * width + width < length := by
      rw [← Nat.succ_mul]
      exact start_lt_of_lt_ceilDiv pos next
    have whole : Nat.min (i * width + width) length = i * width + width := Nat.min_eq_left inside.le
    rw [IndexRange.length, whole]
    exact Nat.add_sub_cancel_left ..

/-- Rounded up to whole chunks, a length below 2^63 is still a word: the last chunk begins at zero, or it
begins no earlier than the width and both lie in the list. -/
theorem ceilDiv_mul_lt (short : length ≤ 2 ^ 63 - 1) (word : width < 2 ^ 64) (pos : 0 < width) :
    (length ⌈/⌉ width) * width < 2 ^ 64 := by
  cases count : length ⌈/⌉ width with
  | zero => omega
  | succ i =>
    have inside : i * width < length := start_lt_of_lt_ceilDiv pos (by omega)
    cases i with
    | zero => omega
    | succ i =>
      rw [Nat.succ_mul] at inside
      rw [Nat.succ_mul, Nat.succ_mul]
      omega

end

/-! ## Chunks of words -/

structure WordRange where
  start : UInt64
  stop : UInt64
deriving DecidableEq

def WordRange.toRange (r : WordRange) : IndexRange :=
  ⟨r.start.toNat, r.stop.toNat⟩

/-- The sum of two words, unless it wraps around. -/
def wordSum? (a b : UInt64) : Option UInt64 :=
  if a.toNat + b.toNat < UInt64.size then some (a + b) else none

theorem toNat_of_wordSum? {a b c : UInt64} (h : wordSum? a b = some c) :
    c.toNat = a.toNat + b.toNat := by
  unfold wordSum? at h
  split at h
  · rename_i fits
    cases h
    rw [UInt64.toNat_add]
    exact Nat.mod_eq_of_lt fits
  · cases h

theorem wordSum?_eq_none_iff {a b : UInt64} :
    wordSum? a b = none ↔ 2 ^ 64 ≤ a.toNat + b.toNat := by
  have size : UInt64.size = 2 ^ 64 := rfl
  unfold wordSum?
  split
  · simp
    omega
  · simp
    omega

theorem toNat_width (limit : UInt64) : (max limit 1).toNat = Nat.max limit.toNat 1 :=
  UInt64.toNat_max limit 1

/-- The chunks from `start` on, unless a sum wraps around. -/
def wordChunksFrom? (length limit start : UInt64) : Option (List WordRange) :=
  if start < length then
    match _ : wordSum? start (max limit 1) with
    | none => none
    | some next => (wordChunksFrom? length limit next).map (⟨start, min next length⟩ :: ·)
  else some []
termination_by length.toNat - start.toNat
decreasing_by
  rename_i below sum
  have total := toNat_of_wordSum? sum
  have pos : 0 < (max limit 1).toNat := by
    rw [toNat_width]
    exact Nat.le_max_right ..
  have inside := UInt64.lt_iff_toNat_lt.1 below
  omega

/-- Consecutive ranges over `length` indices, all but perhaps the last of `limit` indices, with each sum
of words checked. A `limit` of zero counts as one. -/
def wordChunks? (length limit : UInt64) : Option (List WordRange) :=
  wordChunksFrom? length limit 0

variable {length limit start next : UInt64}

theorem wordChunksFrom?_step (below : start < length)
    (sum : wordSum? start (max limit 1) = some next) :
    wordChunksFrom? length limit start =
      (wordChunksFrom? length limit next).map (⟨start, min next length⟩ :: ·) := by
  rw [wordChunksFrom?, if_pos below]
  split
  · rename_i wraps
    rw [sum] at wraps
    cases wraps
  · rename_i next' sum'
    rw [sum] at sum'
    cases sum'
    rfl

theorem wordChunksFrom?_wraps (below : start < length)
    (wraps : wordSum? start (max limit 1) = none) : wordChunksFrom? length limit start = none := by
  rw [wordChunksFrom?, if_pos below]
  split
  · rfl
  · rename_i sum
    rw [wraps] at sum
    cases sum

theorem wordChunksFrom?_done (behind : length ≤ start) :
    wordChunksFrom? length limit start = some [] := by
  rw [wordChunksFrom?, if_neg (UInt64.not_lt.2 behind)]

section

variable {width left i : Nat}

theorem start_lt_of_left (pos : 0 < width) (count : i + (left + 1) = length.toNat ⌈/⌉ width)
    (hstart : start.toNat = i * width) : start < length := by
  rw [UInt64.lt_iff_toNat_lt, hstart]
  exact start_lt_of_lt_ceilDiv pos (by omega)

/-- From the start of a chunk on, the words are the chunks that are left, as long as the end of the last
one is a word. -/
theorem wordChunksFrom?_eq_some (hwidth : (max limit 1).toNat = width) (pos : 0 < width)
    (fits : (length.toNat ⌈/⌉ width) * width < 2 ^ 64)
    (count : i + left = length.toNat ⌈/⌉ width) (hstart : start.toNat = i * width) :
    ∃ words, wordChunksFrom? length limit start = some words ∧
      words.map WordRange.toRange = (List.range' i left).map fun j =>
        ⟨j * width, Nat.min (j * width + width) length.toNat⟩ := by
  induction left generalizing i start with
  | zero =>
    refine ⟨[], wordChunksFrom?_done ?_, rfl⟩
    rw [UInt64.le_iff_toNat_le, hstart]
    have reached : length.toNat ≤ width • (length.toNat ⌈/⌉ width) := le_smul_ceilDiv pos
    rwa [← count, smul_eq_mul, Nat.mul_comm] at reached
  | succ left ih =>
    have below : start < length := start_lt_of_left pos count hstart
    -- This chunk is not behind the last one, so its end is a word as well.
    have upTo : (i + 1) * width ≤ (length.toNat ⌈/⌉ width) * width :=
      Nat.mul_le_mul_right width (by omega)
    rw [Nat.succ_mul] at upTo
    cases sum : wordSum? start (max limit 1) with
    | none =>
      rw [wordSum?_eq_none_iff, hstart, hwidth] at sum
      omega
    | some next =>
      have hnext : next.toNat = i * width + width := by rw [toNat_of_wordSum? sum, hstart, hwidth]
      obtain ⟨others, rest, same⟩ := ih (i := i + 1) (by omega) (by rw [hnext, Nat.succ_mul])
      refine ⟨⟨start, min next length⟩ :: others, ?_, ?_⟩
      · rw [wordChunksFrom?_step below sum, rest, Option.map_some]
      · rw [List.map_cons, same, List.range'_succ, List.map_cons, WordRange.toRange, hstart,
          UInt64.toNat_min, hnext]

/-- From the start of a chunk on, a sum wraps around if the end of the last one is no word. -/
theorem wordChunksFrom?_eq_none (hwidth : (max limit 1).toNat = width) (pos : 0 < width)
    (beyond : 2 ^ 64 ≤ (length.toNat ⌈/⌉ width) * width)
    (count : i + (left + 1) = length.toNat ⌈/⌉ width) (hstart : start.toNat = i * width) :
    wordChunksFrom? length limit start = none := by
  induction left generalizing i start with
  | zero =>
    have below : start < length := start_lt_of_left pos count hstart
    refine wordChunksFrom?_wraps below ?_
    rw [← count, Nat.zero_add, Nat.succ_mul] at beyond
    rwa [wordSum?_eq_none_iff, hstart, hwidth]
  | succ left ih =>
    have below : start < length := start_lt_of_left pos count hstart
    cases sum : wordSum? start (max limit 1) with
    | none => exact wordChunksFrom?_wraps below sum
    | some next =>
      have hnext : next.toNat = (i + 1) * width := by
        rw [toNat_of_wordSum? sum, hstart, hwidth, Nat.succ_mul]
      rw [wordChunksFrom?_step below sum, ih (by omega) hnext, Option.map_none]

end

/-- Some sum of words wraps around exactly when the length, rounded up to whole chunks, is no word. -/
theorem wordChunks?_eq_none_iff : wordChunks? length limit = none ↔
    2 ^ 64 ≤ (length.toNat ⌈/⌉ Nat.max limit.toNat 1) * Nat.max limit.toNat 1 := by
  have hwidth := toNat_width limit
  have pos : 0 < Nat.max limit.toNat 1 := Nat.le_max_right ..
  generalize Nat.max limit.toNat 1 = width at hwidth pos ⊢
  constructor
  · intro wraps
    by_contra fits
    have first : (0 : UInt64).toNat = 0 * width := (Nat.zero_mul width).symm
    obtain ⟨words, cut, -⟩ := wordChunksFrom?_eq_some hwidth pos (not_le.1 fits) (Nat.zero_add _)
      first
    rw [wordChunks?, cut] at wraps
    cases wraps
  · intro beyond
    cases count : length.toNat ⌈/⌉ width with
    | zero =>
      rw [count] at beyond
      omega
    | succ left =>
      exact wordChunksFrom?_eq_none hwidth pos beyond (by rw [Nat.zero_add, count])
        (Nat.zero_mul _).symm

/-- Three items more than 2^63 - 1, and the end of the second chunk can wrap around. -/
example : wordChunks? 9223372036854775810 9223372036854775809 = none :=
  wordChunks?_eq_none_iff.2 (by decide)

/-- In a list of less than 2^63 items no sum of words wraps around, whatever the limit. The words are
the chunks of the numbers: they tile the list, there are as many as the length divided by the width and
rounded up, and each of them but the last is as long as the width. -/
theorem wordChunks_tile (limit : UInt64) (short : length.toNat ≤ 2 ^ 63 - 1) :
    ∃ words, wordChunks? length limit = some words ∧
      words.map WordRange.toRange = chunkRanges length.toNat limit.toNat ∧
      Tiles 0 length.toNat (words.map WordRange.toRange) ∧
      words.length = length.toNat ⌈/⌉ Nat.max limit.toNat 1 ∧
      ∀ r ∈ words.dropLast, r.toRange.length = Nat.max limit.toNat 1 := by
  have hwidth := toNat_width limit
  have pos : 0 < Nat.max limit.toNat 1 := Nat.le_max_right ..
  have fits := ceilDiv_mul_lt short (hwidth ▸ (max limit 1).toNat_lt) pos
  have first : (0 : UInt64).toNat = 0 * Nat.max limit.toNat 1 := (Nat.zero_mul _).symm
  obtain ⟨words, cut, same⟩ := wordChunksFrom?_eq_some hwidth pos fits (Nat.zero_add _) first
  have numbers : words.map WordRange.toRange = chunkRanges length.toNat limit.toNat := by
    rw [same, Nat.ceilDiv_eq_add_pred_div, ← List.range_eq_range']
    rfl
  refine ⟨words, cut, numbers, ?tiles, ?count, ?full⟩
  case tiles =>
    rw [numbers]
    exact tiles_chunkRanges ..
  case count =>
    rw [← List.length_map, numbers, length_chunkRanges_ceilDiv]
  case full =>
    intro r hr
    have chunk : r.toRange ∈ (chunkRanges length.toNat limit.toNat).dropLast := by
      rw [← numbers, ← List.map_dropLast]
      exact List.mem_map_of_mem hr
    exact length_of_mem_dropLast_chunkRanges chunk

/-- The longest list in chunks of all its items but one: the end of the second chunk adds up to
2^64 - 4. -/
theorem wordChunks_tile_longest :
    (9223372036854775807 : UInt64).toNat ≤ 2 ^ 63 - 1 ∧
      ∃ words, wordChunks? 9223372036854775807 9223372036854775806 = some words ∧
        words.map WordRange.toRange =
          [⟨0, 9223372036854775806⟩, ⟨9223372036854775806, 9223372036854775807⟩] := by
  have short : (9223372036854775807 : UInt64).toNat ≤ 2 ^ 63 - 1 := by decide
  obtain ⟨words, cut, numbers, -⟩ := wordChunks_tile 9223372036854775806 short
  exact ⟨short, words, cut, numbers⟩

end Registrar
