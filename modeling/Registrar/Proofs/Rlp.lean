import Registrar.Transaction
import Registrar.Proofs.Bytes

/-! What is encoded by recursive lengths is read back, and so is a transaction from its raw form. -/
namespace Registrar
set_option autoImplicit false

namespace Rlp

/-! ## Lengths -/

/-- A mark tells the length, and whether it is the length of a string or of a list. -/
theorem lengthMark_read {base length : Nat} (room : base + 64 ≤ 256) (h : length < 2 ^ 64)
    (rest : Bytes) :
    ∃ mark tail, lengthMark base length ++ rest = mark :: tail ∧ base ≤ mark.toNat ∧
      mark.toNat < base + 64 ∧ readLength? base mark.toNat tail = some (length, rest) := by
  unfold lengthMark
  by_cases short : length < 56
  · have mark : (UInt8.ofNat (base + length)).toNat = base + length := by
      rw [UInt8.toNat_ofNat']
      omega
    refine ⟨UInt8.ofNat (base + length), rest, by rw [if_pos short]; rfl, by omega, by omega, ?_⟩
    rw [readLength?, mark, if_pos (by omega)]
    congr
    omega
  · have most := length_minimalBytes_le h
    have least : 0 < (minimalBytes length).length :=
      List.length_pos_iff.2 (minimalBytes_ne_nil (by omega))
    have mark : (UInt8.ofNat (base + 55 + (minimalBytes length).length)).toNat =
        base + 55 + (minimalBytes length).length := by
      rw [UInt8.toNat_ofNat']
      omega
    refine ⟨UInt8.ofNat (base + 55 + (minimalBytes length).length), minimalBytes length ++ rest,
      by rw [if_neg short]; rfl, by omega, by omega, ?_⟩
    have digits : base + 55 + (minimalBytes length).length - base - 55 =
        (minimalBytes length).length := by omega
    rw [readLength?, mark, if_neg (by omega), digits, List.take_left, List.drop_left, if_pos rfl,
      natOfBytes_minimalBytes]

theorem lengthMark_ne_nil (base length : Nat) : lengthMark base length ≠ [] := by
  unfold lengthMark
  split <;> exact List.cons_ne_nil _ _

/-! ## Items -/

theorem Item.length_encode_pos (i : Item) : 0 < i.encode.length := by
  refine List.length_pos_iff.2 ?_
  cases i with
  | string b =>
    rw [Item.encode]
    unfold encodeString
    split
    · split
      · exact List.cons_ne_nil _ _
      · exact List.append_ne_nil_of_left_ne_nil (lengthMark_ne_nil _ _) _
    · exact List.append_ne_nil_of_left_ne_nil (lengthMark_ne_nil _ _) _
  | list items =>
    rw [Item.encode]
    exact List.append_ne_nil_of_left_ne_nil (lengthMark_ne_nil _ _) _

theorem length_le_encodeString (b : Bytes) : b.length ≤ (encodeString b).length := by
  unfold encodeString
  split
  · split <;> simp
  · simp

theorem readItem?_encodeString {b : Bytes} (h : b.length < 2 ^ 64) (fuel : Nat) (rest : Bytes) :
    readItem? (fuel + 1) (encodeString b ++ rest) = some (.string b, rest) := by
  have marked : readItem? (fuel + 1) (lengthMark 128 b.length ++ (b ++ rest)) =
      some (.string b, rest) := by
    have room : 128 + 64 ≤ 256 := by decide
    obtain ⟨mark, tail, hmark, low, high, read⟩ := lengthMark_read room h (b ++ rest)
    have single : ¬mark < 128 := fun h => Nat.not_lt.2 low (UInt8.lt_iff_toNat_lt.1 h)
    have string : mark < 192 := UInt8.lt_iff_toNat_lt.2 high
    have enough : ¬(b ++ rest).length < b.length := by simp
    rw [hmark, readItem?, if_neg single, if_pos string, read]
    dsimp only
    rw [if_neg enough, List.take_left, List.drop_left]
  unfold encodeString
  split
  · rename_i x
    by_cases small : x < 128
    · rw [if_pos small, List.singleton_append, readItem?, if_pos small]
    · rw [if_neg small, List.append_assoc]
      exact marked
  · rw [List.append_assoc]
    exact marked

mutual

theorem readItem?_encode (i : Item) {fuel : Nat} (h : i.encode.length < 2 ^ 64)
    (hf : 2 * i.encode.length ≤ fuel + 1) (rest : Bytes) :
    readItem? fuel (i.encode ++ rest) = some (i, rest) := by
  have pos := i.length_encode_pos
  obtain _ | fuel := fuel
  · omega
  match i with
  | .string b =>
    rw [Item.encode] at h hf ⊢
    exact readItem?_encodeString (Nat.lt_of_le_of_lt (length_le_encodeString b) h) fuel rest
  | .list items =>
    have marked : 0 < (lengthMark 192 (encodeItems items).length).length :=
      List.length_pos_iff.2 (lengthMark_ne_nil _ _)
    rw [Item.encode, List.length_append] at h hf
    have room : 192 + 64 ≤ 256 := by decide
    obtain ⟨mark, tail, hmark, low, high, read⟩ :=
      lengthMark_read room (by omega : (encodeItems items).length < 2 ^ 64) (encodeItems items ++ rest)
    have single : ¬mark < 128 := fun h =>
      absurd (UInt8.lt_iff_toNat_lt.1 h) (Nat.not_lt.2 (Nat.le_trans (by decide) low))
    have string : ¬mark < 192 := fun h => Nat.not_lt.2 low (UInt8.lt_iff_toNat_lt.1 h)
    have enough : ¬(encodeItems items ++ rest).length < (encodeItems items).length := by simp
    have body : readItems? fuel (encodeItems items) = some items :=
      readItems?_encodeItems items (by omega) (by omega)
    rw [Item.encode, List.append_assoc, hmark, readItem?, if_neg single, if_neg string, read]
    dsimp only
    rw [if_neg enough, List.take_left, List.drop_left, body]
    rfl

theorem readItems?_encodeItems (items : List Item) {fuel : Nat}
    (h : (encodeItems items).length < 2 ^ 64) (hf : 2 * (encodeItems items).length ≤ fuel) :
    readItems? fuel (encodeItems items) = some items := by
  match items with
  | [] => cases fuel <;> rfl
  | i :: rest =>
    have pos := i.length_encode_pos
    rw [encodeItems, List.length_append] at h hf
    obtain _ | fuel := fuel
    · omega
    have first : readItem? fuel (i.encode ++ encodeItems rest) = some (i, encodeItems rest) :=
      readItem?_encode i (by omega) (by omega) _
    have others : readItems? fuel (encodeItems rest) = some rest :=
      readItems?_encodeItems rest (by omega) (by omega)
    rw [encodeItems]
    obtain ⟨b, tail, he⟩ := List.exists_cons_of_length_pos pos
    rw [he, List.cons_append] at first ⊢
    rw [readItems?, first]
    dsimp only
    rw [others]
    rfl

end

theorem decode?_encode {i : Item} (h : i.encode.length < 2 ^ 64) : decode? i.encode = some i := by
  have read : readItem? (2 * i.encode.length + 2) (i.encode ++ []) = some (i, []) :=
    readItem?_encode i h (by omega) []
  rw [List.append_nil] at read
  rw [decode?, read]

end Rlp

/-! ## Raw transactions -/

namespace Transaction

theorem ofRaw?_of_sign {t : Transaction} {key : Crypto.Secp256k1.PrivateKey} {raw : Bytes}
    (signed : t.sign? key = some raw) (h : raw.length < 2 ^ 64) : ofRaw? raw = some t := by
  obtain ⟨s, -, rfl⟩ := Option.map_eq_some_iff.1 signed
  unfold rawWith at h ⊢
  rw [List.length_cons] at h
  have read := Rlp.decode?_encode (Nat.lt_of_succ_lt h)
  simp only [ofRaw?, ne_eq, not_true_eq_false, if_false, read]
  simp [items, Rlp.Item.ofNat, natOfBytes_minimalBytes]

end Transaction

end Registrar
