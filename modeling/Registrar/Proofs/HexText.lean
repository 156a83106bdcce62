import Registrar.Proofs.Bytes
import Registrar.Proofs.Numerals

/-! Bytes written in hexadecimal digits are read back: by the reader that allows for blanks around
the text, and by the one that does not. -/
namespace Registrar
set_option autoImplicit false

namespace Text

/-! ## Digits -/

/-- A digit takes one byte, and that byte has the digit's value. -/
theorem hexChar_props {n : Nat} (h : n < 16) :
    String.utf8EncodeChar (hexChar n) = [UInt8.ofNat (hexChar n).toNat] ∧
      hexValue? (UInt8.ofNat (hexChar n).toNat).toNat = some n ∧ isBlank (hexChar n) = false := by
  revert n
  decide

namespace Hex

def digitBytes (bytes : Bytes) : Bytes :=
  bytes.flatMap fun b =>
    [UInt8.ofNat (hexChar (b.toNat / 16)).toNat, UInt8.ofNat (hexChar (b.toNat % 16)).toNat]

theorem halves_lt (b : UInt8) : b.toNat / 16 < 16 ∧ b.toNat % 16 < 16 := by
  have small := b.toNat_lt
  omega

theorem utf8_encode (bytes : Bytes) : utf8 (encode bytes) = digitBytes bytes := by
  induction bytes with
  | nil => rfl
  | cons b rest ih =>
    obtain ⟨high, low⟩ := halves_lt b
    have first : utf8 (encodeByte b) = [UInt8.ofNat (hexChar (b.toNat / 16)).toNat,
        UInt8.ofNat (hexChar (b.toNat % 16)).toNat] := by
      simp [utf8, encodeByte, (hexChar_props high).1, (hexChar_props low).1]
    have split : utf8 (encode (b :: rest)) = utf8 (encodeByte b) ++ utf8 (encode rest) := by
      simp only [utf8, encode, List.flatMap_cons, List.flatMap_append]
    rw [split, first, ih, digitBytes, digitBytes, List.flatMap_cons]

theorem length_digitBytes (bytes : Bytes) : (digitBytes bytes).length = 2 * bytes.length := by
  induction bytes with
  | nil => rfl
  | cons b rest ih =>
    rw [digitBytes, List.flatMap_cons, ← digitBytes, List.length_append, ih]
    simp only [List.length_cons, List.length_nil]
    omega

theorem decodePairs_pair {index x y : Nat} {a b : UInt8} (hx : hexValue? a.toNat = some x)
    (hy : hexValue? b.toNat = some y) (rest : Bytes) :
    decodePairs index (a :: b :: rest) =
      (decodePairs (index + 2) rest).map (UInt8.ofNat (16 * x + y) :: ·) := by
  rw [decodePairs, hx]
  dsimp only
  rw [hy]
  cases decodePairs (index + 2) rest <;> rfl

theorem decodePairs_digitBytes (index : Nat) (bytes : Bytes) :
    decodePairs index (digitBytes bytes) = .ok bytes := by
  induction bytes generalizing index with
  | nil => rfl
  | cons b rest ih =>
    obtain ⟨high, low⟩ := halves_lt b
    have whole : 16 * (b.toNat / 16) + b.toNat % 16 = b.toNat := by omega
    have first := (hexChar_props high).2.1
    have second := (hexChar_props low).2.1
    rw [digitBytes, List.flatMap_cons, ← digitBytes, List.cons_append, List.singleton_append,
      decodePairs_pair first second, ih, whole, UInt8.ofNat_toNat]
    rfl

theorem decodeDigits_encode (bytes : Bytes) : decodeDigits (utf8 (encode bytes)) = .ok bytes := by
  have even : ¬(digitBytes bytes).length % 2 = 1 := by
    rw [length_digitBytes]
    omega
  rw [utf8_encode, decodeDigits, if_neg even, decodePairs_digitBytes]

theorem isBlank_encode {bytes : Bytes} {c : Char} (h : c ∈ encode bytes) : isBlank c = false := by
  obtain ⟨b, -, hc⟩ := List.mem_flatMap.1 h
  obtain ⟨high, low⟩ := halves_lt b
  simp only [encodeByte, List.mem_cons, List.not_mem_nil, or_false] at hc
  obtain rfl | rfl := hc
  · exact (hexChar_props high).2.2
  · exact (hexChar_props low).2.2

theorem decode_hexText (bytes : Bytes) : decode (hexText bytes).toList = .ok bytes := by
  have solid : trim ('0' :: 'x' :: encode bytes) = '0' :: 'x' :: encode bytes := by
    refine trim_of_nonblank fun c hc => ?_
    simp only [List.mem_cons] at hc
    obtain rfl | rfl | hc := hc
    · decide
    · decide
    · exact isBlank_encode hc
  rw [hexText, String.toList_ofList, decode, strip, solid]
  exact decodeDigits_encode bytes

end Hex

end Text

/-! ## Bytes of a fixed length -/

namespace FixedBytes

variable {n : Nat}

theorem ofHex_toHex (x : FixedBytes n) : ofHex x.toHex = .ok x := by
  rw [ofHex, decodeHex, toHex, Text.Hex.decode_hexText]
  dsimp only
  rw [ofBytes?_bytes]

end FixedBytes

namespace Wire

variable {n : Nat}

theorem asKey_string {s : String} {x : FixedBytes n} :
    asKey (.string s) = .ok x ↔ FixedBytes.ofHex s = .ok x := by
  rw [asKey, Json.asString]
  dsimp only
  cases FixedBytes.ofHex (n := n) s with
  | ok k => simp
  | error e => simp

theorem asKey_hexJson (x : FixedBytes n) : asKey (hexJson x) = .ok x :=
  asKey_string.2 x.ofHex_toHex

theorem asBytesUnless_hexJson (isPassed : Json → Bool) (x : FixedBytes n) :
    asBytesUnless isPassed (hexJson x) = .ok x := by
  have marked : Address.dropMark x.toHex.toList = Text.Hex.encode x.bytes := by
    rw [FixedBytes.toHex, Text.hexText, String.toList_ofList]
    rfl
  rw [hexJson, asBytesUnless, readMarked, marked, Text.Hex.decodeDigits_encode]
  dsimp only
  rw [FixedBytes.ofBytes?_bytes]

end Wire

end Registrar
