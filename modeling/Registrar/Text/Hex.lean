import Registrar.Text.Blank

/-! Hexadecimal text. Writing uses lower case; reading takes either case, looks at the bytes of the
text's UTF-8 form, and reports an odd length before the first byte that is no digit. -/
namespace Registrar.Text
set_option autoImplicit false

/-! ## Digits -/

/-- The digit of a value below sixteen, in lower case. -/
def hexChar (n : Nat) : Char :=
  if n < 10 then Char.ofNat (48 + n) else Char.ofNat (87 + n)

/-- The value of a hexadecimal digit given as a code point. -/
def hexValue? (n : Nat) : Option Nat :=
  if 48 ≤ n && n ≤ 57 then some (n - 48)
  else if 97 ≤ n && n ≤ 102 then some (n - 87)
  else if 65 ≤ n && n ≤ 70 then some (n - 55)
  else none

def utf8 (cs : List Char) : List UInt8 :=
  cs.flatMap String.utf8EncodeChar

/-! ## Bytes in messages -/

/-- A byte as the Latin letter or mark of that number between apostrophes. Control characters, the
blank and the hyphen that do not show, apostrophes and backslashes are escaped. -/
def shownByte (b : UInt8) : String :=
  let n := b.toNat
  let body :=
    if n = 0x00 then ['\\', '0']
    else if n = 0x09 then ['\\', 't']
    else if n = 0x0a then ['\\', 'n']
    else if n = 0x0d then ['\\', 'r']
    else if n = 0x27 then ['\\', '\x27']
    else if n = 0x5c then ['\\', '\\']
    else if n < 0x20 || (0x7f ≤ n && n ≤ 0xa0) || n = 0xad then
      ['\\', 'u', '\x7b'] ++ Nat.toDigits 16 n ++ ['\x7d']
    else [Char.ofNat n]
  String.ofList (['\x27'] ++ body ++ ['\x27'])

namespace Hex

inductive Fault where
  | oddLength
  | badCharacter (byte : UInt8) (index : Nat)
deriving DecidableEq, Repr

def Fault.message : Fault → String
  | .oddLength => "Odd number of digits"
  | .badCharacter b i => "Invalid character " ++ shownByte b ++ " at position " ++ toString i

/-! ## Writing -/

def encodeByte (b : UInt8) : List Char :=
  [hexChar (b.toNat / 16), hexChar (b.toNat % 16)]

def encode (bytes : List UInt8) : List Char :=
  bytes.flatMap encodeByte

/-! ## Reading -/

/-- Drops the blanks at both ends and then one `0x` or `0X`. -/
def strip (cs : List Char) : List Char :=
  match trim cs with
  | '0' :: 'x' :: r => r
  | '0' :: 'X' :: r => r
  | r => r

/-- Reads pairs of digits; `index` is the place of the first byte in the whole text. -/
def decodePairs : Nat → List UInt8 → Except Fault (List UInt8)
  | _, [] => .ok []
  | _, [_] => .error .oddLength
  | index, a :: b :: r =>
    match hexValue? a.toNat with
    | none => .error (.badCharacter a index)
    | some hi =>
      match hexValue? b.toNat with
      | none => .error (.badCharacter b (index + 1))
      | some lo =>
        match decodePairs (index + 2) r with
        | .error e => .error e
        | .ok rest => .ok (UInt8.ofNat (16 * hi + lo) :: rest)

/-- Reads a text of digits alone, without blanks and without `0x`. -/
def decodeDigits (digits : List UInt8) : Except Fault (List UInt8) :=
  if digits.length % 2 = 1 then .error .oddLength else decodePairs 0 digits

/-- Reads a text that may be surrounded by blanks and may open with `0x`. -/
def decode (cs : List Char) : Except Fault (List UInt8) :=
  decodeDigits (utf8 (strip cs))

end Hex

def hexText (bytes : List UInt8) : String :=
  String.ofList ('0' :: 'x' :: Hex.encode bytes)

end Registrar.Text
