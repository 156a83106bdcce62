import Registrar.Crypto.Secp256k1

/-! Account addresses: the form with checksum, reading from text, and the address of a key. -/
namespace Registrar
set_option autoImplicit false

abbrev Address := FixedBytes 20

namespace Address

/-! ## Form with checksum -/

/-- Whether the `i`th digit of the form is upper case, by the `i`th half byte of a hash. -/
def raises (hash : Bytes) (i : Nat) : Bool :=
  let b := (hash.getD (i / 2) 0).toNat
  8 ≤ if i % 2 = 0 then b / 16 else b % 16

/-- The form in which letters are upper case where the hash of the lower-case form says so. -/
def checksummed (a : Address) : String :=
  let digits := Text.Hex.encode a.bytes
  let hash := (Crypto.keccak256 (Text.utf8 digits)).bytes
  String.ofList ('0' :: 'x' :: digits.mapIdx fun i c => if raises hash i then c.toUpper else c)

/-! ## Reading -/

inductive Fault where
  | oddLength
  | wrongLength
  | badCharacter (byte : UInt8) (index : Nat)
deriving DecidableEq, Repr

def Fault.message : Fault → String
  | .oddLength => "odd number of digits"
  | .wrongLength => "invalid string length"
  | .badCharacter b i =>
    "invalid character " ++ Text.shownByte b ++ " at position " ++ toString i

def dropMark : List Char → List Char
  | '0' :: 'x' :: r => r
  | '0' :: 'X' :: r => r
  | r => r

/-- Reads 40 digits after an optional `0x` or `0X`; the checksum is not looked at. -/
def ofText (cs : List Char) : Except Fault Address :=
  let digits := Text.utf8 (dropMark cs)
  if digits.length % 2 = 1 then .error .oddLength
  else if digits.length ≠ 40 then .error .wrongLength
  else
    match Text.Hex.decodePairs 0 digits with
    | .error (.badCharacter b i) => .error (.badCharacter b i)
    | .error .oddLength => .error .oddLength
    | .ok bytes =>
      match FixedBytes.ofBytes? bytes with
      | some a => .ok a
      | none => .error .wrongLength

/-! ## Accounts -/

def ofKey (key : Crypto.Secp256k1.PrivateKey) : Address :=
  .ofNat (Crypto.keccak256 key.publicBytes).toNat

end Address

end Registrar
