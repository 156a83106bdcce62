import Registrar.Address
import Registrar.Identity
import Registrar.Json.Decode

/-! Keys, addresses, hashes and numbers as JSON. -/
namespace Registrar.Wire
set_option autoImplicit false

open Json (Decoder)

variable {n : Nat}

/-! ## Keys and BLS signatures -/

/-- Keys and BLS signatures are texts in the form that `FixedBytes.ofHex` reads. -/
def asKey : Decoder (FixedBytes n) := fun v =>
  match Json.asString v with
  | .error e => .error e
  | .ok s =>
    match FixedBytes.ofHex s with
    | .ok k => .ok k
    | .error _ => .error .shape

/-! ## Addresses and hashes -/

/-- Digits behind an optional `0x` or `0X`, without blanks. -/
def readMarked (cs : List Char) : Option (FixedBytes n) :=
  match Text.Hex.decodeDigits (Text.utf8 (Address.dropMark cs)) with
  | .ok bytes => FixedBytes.ofBytes? bytes
  | .error _ => none

/-- A reader that looks for a byte too many and finds this value instead comes to rest behind it, or,
at a gap, where the array closes. -/
def isPassedOver : Json → Bool
  | .null | .bool _ | .string _ | .unpaired true | .gap => true
  | .number digits => !Json.isLeftEarly digits
  | _ => false

/-- Judges what stands behind the last byte of an array: one more byte is too many, and one value that
is no byte is passed over if the reader gets behind it. -/
def checkEnd (isPassed : Json → Bool) : List Json → Except Json.Fault Unit
  | [] => .ok ()
  | v :: rest =>
    match Json.asByte v with
    | .ok _ => .error .shape
    | .error _ => if isPassed v && rest.isEmpty then .ok () else .error .syntactic

/-- Reads an array of exactly `n` bytes. -/
def readItems (isPassed : Json → Bool) (items : List Json) : Except Json.Fault (FixedBytes n) :=
  match (items.take n).mapM Json.asByte with
  | .error e => .error e
  | .ok bytes =>
    match FixedBytes.ofBytes? bytes, checkEnd isPassed (items.drop n) with
    | none, _ => .error .shape
    | some _, .error e => .error e
    | some x, .ok () => .ok x

/-- Addresses and hashes are texts of digits or arrays of bytes. -/
def asBytesUnless (isPassed : Json → Bool) : Decoder (FixedBytes n)
  | .string s =>
    match readMarked s.toList with
    | some x => .ok x
    | none => .error .shape
  | .array items => readItems isPassed items
  | v => .error v.mismatch

/-- Addresses and hashes read from the text. -/
def asBytes : Decoder (FixedBytes n) :=
  asBytesUnless isPassedOver

/-- Addresses and hashes in a value that was kept whole, where any value can be passed over. -/
def asKeptBytes : Decoder (FixedBytes n) :=
  asBytesUnless fun _ => true

def hexJson (x : FixedBytes n) : Json :=
  .string x.toHex

/-! ## Numbers -/

/-- A number as a text of decimal digits, blanks and a plus sign in front allowed, or as a bare JSON
number. -/
def asQuotedWord64 : Decoder UInt64 := fun v =>
  match Json.retained v with
  | .error e => .error e
  | .ok (.string s) =>
    match Text.word64? (Text.trim s.toList) with
    | some w => .ok w
    | none => .error .shape
  | .ok (.number digits) =>
    match Text.decimal? digits.toList with
    | some k => if k ≤ Text.maxWord64 then .ok (.ofNat k) else .error .shape
    | none => .error .shape
  | .ok _ => .error .shape

def ofQuotedWord64 (w : UInt64) : Json :=
  .string (toString w.toNat)

def ofWord64 (w : UInt64) : Json :=
  .ofNat w.toNat

/-- A balance as a text in one of the bases of `Text.word256?`, or as a bare number of 64 bits. -/
def asBalance : Decoder (BitVec 256)
  | .string s =>
    match Text.word256? s.toList with
    | some b => .ok b
    | none => .error .shape
  | v => (Json.asNat Text.maxWord64 v).map (BitVec.ofNat 256)

def ofBalance (b : BitVec 256) : Json :=
  .string (Text.minimalHex b.toNat)

end Registrar.Wire
