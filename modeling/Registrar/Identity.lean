import Registrar.Bytes
import Registrar.Error

/-! The validator's public key, by which both authorities know it, its signatures, and the
representative's signature. -/
namespace Registrar
set_option autoImplicit false

/-! ## Keys and signatures read from text -/

def decodeHex (s : String) : Except Error Bytes :=
  match Text.Hex.decode s.toList with
  | .ok bytes => .ok bytes
  | .error e => .error (.encoding ("hex decode error: " ++ e.message))

namespace FixedBytes

variable {n : Nat}

def ofHex (s : String) : Except Error (FixedBytes n) :=
  match decodeHex s with
  | .error e => .error e
  | .ok bytes =>
    match ofBytes? bytes with
    | some x => .ok x
    | none =>
      .error (.encoding ("expected " ++ toString n ++ " bytes, got " ++ toString bytes.length))

/-- Takes exactly `n` bytes; `kind` names what they are in the message. -/
def ofSlice (kind : String) (bytes : Bytes) : Except Error (FixedBytes n) :=
  match ofBytes? bytes with
  | some x => .ok x
  | none =>
    .error (.encoding (kind ++ " expects " ++ toString n ++ " bytes, got " ++ toString bytes.length))

end FixedBytes

/-- A validator's BLS public key. -/
abbrev PublicKey := FixedBytes 48

abbrev BlsSignature := FixedBytes 96

namespace PublicKey

def kind : String := "BlsPublicKey"

end PublicKey

namespace BlsSignature

def kind : String := "BlsSignature"

end BlsSignature

/-! ## The representative's signature -/

/-- An ECDSA signature in the layout that the delegation ledger takes. -/
structure EcdsaSignature where
  v : UInt8
  r : Word
  s : Word
deriving DecidableEq

namespace EcdsaSignature

/-- Reads `r`, `s` and `v` from 65 bytes; a `v` of 0 or 1 counts as 27 or 28. -/
def ofBytes (bytes : Bytes) : Except Error EcdsaSignature :=
  match bytes.drop 64 with
  | [v] =>
    .ok
      { v := if v = 0 || v = 1 then v + 27 else v
        r := .ofNat (natOfBytes (bytes.take 32))
        s := .ofNat (natOfBytes ((bytes.drop 32).take 32)) }
  | _ =>
    .error (.encoding ("ecdsa signature expects 65 bytes, got " ++ toString bytes.length))

end EcdsaSignature

end Registrar
