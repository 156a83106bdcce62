import Registrar.Address
import Registrar.Rlp

/-! Transactions with a fee cap and a tip, their signing, and their raw form. -/
namespace Registrar
set_option autoImplicit false

/-- A call of a contract without value and without access list. -/
structure Transaction where
  chainId : UInt64
  nonce : UInt64
  gasLimit : UInt64
  maxFeePerGas : Nat
  maxPriorityFeePerGas : Nat
  target : Address
  input : Bytes
deriving DecidableEq

namespace Transaction

/-- The byte that marks this form of transaction. -/
def typeByte : UInt8 := 2

def items (t : Transaction) : List Rlp.Item :=
  [.ofNat t.chainId.toNat, .ofNat t.nonce.toNat, .ofNat t.maxPriorityFeePerGas,
    .ofNat t.maxFeePerGas, .ofNat t.gasLimit.toNat, .string t.target.bytes, .ofNat 0,
    .string t.input, .list []]

def signingHash (t : Transaction) : Word :=
  Crypto.keccak256 (typeByte :: (Rlp.Item.list t.items).encode)

def rawWith (t : Transaction) (s : Crypto.Secp256k1.Signature) : Bytes :=
  typeByte ::
    (Rlp.Item.list
      (t.items ++ [.ofNat (if s.yOdd then 1 else 0), .ofNat s.r, .ofNat s.s])).encode

def sign? (t : Transaction) (key : Crypto.Secp256k1.PrivateKey) : Option Bytes :=
  (Crypto.Secp256k1.sign? key t.signingHash).map t.rawWith

/-- The hash of a raw form, by which the transaction is known. -/
def hashRaw (raw : Bytes) : Word :=
  Crypto.keccak256 raw

/-- The transaction in a raw form; the signature is not looked at. -/
def ofRaw? : Bytes → Option Transaction
  | [] => none
  | mark :: body =>
    if mark ≠ typeByte then none
    else
      match Rlp.decode? body with
      | some (.list [.string chainId, .string nonce, .string tip, .string maxFee, .string gas,
          .string target, .string _, .string input, .list [], .string _, .string _, .string _]) =>
        (FixedBytes.ofBytes? target).map fun target =>
          { chainId := .ofNat (natOfBytes chainId)
            nonce := .ofNat (natOfBytes nonce)
            gasLimit := .ofNat (natOfBytes gas)
            maxFeePerGas := natOfBytes maxFee
            maxPriorityFeePerGas := natOfBytes tip
            target, input }
      | _ => none

end Transaction

end Registrar
