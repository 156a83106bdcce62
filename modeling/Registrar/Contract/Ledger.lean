import Registrar.Abi.Call
import Registrar.Report

/-! The native delegation ledger: looking up one delegation, delegating a batch, claiming and
exiting. -/
namespace Registrar.Contract.Ledger
set_option autoImplicit false

open Abi

/-! ## Lookup -/

def lookup : Function :=
  ⟨"getNativeDelegation(bytes)", [.bytes]⟩

def encodeLookup (k : PublicKey) : Bytes :=
  lookup.call [.bytes k.bytes]

/-- The record of one delegation as the contract keeps it. -/
structure DelegationInfo where
  representative : Address
  payoutRecipient : Address
  status : UInt8
deriving DecidableEq

def DelegationInfo.encode (i : DelegationInfo) : Bytes :=
  encodeAll [.ofAddress i.representative, .ofAddress i.payoutRecipient, .ofNat i.status.toNat]

def DelegationInfo.decode? (data : Bytes) : Option DelegationInfo :=
  match decodeAll [.word, .word, .word] data with
  | some [representative, payout, status] => do
    some ⟨← representative.toAddress?, ← payout.toAddress?, ← status.toByte?⟩
  | _ => none

/-! ## Signatures -/

def signatureKind : Kind := .record [.word, .word, .word]

def signatureValue (s : EcdsaSignature) : Value :=
  .record [.ofNat s.v.toNat, .word s.r, .word s.s]

def signatureOf? : Value → Option EcdsaSignature
  | .record [v, r, s] => do some ⟨← v.toByte?, ← r.toWord?, ← s.toWord?⟩
  | _ => none

/-! ## Batch -/

structure Entry where
  pubkey : PublicKey
  payoutRecipient : Address
  signature : EcdsaSignature
  registeredInSameBatch : Bool
deriving DecidableEq

def batch : Function :=
  ⟨"batchNativeDelegate(bytes[],address[],(uint8,bytes32,bytes32)[],bool[])",
    [.list .bytes, .list .word, .list signatureKind, .list .word]⟩

def encodeBatch (entries : List Entry) : Bytes :=
  batch.call
    [.list (entries.map fun e => .bytes e.pubkey.bytes),
      .list (entries.map fun e => .ofAddress e.payoutRecipient),
      .list (entries.map fun e => signatureValue e.signature),
      .list (entries.map fun e => .ofBool e.registeredInSameBatch)]

def zipEntries : List Bytes → List Address → List EcdsaSignature → List Bool → Option (List Entry)
  | [], [], [], [] => some []
  | k :: ks, p :: ps, s :: ss, b :: bs => do
    let entry := ⟨← FixedBytes.ofBytes? k, p, s, b⟩
    some (entry :: (← zipEntries ks ps ss bs))
  | _, _, _, _ => none

def decodeBatch? (data : Bytes) : Option (List Entry) :=
  match batch.arguments? data with
  | some [.list keys, .list payouts, .list signatures, .list flags] => do
    zipEntries (← keys.mapM Value.toBytes?) (← payouts.mapM Value.toAddress?)
      (← signatures.mapM signatureOf?) (← flags.mapM Value.toBool?)
  | _ => none

/-! ## Claims and exits -/

def actionArguments : List Kind := [.bytes, .word, signatureKind]

def claim : Function :=
  ⟨"claimNativeDelegation(bytes,uint256,(uint8,bytes32,bytes32))", actionArguments⟩

def exit : Function :=
  ⟨"exitNativeDelegation(bytes,uint256,(uint8,bytes32,bytes32))", actionArguments⟩

def actionFunction : DelegationAction → Function
  | .claim => claim
  | .exit => exit

def encodeAction (action : DelegationAction) (report : DelegationReport) : Bytes :=
  (actionFunction action).call
    [.bytes report.pubkey.bytes, .ofNat report.reportedBalance.toNat,
      signatureValue report.signature]

def decodeAction? (action : DelegationAction) (data : Bytes) : Option DelegationReport :=
  match (actionFunction action).arguments? data with
  | some [.bytes key, balance, signature] => do
    some ⟨← FixedBytes.ofBytes? key, BitVec.ofNat 256 (← balance.toNat?), ← signatureOf? signature⟩
  | _ => none

end Registrar.Contract.Ledger
