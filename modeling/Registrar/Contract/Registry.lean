import Registrar.Abi.Call
import Registrar.Status

/-! The proposer registry: looking up one proposer and registering a batch of them. -/
namespace Registrar.Contract.Registry
set_option autoImplicit false

open Abi

/-! ## Lookup -/

def lookup : Function :=
  ⟨"getProposer(bytes)", [.bytes]⟩

def encodeLookup (k : PublicKey) : Bytes :=
  lookup.call [.bytes k.bytes]

/-- The record of one proposer as the contract keeps it. -/
structure ProposerInfo where
  status : UInt8
  representative : Address
  payoutRecipient : Address
deriving DecidableEq

def ProposerInfo.encode (i : ProposerInfo) : Bytes :=
  encodeAll [.ofNat i.status.toNat, .ofAddress i.representative, .ofAddress i.payoutRecipient]

def ProposerInfo.decode? (data : Bytes) : Option ProposerInfo :=
  match decodeAll [.word, .word, .word] data with
  | some [status, representative, payout] => do
    some ⟨← status.toByte?, ← representative.toAddress?, ← payout.toAddress?⟩
  | _ => none

/-! ## Batch -/

structure Entry where
  pubkey : PublicKey
  payoutRecipient : Address
  gasLimit : UInt64
  timestamp : UInt64
  signature : BlsSignature
deriving DecidableEq

def batch : Function :=
  ⟨"batchRegisterProposers(bytes[],address[],uint64[],uint64[],bytes[])",
    [.list .bytes, .list .word, .list .word, .list .word, .list .bytes]⟩

def encodeBatch (entries : List Entry) : Bytes :=
  batch.call
    [.list (entries.map fun e => .bytes e.pubkey.bytes),
      .list (entries.map fun e => .ofAddress e.payoutRecipient),
      .list (entries.map fun e => .ofNat e.gasLimit.toNat),
      .list (entries.map fun e => .ofNat e.timestamp.toNat),
      .list (entries.map fun e => .bytes e.signature.bytes)]

def zipEntries : List Bytes → List Address → List UInt64 → List UInt64 → List Bytes →
    Option (List Entry)
  | [], [], [], [], [] => some []
  | k :: ks, p :: ps, g :: gs, t :: ts, s :: ss => do
    let entry := ⟨← FixedBytes.ofBytes? k, p, g, t, ← FixedBytes.ofBytes? s⟩
    some (entry :: (← zipEntries ks ps gs ts ss))
  | _, _, _, _, _ => none

def decodeBatch? (data : Bytes) : Option (List Entry) :=
  match batch.arguments? data with
  | some [.list keys, .list payouts, .list gasLimits, .list timestamps, .list signatures] => do
    zipEntries (← keys.mapM Value.toBytes?) (← payouts.mapM Value.toAddress?)
      (← gasLimits.mapM Value.toWord64?) (← timestamps.mapM Value.toWord64?)
      (← signatures.mapM Value.toBytes?)
  | _ => none

end Registrar.Contract.Registry
