import Registrar.Engine.Basic
import Registrar.Wire.Scalar

/-! The configuration by sections, its usual values, and its form as JSON. -/
namespace Registrar
set_option autoImplicit false

open Json (Shape Decoder)
open Json.Shape (defaulted)
open Wire

/-! ## Sections -/

structure ChainSection where
  rpcUrl : String
  chainId : UInt64
  maxGasPriceGwei : UInt64
  receiptPollMillis : UInt64
  confirmationTimeoutSecs : UInt64
  multicallAddress : String
deriving DecidableEq, Repr

structure RegistrySection where
  address : String
  chainId : UInt64
  payoutOverride : Option String
deriving DecidableEq, Repr

structure DelegationSection where
  enabled : Bool
  address : String
  chainId : UInt64
deriving DecidableEq, Repr

structure SigningSection where
  privateKey : String
deriving DecidableEq

structure SignerSection where
  url : Option String
  timeoutSecs : UInt64
deriving DecidableEq, Repr

structure ExclusionSection where
  path : Option String
  pollSecs : UInt64
deriving DecidableEq, Repr

structure HttpSection where
  enabled : Bool
  listenAddress : String
deriving DecidableEq, Repr

structure RuntimeSection where
  maxBatchSize : UInt64
  statusChunkSize : UInt64
deriving DecidableEq, Repr

structure Config where
  chain : ChainSection
  registry : RegistrySection
  delegation : DelegationSection
  signing : SigningSection
  remoteSigner : SignerSection
  secondarySigner : SignerSection
  exclusions : ExclusionSection
  http : HttpSection
  runtime : RuntimeSection
deriving DecidableEq

/-! ## Usual values -/

def defaultRpcUrl : String := "http://127.0.0.1:8545"

def defaultListenAddress : String := "127.0.0.1:8090"

def defaultMulticall : String := "0xcA11bde05977b3631167028862bE2a173976CA11"

def defaultExclusionPollSecs : UInt64 := 10

def defaultStatusChunkSize : UInt64 := 500

def defaultMaxBatchSize : UInt64 := .ofNat maxIdentities

namespace Config

def usual : Config :=
  { chain := ⟨defaultRpcUrl, 0, 200, 1000, 120, defaultMulticall⟩
    registry := ⟨"", 0, none⟩
    delegation := ⟨false, "", 0⟩
    signing := ⟨""⟩
    remoteSigner := ⟨none, 30⟩
    secondarySigner := ⟨none, 30⟩
    exclusions := ⟨none, defaultExclusionPollSecs⟩
    http := ⟨true, defaultListenAddress⟩
    runtime := ⟨defaultMaxBatchSize, defaultStatusChunkSize⟩ }

end Config

/-! ## Sections as JSON

A member missing from a section that is present counts as empty, zero or false. -/

def optionalText : Decoder (Option String) :=
  Json.asOptional Json.asString

def ofOptionalText (s : Option String) : Json :=
  .ofOption Json.string s

def ChainSection.shape : Shape ChainSection :=
  ChainSection.mk <$> defaulted "rpc_url" Json.asString ""
    <*> defaulted "chain_id" Json.asWord64 0
    <*> defaulted "max_gas_price_gwei" Json.asWord64 0
    <*> defaulted "receipt_poll_interval_ms" Json.asWord64 0
    <*> defaulted "confirmation_timeout_secs" Json.asWord64 0
    <*> defaulted "multicall_address" Json.asString ""

def ChainSection.toJson (s : ChainSection) : Json :=
  .object
    [("rpc_url", .string s.rpcUrl), ("chain_id", ofWord64 s.chainId),
      ("max_gas_price_gwei", ofWord64 s.maxGasPriceGwei),
      ("receipt_poll_interval_ms", ofWord64 s.receiptPollMillis),
      ("confirmation_timeout_secs", ofWord64 s.confirmationTimeoutSecs),
      ("multicall_address", .string s.multicallAddress)]

def RegistrySection.shape : Shape RegistrySection :=
  RegistrySection.mk <$> defaulted "address" Json.asString ""
    <*> defaulted "chain_id" Json.asWord64 0
    <*> defaulted "payout_recipient_override" optionalText none

def RegistrySection.toJson (s : RegistrySection) : Json :=
  .object
    [("address", .string s.address), ("chain_id", ofWord64 s.chainId),
      ("payout_recipient_override", ofOptionalText s.payoutOverride)]

def DelegationSection.shape : Shape DelegationSection :=
  DelegationSection.mk <$> defaulted "enabled" Json.asBool false
    <*> defaulted "address" Json.asString ""
    <*> defaulted "chain_id" Json.asWord64 0

def DelegationSection.toJson (s : DelegationSection) : Json :=
  .object
    [("enabled", .bool s.enabled), ("address", .string s.address), ("chain_id", ofWord64 s.chainId)]

def SigningSection.shape : Shape SigningSection :=
  SigningSection.mk <$> defaulted "private_key" Json.asString ""

def SigningSection.toJson (s : SigningSection) : Json :=
  .object [("private_key", .string s.privateKey)]

/-- The section for people to read: it says whether there is a key and never which. -/
def SigningSection.shown (s : SigningSection) : String :=
  "SigningConfig \x7b private_key: \""
    ++ (if s.privateKey.isEmpty then "<unset>" else "<redacted>") ++ "\" \x7d"

def SignerSection.shape : Shape SignerSection :=
  SignerSection.mk <$> defaulted "url" optionalText none
    <*> defaulted "timeout_secs" Json.asWord64 0

def SignerSection.toJson (s : SignerSection) : Json :=
  .object [("url", ofOptionalText s.url), ("timeout_secs", ofWord64 s.timeoutSecs)]

def ExclusionSection.shape : Shape ExclusionSection :=
  ExclusionSection.mk <$> defaulted "path" optionalText none
    <*> defaulted "poll_interval_secs" Json.asWord64 0

def ExclusionSection.toJson (s : ExclusionSection) : Json :=
  .object [("path", ofOptionalText s.path), ("poll_interval_secs", ofWord64 s.pollSecs)]

def HttpSection.shape : Shape HttpSection :=
  HttpSection.mk <$> defaulted "enabled" Json.asBool false
    <*> defaulted "listen_addr" Json.asString ""

def HttpSection.toJson (s : HttpSection) : Json :=
  .object [("enabled", .bool s.enabled), ("listen_addr", .string s.listenAddress)]

def RuntimeSection.shape : Shape RuntimeSection :=
  RuntimeSection.mk <$> defaulted "max_batch_size" Json.asWord64 0
    <*> defaulted "status_chunk_size" Json.asWord64 0

def RuntimeSection.toJson (s : RuntimeSection) : Json :=
  .object
    [("max_batch_size", ofWord64 s.maxBatchSize), ("status_chunk_size", ofWord64 s.statusChunkSize)]

/-! ## The whole as JSON

A section that is missing has its usual values. -/

namespace Config

def shape : Shape Config :=
  Config.mk <$> defaulted "chain" ChainSection.shape.decode usual.chain
    <*> defaulted "registry" RegistrySection.shape.decode usual.registry
    <*> defaulted "delegation" DelegationSection.shape.decode usual.delegation
    <*> defaulted "signing" SigningSection.shape.decode usual.signing
    <*> defaulted "remote_signer" SignerSection.shape.decode usual.remoteSigner
    <*> defaulted "secondary_signer" SignerSection.shape.decode usual.secondarySigner
    <*> defaulted "exclusions" ExclusionSection.shape.decode usual.exclusions
    <*> defaulted "http" HttpSection.shape.decode usual.http
    <*> defaulted "runtime" RuntimeSection.shape.decode usual.runtime

def ofJson : Decoder Config := shape.decode

def toJson (c : Config) : Json :=
  .object
    [("chain", c.chain.toJson), ("registry", c.registry.toJson),
      ("delegation", c.delegation.toJson), ("signing", c.signing.toJson),
      ("remote_signer", c.remoteSigner.toJson), ("secondary_signer", c.secondarySigner.toJson),
      ("exclusions", c.exclusions.toJson), ("http", c.http.toJson), ("runtime", c.runtime.toJson)]

end Config

/-! ## Values derived from the sections -/

def readAddress (field value : String) : Except Error Address :=
  match Address.ofText (Text.trim value.toList) with
  | .ok a => .ok a
  | .error e =>
    .error (.config ("invalid " ++ field ++ " '" ++ Text.trimmed value ++ "': " ++ e.message))

namespace Config

def weiPerGwei : Nat := 1000000000

def maxGasPriceWei (c : Config) : Nat :=
  c.chain.maxGasPriceGwei.toNat * weiPerGwei

def confirmationTimeoutMillis (c : Config) : Nat :=
  c.chain.confirmationTimeoutSecs.toNat * 1000

def multicall (c : Config) : Except Error Address :=
  readAddress "chain.multicall_address" c.chain.multicallAddress

def registryAddress (c : Config) : Except Error Address :=
  if Text.isAllBlank c.registry.address then .error (.missingContractAddress "registry.address")
  else readAddress "registry.address" c.registry.address

def payoutOverride (c : Config) : Except Error (Option Address) :=
  match Text.filled? c.registry.payoutOverride with
  | none => .ok none
  | some s => (readAddress "registry.payout_recipient_override" s).map some

/-- The ledger's address; absent when the ledger is not in use. -/
def delegationAddress (c : Config) : Except Error (Option Address) :=
  if !c.delegation.enabled then .ok none
  else if Text.isAllBlank c.delegation.address then
    .error (.missingContractAddress "delegation.address")
  else (readAddress "delegation.address" c.delegation.address).map some

def remoteSignerUrl (c : Config) : Option String :=
  Text.filled? c.remoteSigner.url

def secondarySignerUrl (c : Config) : Option String :=
  Text.filled? c.secondarySigner.url

def signer? (c : Config) : Option Signer :=
  Signer.ofText? (Text.trim c.signing.privateKey.toList)

end Config

end Registrar
