import Registrar.Client.ExecutionNode
import Registrar.Config.Basic
import Registrar.Engine.StatusReader
import Registrar.Exclusion.Store

/-! From a configuration to a running engine: the gateway with its check of the chain, the first
exclusion list, and the engine itself. -/
namespace Registrar
set_option autoImplicit false

/-- The last millisecond of a clock that counts seconds in 63 bits. -/
def lastInstant : Nat := 0x8000000000000000 * 1000 - 1

namespace Config

/-! ## Gateway -/

def gatewaySettings (c : Config) : Except Error GatewaySettings :=
  c.multicall.map fun multicall =>
    { chainId := c.chain.chainId
      maxGasPrice := c.maxGasPriceWei
      pollInterval := c.chain.receiptPollMillis.toNat
      confirmationTimeout := c.confirmationTimeoutMillis
      multicall
      horizon := some lastInstant }

/-- The gateway before anything is asked of the node. -/
def gateway (c : Config) : Except Error Gateway := do
  let _ ← nodeUrl c.chain.rpcUrl
  match c.signer? with
  | none => throw (.config "invalid signing.private_key: no secp256k1 key")
  | some signer => return ⟨signer, ← c.gatewaySettings⟩

/-- The gateway to a node that serves the configured chain. -/
def connect (c : Config) : Program (Except Error Gateway) :=
  match c.gateway with
  | .error e => .done (.error e)
  | .ok g => do
    match ← g.verifyChainId with
    | .error e => return .error e
    | .ok () => return .ok g

/-! ## Exclusions -/

def exclusionPath (c : Config) : Option String :=
  Text.filled? c.exclusions.path

/-- The first exclusion list; a configured file that cannot be read ends the start. -/
def exclusionStore (c : Config) (reading : String → FileReading) : Except Error ExclusionStore :=
  match c.exclusionPath with
  | none => .ok .empty
  | some path => (ExclusionTable.load path (reading path) 1).map ExclusionStore.ofTable

/-! ## Engine -/

def engineSettings (c : Config) : Except Error EngineSettings := do
  let registry ← c.registryAddress
  let delegation ← c.delegationAddress
  let payoutOverride ← c.payoutOverride
  return ⟨c.runtime.maxBatchSize.toNat, registry, delegation, payoutOverride⟩

def statusReader (c : Config) (g : Gateway) (settings : EngineSettings) : StatusReader :=
  { gateway := g
    registry := settings.registry
    delegation := settings.delegation
    chunkSize := c.runtime.statusChunkSize.toNat }

/-- The engine over a gateway; a signer is at hand when it has a URL. -/
def engine (c : Config) (g : Gateway) : Except Error Engine :=
  c.engineSettings.map fun settings =>
    { gateway := g
      settings
      statuses := (c.statusReader g settings).source
      canResign := c.remoteSignerUrl.isSome
      canAuthorize := c.secondarySignerUrl.isSome }

end Config

end Registrar
