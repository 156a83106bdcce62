import Registrar.Config.Load
import Registrar.Net.SocketAddress
import Registrar.Net.Url

/-! What makes a configuration unfit to start with. -/
namespace Registrar.Config
set_option autoImplicit false

def demand (holds : Bool) (fault : String) : List String :=
  if holds then [] else [fault]

def faultOf {α : Type} : Except Error α → List String
  | .ok _ => []
  | .error e => [e.text]

def chainMismatch (field : String) (found expected : UInt64) : List String :=
  demand (found = expected)
    (field ++ " (" ++ toString found.toNat ++ ") does not match chain.chain_id ("
      ++ toString expected.toNat ++ ")")

/-! ## Faults by section -/

def chainFaults (c : Config) : List String :=
  demand (Net.Url.isAbsolute (Text.trimmed c.chain.rpcUrl)) ("invalid chain.rpc_url: " ++ c.chain.rpcUrl)
    ++ demand (c.chain.chainId ≠ 0) "chain.chain_id must be set"
    ++ demand (c.chain.maxGasPriceGwei ≠ 0) "chain.max_gas_price_gwei must be > 0"
    ++ demand (c.chain.receiptPollMillis ≠ 0) "chain.receipt_poll_interval_ms must be > 0"
    ++ demand (c.chain.confirmationTimeoutSecs ≠ 0) "chain.confirmation_timeout_secs must be > 0"
    ++ faultOf c.multicall

def registryFaults (c : Config) : List String :=
  faultOf c.registryAddress
    ++ chainMismatch "registry.chain_id" c.registry.chainId c.chain.chainId
    ++ faultOf c.payoutOverride

def delegationFaults (c : Config) : List String :=
  if c.delegation.enabled then
    faultOf c.delegationAddress
      ++ chainMismatch "delegation.chain_id" c.delegation.chainId c.chain.chainId
      ++ demand c.secondarySignerUrl.isSome
        "secondary_signer.url is required when delegation.enabled=true"
  else []

def signingFaults (c : Config) : List String :=
  if Text.isAllBlank c.signing.privateKey then
    ["signing.private_key is required (REGSYNC_SIGNING__PRIVATE_KEY)"]
  else demand c.signer?.isSome "signing.private_key is not a valid secp256k1 key"

def urlFaults (field : String) (url : Option String) : List String :=
  match url with
  | none => []
  | some u => demand (Net.Url.isAbsolute u) ("invalid " ++ field ++ ": " ++ u)

def httpFaults (c : Config) : List String :=
  demand (!c.http.enabled || Net.isSocketAddress c.http.listenAddress)
    ("invalid http.listen_addr: " ++ c.http.listenAddress)

def runtimeFaults (c : Config) : List String :=
  demand (c.runtime.maxBatchSize ≠ 0 && c.runtime.maxBatchSize.toNat ≤ maxIdentities)
    ("runtime.max_batch_size must be within 1..=" ++ toString maxIdentities)
    ++ demand (c.runtime.statusChunkSize ≠ 0) "runtime.status_chunk_size must be > 0"

/-! ## Validation -/

def faults (c : Config) : List String :=
  c.chainFaults ++ c.registryFaults ++ c.delegationFaults ++ c.signingFaults
    ++ urlFaults "remote_signer.url" c.remoteSignerUrl
    ++ urlFaults "secondary_signer.url" c.secondarySignerUrl
    ++ c.httpFaults ++ c.runtimeFaults

def validate (c : Config) : Except Error Config :=
  match c.faults with
  | [] => .ok c
  | faults => .error (.config ("validation failed: " ++ "; ".intercalate faults))

def loadValid (file : Option String) (env : Environment) : Except Error Config :=
  match load file env with
  | .error e => .error e
  | .ok c => c.validate

end Registrar.Config
