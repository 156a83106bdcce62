/-! Everything that can go wrong, by cause; how far each cause reaches; and its wording. -/
namespace Registrar
set_option autoImplicit false

inductive Error where
  | config (detail : String)
  | chainIdMismatch (component : String) (expected actual : UInt64)
  | missingContractAddress (setting : String)
  | statusReadFailed (authority details : String)
  | abi (operation details : String)
  | gasPriceTooHigh (suggestedWei maxWei : Nat)
  | signingFailed (details : String)
  | sendFailed (txHash details : String)
  | transactionReverted (txHash : String) (blockNumber : Option UInt64)
  | confirmationCancelled (txHash reason : String)
  | nodeRpc (operation details : String)
  | remoteSigner (operation details : String)
  | secondarySignature (pubkey details : String)
  | notAuthorized (pubkey representative signer : String)
  | exclusionList (path details : String)
  | invalidPublicKey (input reason : String)
  | invalidTransition (origin target : String)
  | encoding (details : String)
  | serialization (format details : String)
  | inputOutput (operation details : String)
  | network (details : String)
  | message (text : String)
deriving DecidableEq, Repr

namespace Error

inductive Class where
  /-- Fatal at start-up. -/
  | configuration
  /-- Ends the whole call without results. -/
  | batchFatal
  /-- Drops one identity from the call. -/
  | perIdentity
  /-- Fails the identities of one transaction. -/
  | transaction
  /-- The transaction may or may not have landed. -/
  | ambiguous
deriving DecidableEq, Repr

def reach : Error → Class
  | config _ | chainIdMismatch .. | missingContractAddress _ => .configuration
  | remoteSigner .. | secondarySignature .. | notAuthorized .. | invalidPublicKey .. => .perIdentity
  | gasPriceTooHigh .. | signingFailed _ | sendFailed .. | transactionReverted .. => .transaction
  | confirmationCancelled .. => .ambiguous
  | _ => .batchFatal

def isAmbiguous (e : Error) : Bool :=
  e.reach = .ambiguous

/-! ## Wording -/

def Class.name : Class → String
  | .configuration => "Configuration"
  | .batchFatal => "BatchFatal"
  | .perIdentity => "PerIdentity"
  | .transaction => "Transaction"
  | .ambiguous => "Ambiguous"

/-- The name used in answers over HTTP. -/
def Class.label : Class → String
  | .configuration => "configuration"
  | .batchFatal => "batch_fatal"
  | .perIdentity => "per_identity"
  | .transaction => "transaction"
  | .ambiguous => "ambiguous"

def code : Error → String
  | config _ => "ConfigError"
  | chainIdMismatch .. => "ChainIdMismatch"
  | missingContractAddress _ => "MissingContractAddress"
  | statusReadFailed .. => "StatusReadFailed"
  | abi .. => "AbiError"
  | gasPriceTooHigh .. => "GasPriceTooHigh"
  | signingFailed _ => "SigningFailed"
  | sendFailed .. => "SendFailed"
  | transactionReverted .. => "TransactionReverted"
  | confirmationCancelled .. => "ConfirmationCancelled"
  | nodeRpc .. => "NodeRpcError"
  | remoteSigner .. => "RemoteSignerError"
  | secondarySignature .. => "SecondarySignatureFailed"
  | notAuthorized .. => "NotAuthorized"
  | exclusionList .. => "ExclusionListError"
  | invalidPublicKey .. => "InvalidPublicKey"
  | invalidTransition .. => "InvalidStateTransition"
  | encoding _ => "EncodingError"
  | serialization .. => "SerializationError"
  | inputOutput .. => "IoError"
  | network _ => "NetworkError"
  | message _ => "Message"

private def blockText : Option UInt64 → String
  | none => "None"
  | some b => "Some(" ++ toString b.toNat ++ ")"

def text : Error → String
  | config d => "configuration error: " ++ d
  | chainIdMismatch component expected actual =>
    "chain id mismatch for " ++ component ++ ": expected " ++ toString expected.toNat ++ ", got "
      ++ toString actual.toNat
  | missingContractAddress s => "missing contract address: " ++ s
  | statusReadFailed authority d => "status read failed for " ++ authority ++ ": " ++ d
  | abi operation d => "abi error during " ++ operation ++ ": " ++ d
  | gasPriceTooHigh suggested max =>
    "suggested gas price " ++ toString suggested ++ " wei exceeds ceiling " ++ toString max ++ " wei"
  | signingFailed d => "signing failed: " ++ d
  | sendFailed h d => "transaction send failed tx_hash=" ++ h ++ ": " ++ d
  | transactionReverted h b =>
    "transaction reverted tx_hash=" ++ h ++ " block_number=" ++ blockText b
  | confirmationCancelled h reason => "confirmation wait cancelled tx_hash=" ++ h ++ ": " ++ reason
  | nodeRpc operation d => "node RPC error during " ++ operation ++ ": " ++ d
  | remoteSigner operation d => "remote signer error during " ++ operation ++ ": " ++ d
  | secondarySignature pubkey d => "secondary signature failed for pubkey=" ++ pubkey ++ ": " ++ d
  | notAuthorized pubkey representative signer =>
    "not authorized: pubkey=" ++ pubkey ++ " representative=" ++ representative ++ " signer=" ++ signer
  | exclusionList path d => "exclusion list error path=" ++ path ++ ": " ++ d
  | invalidPublicKey input reason => "invalid public key: input=" ++ input ++ " reason=" ++ reason
  | invalidTransition origin target => "invalid state transition: " ++ origin ++ " -> " ++ target
  | encoding d => "encoding error: " ++ d
  | serialization format d => format ++ " serialization error: " ++ d
  | inputOutput operation d => "io error during " ++ operation ++ ": " ++ d
  | network d => "network error: " ++ d
  | message t => t

end Error

end Registrar
