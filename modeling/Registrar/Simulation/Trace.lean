import Registrar.Contract.Multicall
import Registrar.Program
import Registrar.Transaction

/-! What happens in a simulated run, event by event, and the line that tells each event. -/
namespace Registrar.Simulation
set_option autoImplicit false

/-! ## Calls -/

def callName : NodeCall → String
  | .chainId => "chain_id"
  | .call .. => "call"
  | .gasPrice => "gas_price"
  | .priorityFee => "tip"
  | .estimateGas .. => "estimate"
  | .pendingNonce _ => "nonce"
  | .sendRaw _ => "send"
  | .transactionStatus _ => "status"
  | .receipt _ => "receipt"

def dataHash (data : Bytes) : String :=
  (Crypto.keccak256 data).toHex

def transactionText (hash : Word) (t : Transaction) : String :=
  hash.toHex ++ " chain=" ++ toString t.chainId.toNat ++ " nonce=" ++ toString t.nonce.toNat
    ++ " gas=" ++ toString t.gasLimit.toNat ++ " max_fee=" ++ toString t.maxFeePerGas
    ++ " tip=" ++ toString t.maxPriorityFeePerGas ++ " to=" ++ t.target.checksummed
    ++ " data=" ++ dataHash t.input

def callDetail : NodeCall → String
  | .chainId | .gasPrice | .priorityFee => ""
  | .call target data => " " ++ target.checksummed ++ " " ++ dataHash data
  | .estimateGas sender target data =>
    " " ++ sender.checksummed ++ " " ++ target.checksummed ++ " " ++ dataHash data
  | .pendingNonce account => " " ++ account.checksummed
  | .sendRaw raw =>
    match Transaction.ofRaw? raw with
    | some t => " " ++ transactionText (Transaction.hashRaw raw) t
    | none => " undecodable"
  | .transactionStatus hash | .receipt hash => " " ++ hash.toHex

/-! ## Events -/

inductive Trace where
  | call (c : NodeCall)
  /-- The aggregating contract was given so many calls, the first one of this target. -/
  | aggregate (calls : Nat) (first : Option Address)
  | listed
  | signed (m : RegistrationMessage)
  | authorized (r : SignedRegistration) (representative : Address)
  | observed (e : Event)

def observedText : Event → String
  | .classified pubkey state => "obs:classified " ++ pubkey.toHex ++ " " ++ state.label
  | .omitted pubkey reason => "obs:omitted " ++ pubkey.toHex ++ " " ++ reason.label
  | .dispatched authority identities status =>
    "obs:dispatch " ++ authority.label ++ " " ++ toString identities ++ " " ++ status.label
  | .acted action outcome => "obs:action " ++ action.label ++ " " ++ outcome.label

namespace Trace

def text : Trace → String
  | call c => "rpc:" ++ callName c ++ callDetail c
  | aggregate calls first =>
    "aggregate " ++ toString calls ++ " " ++ ((first.map Address.checksummed).getD "")
  | listed => "remote:list"
  | signed m =>
    "remote:sign " ++ m.pubkey.toHex ++ " fee=" ++ m.feeRecipient.checksummed ++ " gas="
      ++ toString m.gasLimit.toNat ++ " ts=" ++ toString m.timestamp.toNat
  | authorized r representative =>
    "secondary " ++ r.pubkey.toHex ++ " " ++ representative.checksummed ++ " fee="
      ++ r.message.feeRecipient.checksummed
  | observed e => observedText e

/-- Whether the event comes once for every identity of a registration call. -/
def isPerIdentity : Trace → Bool
  | authorized .. | observed (.classified ..) => true
  | _ => false

end Trace

/-! ## Logs -/

/-- Equal lines that follow each other as one line with their number. -/
def collapse (lines : List String) : List String :=
  (lines.foldr
    (fun line runs =>
      match runs with
      | (l, n) :: rest => if l = line then (l, n + 1) :: rest else (line, 1) :: runs
      | [] => [(line, 1)])
    []).map fun (line, n) => if n = 1 then line else line ++ " x" ++ toString n

end Registrar.Simulation
