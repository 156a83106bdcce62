import Registrar.Address
import Registrar.Error

/-! What the execution node is asked and what it replies. -/
namespace Registrar
set_option autoImplicit false

inductive TxLookup where
  | pending
  | mined (blockNumber : UInt64)
deriving DecidableEq, Repr

structure Receipt where
  success : Bool
  blockNumber : Option UInt64
deriving DecidableEq, Repr

inductive NodeCall where
  | chainId
  | call (target : Address) (data : Bytes)
  | gasPrice
  | priorityFee
  | estimateGas (sender target : Address) (data : Bytes)
  | pendingNonce (account : Address)
  | sendRaw (raw : Bytes)
  | transactionStatus (hash : Word)
  | receipt (hash : Word)
deriving DecidableEq

namespace NodeCall

abbrev Reply : NodeCall → Type
  | chainId => UInt64
  | call .. => Bytes
  | gasPrice => Nat
  | priorityFee => Nat
  | estimateGas .. => UInt64
  | pendingNonce _ => UInt64
  | sendRaw _ => Word
  | transactionStatus _ => Option TxLookup
  | receipt _ => Option Receipt

def method : NodeCall → String
  | chainId => "eth_chainId"
  | call .. => "eth_call"
  | gasPrice => "eth_gasPrice"
  | priorityFee => "eth_maxPriorityFeePerGas"
  | estimateGas .. => "eth_estimateGas"
  | pendingNonce _ => "eth_getTransactionCount"
  | sendRaw _ => "eth_sendRawTransaction"
  | transactionStatus _ => "eth_getTransactionByHash"
  | receipt _ => "eth_getTransactionReceipt"

end NodeCall

/-! ## Errors that ask for less -/

def sizeLimitMarkers : List String :=
  ["response size", "response is too big", "too large", "payload too large", "exceeds the limit",
    "limit exceeded", "out of gas", "413"]

/-- The node refused a read because of its size: the details of its error hold a marker, letters of
either case. -/
def Error.isSizeLimit : Error → Bool
  | .nodeRpc _ details =>
    let text := details.toList.map Char.toLower
    sizeLimitMarkers.any fun marker => Text.occursIn marker.toList text
  | _ => false

end Registrar
