import Registrar.Client.Exchange
import Registrar.Json.Access
import Registrar.Json.Printer
import Registrar.Net.Url
import Registrar.Node
import Registrar.Wire.Scalar

/-! The execution node behind a URL: calls and replies in the form of its protocol. -/
namespace Registrar
set_option autoImplicit false

/-! ## Calls -/

namespace NodeCall

def readBlock : Json := .string "pending"

def hexData (data : Bytes) : Json := .string (Text.hexText data)

def params : NodeCall → Option Json
  | chainId | gasPrice | priorityFee => none
  | call target data =>
    some (.array [.object [("to", Wire.hexJson target), ("input", hexData data)], readBlock])
  | estimateGas sender target data =>
    some
      (.array
        [.object
          [("from", Wire.hexJson sender), ("to", Wire.hexJson target), ("input", hexData data)],
          readBlock])
  | pendingNonce account => some (.array [Wire.hexJson account, readBlock])
  | sendRaw raw => some (.array [hexData raw])
  | transactionStatus hash | receipt hash => some (.array [Wire.hexJson hash])

def toJson (c : NodeCall) (id : Nat) : Json :=
  .object
    ([("jsonrpc", .string "2.0"), ("id", .ofNat id), ("method", .string c.method)]
      ++ (c.params.map fun p => ("params", p)).toList)

/-! ## Results -/

/-- A number below a limit, as a text with or without a mark of its base or as a bare number. -/
def quantity (limit : Nat) (v : Json) : Option Nat :=
  match Wire.asBalance v with
  | .ok n => if n.toNat < limit then some n.toNat else none
  | .error _ => none

def word64? (v : Json) : Option UInt64 :=
  (quantity UInt64.size v).map UInt64.ofNat

def price? (v : Json) : Option Nat :=
  quantity (Nat.pow 2 128) v

def bytes? : Json → Option Bytes
  | .string s =>
    match Text.Hex.decodeDigits (Text.utf8 (Address.dropMark s.toList)) with
    | .ok bytes => some bytes
    | .error _ => none
  | _ => none

def hash? (v : Json) : Option Word :=
  (Wire.asBytes v).toOption

/-- A block number that is null or missing is none yet. -/
def block? (v : Json) : Option (Option UInt64) :=
  match v.get? "blockNumber" with
  | none => some none
  | some n => (word64? n).map some

def lookup? (v : Json) : Option TxLookup :=
  match hash? (v.get "hash"), block? v with
  | some _, some (some n) => some (.mined n)
  | some _, some none => some .pending
  | _, _ => none

def receipt? (v : Json) : Option Receipt :=
  match hash? (v.get "transactionHash"), word64? (v.get "status"), block? v with
  | some _, some status, some block => some ⟨status = 1, block⟩
  | _, _, _ => none

/-- Null stands for what the node does not know. -/
def nullable? {α : Type} (read : Json → Option α) : Json → Option (Option α)
  | .null => some none
  | v => (read v).map some

def result? (v : Json) : (c : NodeCall) → Option c.Reply
  | chainId => word64? v
  | call .. => bytes? v
  | gasPrice | priorityFee => price? v
  | estimateGas .. | pendingNonce _ => word64? v
  | sendRaw _ => hash? v
  | transactionStatus _ => nullable? lookup? v
  | receipt _ => nullable? receipt? v

/-! ## Replies -/

def errorText (e : Json) : String :=
  "server returned an error response: error code " ++ (e.get "code").text ++ ": " ++ e.textAt "message"

def resultIn (reply : Client.Reply) : Except String Json :=
  match reply with
  | .unreachable reason => .error reason
  | .answered status body =>
    if status < 200 || 300 ≤ status then
      .error ("HTTP error " ++ toString status ++ " with body: " ++ body)
    else
      let v := Json.parse body
      match v.get? "error", v.member? "result" with
      | some e, _ => .error (errorText e)
      | none, some result => .ok result
      | none, none => .error "deserialization error: neither result nor error"

def answer (c : NodeCall) (reply : Client.Reply) : Except Error c.Reply :=
  match resultIn reply with
  | .error reason => .error (.nodeRpc c.method reason)
  | .ok result =>
    match result? result c with
    | some r => .ok r
    | none => .error (.nodeRpc c.method "deserialization error: unexpected result")

end NodeCall

/-! ## The node's address -/

/-- The node's URL without blanks around it. -/
def nodeUrl (text : String) : Except Error String :=
  let url := Text.trimmed text
  match Net.Url.fault? url with
  | none => .ok url
  | some fault => .error (.config ("invalid execution rpc url: " ++ fault.message))

def NodeCall.request (c : NodeCall) (url : String) (id : Nat) : Client.Request :=
  .post url (c.toJson id)

end Registrar
