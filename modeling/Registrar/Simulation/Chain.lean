import Registrar.Contract.Ledger
import Registrar.Contract.Multicall
import Registrar.Contract.Registry
import Registrar.Simulation.Trace

/-! A node that follows a script: the two contracts as tables, transactions that take effect when they
are sent, and failures on demand. -/
namespace Registrar.Simulation
set_option autoImplicit false

open Contract

/-! ## Scripts -/

inductive SendMode where
  | accepted
  /-- Refused without any effect. -/
  | rejected
  /-- Takes effect and is answered by an error. -/
  | alreadyKnown
  /-- Takes effect and is answered by another hash. -/
  | wrongHash
deriving DecidableEq, Repr

inductive ReceiptMode where
  | mined
  | withheld
  /-- No receipt at the first polls of a transaction. -/
  | after
  /-- An error at the first polls of a transaction. -/
  | errors
deriving DecidableEq, Repr

structure Script where
  chainId : UInt64
  gasPrice : Nat
  tip : Nat
  gasEstimate : UInt64
  /-- Lookups that fail on their own. -/
  failingLookups : List PublicKey
  /-- Lookups answered by given data. -/
  rawLookups : List (Address × PublicKey × Bytes)
  /-- Most calls in one aggregate. -/
  maxAggregateCalls : Option Nat
  sizeError : String
  aggregateError : Option String
  /-- What every aggregate is answered by. -/
  aggregateRaw : Option Bytes
  /-- How many answers are missing at the end of every aggregate. -/
  aggregateDrop : Nat
  /-- Errors by the short name of a call. -/
  errors : List (String × String)
  send : SendMode
  sendDetails : String
  receipts : ReceiptMode
  /-- How many polls of a transaction count as the first ones. -/
  polls : Nat
  /-- Receipts name no block. -/
  noBlock : Bool
  /-- Contracts of which every transaction reverts. -/
  reverting : List Address

/-! ## State -/

structure Chain where
  script : Script
  /-- The account that transactions are sent from. -/
  account : Address
  registryAddress : Address
  ledgerAddress : Address
  multicall : Address
  nonce : UInt64
  registry : Table PublicKey Registry.ProposerInfo
  ledger : Table PublicKey Ledger.DelegationInfo
  receipts : Table Word Receipt
  /-- How often the receipt of each transaction was asked for. -/
  polled : Table Word Nat

namespace Chain

def scriptedError? (c : Chain) (call : NodeCall) : Option Error :=
  (c.script.errors.find? (·.1 = callName call)).map fun (_, text) => .nodeRpc call.method text

/-! ## Reads -/

def zeroProposer : Registry.ProposerInfo := ⟨0, .zero, .zero⟩

def zeroDelegation : Ledger.DelegationInfo := ⟨.zero, .zero, 0⟩

def recordOf (c : Chain) (target : Address) (key : PublicKey) : Bytes :=
  if target = c.registryAddress then ((c.registry.get? key).getD zeroProposer).encode
  else ((c.ledger.get? key).getD zeroDelegation).encode

def lookupKey? (c : Chain) (call : Multicall.Call) : Option PublicKey :=
  let lookup? :=
    if call.target = c.registryAddress then some Registry.lookup
    else if call.target = c.ledgerAddress then some Ledger.lookup
    else none
  match lookup? with
  | none => none
  | some lookup =>
    match lookup.arguments? call.data with
    | some [.bytes key] => FixedBytes.ofBytes? key
    | _ => none

def answerCall (c : Chain) (call : Multicall.Call) : Multicall.Answer :=
  match c.lookupKey? call with
  | none => ⟨false, []⟩
  | some key =>
    if c.script.failingLookups.contains key then ⟨false, []⟩
    else
      match c.script.rawLookups.find? fun (target, k, _) => target = call.target && k = key with
      | some (_, _, data) => ⟨true, data⟩
      | none => ⟨true, c.recordOf call.target key⟩

def answerAggregate (c : Chain) (calls : List Multicall.Call) : Except Error Bytes :=
  match c.script.aggregateError with
  | some text => .error (.nodeRpc "eth_call" text)
  | none =>
    if c.script.maxAggregateCalls.any (· < calls.length) then
      .error (.nodeRpc "eth_call" c.script.sizeError)
    else
      match c.script.aggregateRaw with
      | some raw => .ok raw
      | none =>
        let answers := calls.map c.answerCall
        .ok (Multicall.encodeAnswers (answers.take (answers.length - c.script.aggregateDrop)))

/-- The aggregating contract serves its calls; any other contract gives back what it is given. -/
def answerRead (c : Chain) (target : Address) (data : Bytes) : Except Error Bytes :=
  if target ≠ c.multicall then .ok data
  else
    match Multicall.decode? data with
    | none => .error (.nodeRpc "eth_call" "execution reverted")
    | some calls => c.answerAggregate calls

/-! ## Transactions -/

/-- What a transaction does to the two contracts. -/
def apply (c : Chain) (t : Transaction) : Chain :=
  if t.target = c.registryAddress then
    match Registry.decodeBatch? t.input with
    | none => c
    | some entries =>
      { c with
        registry := entries.foldl
          (fun table e => table.insert e.pubkey ⟨1, c.account, e.payoutRecipient⟩) c.registry }
  else if t.target = c.ledgerAddress then
    match Ledger.decodeBatch? t.input with
    | none => c
    | some entries =>
      { c with
        ledger := entries.foldl
          (fun table e => table.insert e.pubkey ⟨c.account, e.payoutRecipient, 1⟩) c.ledger }
  else c

def accept (c : Chain) (hash : Word) (t : Transaction) : Chain :=
  let c := { c with nonce := c.nonce + 1 }
  let reverts := c.script.reverting.contains t.target
  let c := if reverts then c else c.apply t
  let block := if c.script.noBlock then none else some c.nonce
  { c with receipts := c.receipts.insert hash ⟨!reverts, block⟩ }

def answerSend (c : Chain) (raw : Bytes) : Except Error Word × Chain :=
  match c.script.send, Transaction.ofRaw? raw with
  | .rejected, _ => (.error (.nodeRpc "eth_sendRawTransaction" c.script.sendDetails), c)
  | _, none => (.error (.nodeRpc "eth_sendRawTransaction" "undecodable"), c)
  | mode, some t =>
    let hash := Transaction.hashRaw raw
    let c := c.accept hash t
    match mode with
    | .alreadyKnown => (.error (.nodeRpc "eth_sendRawTransaction" "already known"), c)
    | .wrongHash => (.ok .zero, c)
    | _ => (.ok hash, c)

def answerStatus (c : Chain) (hash : Word) : Option TxLookup :=
  match c.receipts.get? hash with
  | none => none
  | some receipt =>
    match c.script.receipts, receipt.blockNumber with
    | .mined, some block => some (.mined block)
    | _, _ => some .pending

def answerReceipt (c : Chain) (hash : Word) : Except Error (Option Receipt) × Chain :=
  let count := (c.polled.get? hash).getD 0
  let c := { c with polled := c.polled.insert hash (count + 1) }
  match c.script.receipts with
  | .withheld => (.ok none, c)
  | .after => (.ok (if count < c.script.polls then none else c.receipts.get? hash), c)
  | .errors =>
    if count < c.script.polls then
      (.error (.nodeRpc "eth_getTransactionReceipt" "flaky node"), c)
    else (.ok (c.receipts.get? hash), c)
  | .mined => (.ok (c.receipts.get? hash), c)

/-! ## Calls -/

def reply (c : Chain) : (call : NodeCall) → Except Error call.Reply × Chain
  | .chainId => (.ok c.script.chainId, c)
  | .gasPrice => (.ok c.script.gasPrice, c)
  | .priorityFee => (.ok c.script.tip, c)
  | .call target data => (c.answerRead target data, c)
  | .estimateGas .. => (.ok c.script.gasEstimate, c)
  | .pendingNonce _ => (.ok c.nonce, c)
  | .sendRaw raw => c.answerSend raw
  | .transactionStatus hash => (.ok (c.answerStatus hash), c)
  | .receipt hash => c.answerReceipt hash

def answer (c : Chain) (call : NodeCall) : Except Error call.Reply × Chain :=
  match c.scriptedError? call with
  | some e => (.error e, c)
  | none => c.reply call

def traces (c : Chain) (call : NodeCall) : List Trace :=
  let aggregate :=
    match call with
    | .call target data =>
      if target = c.multicall && (c.scriptedError? call).isNone then
        (Multicall.decode? data).toList.map fun calls =>
          .aggregate calls.length (calls.head?.map (·.target))
      else []
    | _ => []
  .call call :: aggregate

end Chain

end Registrar.Simulation
