import Registrar.Engine.Fees
import Registrar.Lifecycle
import Registrar.Program
import Registrar.Transaction

/-! Sending transactions with the engine's key: built and signed, broadcast, and followed to a
receipt. A wait that ends without a receipt leaves the outcome open. -/
namespace Registrar
set_option autoImplicit false

structure Signer where
  key : Crypto.Secp256k1.PrivateKey
  address : Address
  address_eq : address = .ofKey key

def Signer.ofKey (key : Crypto.Secp256k1.PrivateKey) : Signer :=
  ⟨key, .ofKey key, rfl⟩

/-- The signer whose key is given by 64 digits after an optional `0x` or `0X`. -/
def Signer.ofText? (cs : List Char) : Option Signer :=
  match Text.Hex.decodeDigits (Text.utf8 (Address.dropMark cs)) with
  | .error _ => none
  | .ok bytes =>
    if bytes.length = 32 then
      (Crypto.Secp256k1.PrivateKey.ofNat? (natOfBytes bytes)).map Signer.ofKey
    else none

/-- Intervals are in milliseconds. -/
structure GatewaySettings where
  chainId : UInt64
  /-- A gas price above this many wei is refused. -/
  maxGasPrice : Nat
  pollInterval : Nat
  confirmationTimeout : Nat
  multicall : Address
  /-- The last instant that the clock can tell, if there is one. -/
  horizon : Option Nat

structure Gateway where
  signer : Signer
  settings : GatewaySettings

structure SignedTx where
  raw : Bytes
  nonce : UInt64
  gasLimit : UInt64
deriving DecidableEq

def SignedTx.hash (tx : SignedTx) : Word :=
  Transaction.hashRaw tx.raw

/-- How one attempt to send and confirm ended; the hash is known once the transaction is signed. -/
structure TxAttempt where
  txHash : Option Word
  phase : Phase
  result : Except Error Receipt

/-- The result of a step on the way of one transaction, and where the transaction stands then. -/
abbrev Stepped (α : Type) := Except Error α × Lifecycle

namespace Gateway

open Program (request)

def node (c : NodeCall) : Program (Except Error c.Reply) :=
  request (.node c)

def read (target : Address) (data : Bytes) : Program (Except Error Bytes) :=
  node (.call target data)

/-- The node must serve the configured chain. -/
def verifyChainId (g : Gateway) : Program (Except Error Unit) := do
  match ← node .chainId with
  | .error e => return .error e
  | .ok actual =>
    if actual = g.settings.chainId then return .ok ()
    else return .error (.chainIdMismatch "execution_node" g.settings.chainId actual)

/-! ## Building and signing -/

def markSigned (tx : SignedTx) (life : Lifecycle) : Stepped SignedTx :=
  match life.sign tx.hash with
  | (life, .error e) => (.error e, life)
  | (life, .ok ()) => (.ok tx, life)

/-- Takes the raw form of a transaction if it could be signed. -/
def takeSigned (t : Transaction) (life : Lifecycle) : Option Bytes → Stepped SignedTx
  | none => (.error (.signingFailed "no usable nonce"), life)
  | some raw => markSigned ⟨raw, t.nonce, t.gasLimit⟩ life

def signTransaction (g : Gateway) (t : Transaction) (life : Lifecycle) :
    Stepped SignedTx :=
  takeSigned t life (t.sign? g.signer.key)

/-- Asks for gas price, tip, gas and nonce in this order and signs the transaction. A gas price above
the ceiling ends the attempt before anything else is asked. -/
def build (g : Gateway) (target : Address) (data : Bytes) (life : Lifecycle) : Program (Stepped SignedTx) := do
  match ← node .gasPrice with
  | .error e => return (.error e, life)
  | .ok gasPrice =>
  if g.settings.maxGasPrice < gasPrice then
    return (.error (.gasPriceTooHigh gasPrice g.settings.maxGasPrice), life.fail)
  match ← node .priorityFee with
  | .error e => return (.error e, life)
  | .ok suggestedTip =>
  match ← node (.estimateGas g.signer.address target data) with
  | .error e => return (.error e, life)
  | .ok estimate =>
  match ← node (.pendingNonce g.signer.address) with
  | .error e => return (.error e, life)
  | .ok nonce =>
    let fees := Fees.ofSuggested g.settings.maxGasPrice gasPrice suggestedTip
    return g.signTransaction
      { chainId := g.settings.chainId
        nonce
        gasLimit := gasLimitOf estimate
        maxFeePerGas := fees.maxFee
        maxPriorityFeePerGas := fees.tip
        target
        input := data } life

/-! ## Broadcast -/

def markSubmitted (hash : Word) (life : Lifecycle) : Stepped Word :=
  match life.advance .submitted with
  | (life, .error e) => (.error e, life)
  | (life, .ok ()) => (.ok hash, life)

/-- A broadcast that failed still counts when the node knows the hash. -/
def submit (tx : SignedTx) (life : Lifecycle) : Program (Stepped Word) := do
  match ← node (.sendRaw tx.raw) with
  | .ok _ => return markSubmitted tx.hash life
  | .error sendError =>
    match ← node (.transactionStatus tx.hash) with
    | .ok (some _) => return markSubmitted tx.hash life
    | _ =>
      return (.error (.sendFailed tx.hash.toHex sendError.text), life.fail)

/-! ## Waiting for the receipt -/

def conclude (hash : Word) (receipt : Receipt) (life : Lifecycle) :
    Stepped Receipt :=
  if receipt.success then
    match life.advance .confirmed with
    | (life, .error e) => (.error e, life)
    | (life, .ok ()) => (.ok receipt, life)
  else (.error (.transactionReverted hash.toHex receipt.blockNumber), life.fail)

/-- The instant of the next poll: one interval on, and at least one tick, but not past the
deadline. -/
def nextPoll (settings : GatewaySettings) (deadline now : Nat) : Nat :=
  Nat.min (now + Nat.max settings.pollInterval 1) deadline

theorem lt_nextPoll (settings : GatewaySettings) {deadline now : Nat} (h : now < deadline) :
    now < nextPoll settings deadline now := by
  have : 1 ≤ Nat.max settings.pollInterval 1 := Nat.le_max_right ..
  exact Nat.lt_min.2 ⟨by omega, h⟩

/-- The receipt that a poll found; a poll that fails counts as one without receipt. -/
def found? : Except Error (Option Receipt) → Option Receipt
  | .ok receipt => receipt
  | .error _ => none

set_option linter.unusedVariables false in
/-- Polls until there is a receipt, the deadline has come or shutdown is called for; `reached` is an
instant known to have passed. -/
def pollFrom (g : Gateway) (hash : Word) (deadline : Nat) (life : Lifecycle) (reached : Nat) :
    Program (Stepped Receipt) :=
  .ask (.node (.receipt hash)) fun answer =>
    match found? answer with
    | some receipt => .done (conclude hash receipt life)
    | none =>
      .ask .clock fun now =>
        if h : Nat.max reached now < deadline then
          .ask (.pause (nextPoll g.settings deadline (Nat.max reached now))) fun ended =>
            match ended with
            | .elapsed =>
              pollFrom g hash deadline life (nextPoll g.settings deadline (Nat.max reached now))
            | .stopped => .done (.error (.confirmationCancelled hash.toHex "shutdown"), life)
        else .done (.error (.confirmationCancelled hash.toHex "confirmation timeout"), life)
termination_by deadline - reached
decreasing_by
  have h1 : reached ≤ Nat.max reached now := Nat.le_max_left ..
  exact Nat.sub_lt_sub_left (Nat.lt_of_le_of_lt h1 h)
    (Nat.lt_of_le_of_lt h1 (lt_nextPoll g.settings h))

/-- The instant at which a wait begun now ends; `none` beyond the horizon of the clock. -/
def deadline? (settings : GatewaySettings) (now : Nat) : Option Nat :=
  let instant := now + settings.confirmationTimeout
  match settings.horizon with
  | none => some instant
  | some last => if instant ≤ last then some instant else none

def waitForReceipt (g : Gateway) (hash : Word) (life : Lifecycle) : Program (Stepped Receipt) := do
  let life := if life.phase = .submitted then (life.advance .pending).1 else life
  let now ← request .clock
  match deadline? g.settings now with
  | none => .stuck
  | some deadline => g.pollFrom hash deadline life now

/-! ## The whole attempt -/

/-- Builds, signs and broadcasts while no other transaction can take a nonce. -/
def broadcast (g : Gateway) (target : Address) (data : Bytes) (life : Lifecycle) : Program (Stepped Word) := do
  request (.acquire .nonce)
  let submitted ← do
    match ← g.build target data life with
    | (.error e, life) => pure (Except.error e, life)
    | (.ok tx, life) => submit tx life
  request (.release .nonce)
  return submitted

def sendAndConfirm (g : Gateway) (label : String) (target : Address) (data : Bytes) :
    Program TxAttempt := do
  match ← g.broadcast target data (.start label) with
  | (.error e, life) =>
    let life := life.fail
    return ⟨life.txHash, life.phase, .error e⟩
  | (.ok hash, life) =>
    let (result, life) ← g.waitForReceipt hash life
    return ⟨life.txHash, life.phase, result⟩

end Gateway

/-- What an attempt means for the identities in it. -/
def TxAttempt.status (a : TxAttempt) : DispatchStatus :=
  match a.result, a.txHash with
  | .ok _, some h => .confirmed h
  | .ok _, none => .unknown none "confirmed without a transaction hash"
  | .error e, h => if e.isAmbiguous then .unknown h e.text else .failed h e.text

end Registrar
