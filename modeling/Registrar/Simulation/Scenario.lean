import Registrar.Engine.Basic
import Registrar.Simulation.Shorthand
import Registrar.Simulation.World

/-! Scenarios: the settings of an engine, its exclusion list, the script of the chain and those of the
signers, in a short form in which everything has a usual value. -/
namespace Registrar.Simulation
set_option autoImplicit false

open Shorthand

/-! ## The chain -/

def Script.usual : Script :=
  { chainId := 17000
    gasPrice := 2000000000
    tip := 1000000000
    gasEstimate := 100000
    failingLookups := []
    rawLookups := []
    maxAggregateCalls := none
    sizeError := "response size exceeded"
    aggregateError := none
    aggregateRaw := none
    aggregateDrop := 0
    errors := []
    send := .accepted
    sendDetails := ""
    receipts := .mined
    polls := 0
    noBlock := false
    reverting := [] }

def Chain.usual (account : Address) : Chain :=
  { script := .usual
    account
    registryAddress := .ofNat 0xa1
    ledgerAddress := .ofNat 0xb2
    multicall := .ofNat 0xca11bde05977b3631167028862be2a173976ca11
    nonce := 0
    registry := .empty
    ledger := .empty
    receipts := .empty
    polled := .empty }

def SendMode.named (v : Json) : SendMode :=
  match v.textAt "mode" with
  | "rejected" => .rejected
  | "already_known" => .alreadyKnown
  | "wrong_hash" => .wrongHash
  | _ => .accepted

def ReceiptMode.named (v : Json) : ReceiptMode :=
  match v.textAt "mode" with
  | "withheld" => .withheld
  | "after" => .after
  | "errors" => .errors
  | _ => .mined

def Script.amend (s : Script) (v : Json) : Script :=
  { chainId := v.given "chain_id" Json.word64 s.chainId
    gasPrice := v.natAt "gas_price" s.gasPrice
    tip := v.natAt "tip" s.tip
    gasEstimate := v.given "gas_estimate" Json.word64 s.gasEstimate
    failingLookups := v.given "failing_lookups" pubkeys s.failingLookups
    rawLookups := v.given "raw_lookups"
      (fun rows => rows.items.map fun r => (address (r.item 0), pubkey (r.item 1), bytes (r.item 2)))
      s.rawLookups
    maxAggregateCalls := v.nullable "max_aggregate_calls" Json.nat s.maxAggregateCalls
    sizeError := v.given "size_error" Json.str s.sizeError
    aggregateError := v.nullable "aggregate_error" Json.str s.aggregateError
    aggregateRaw := v.nullable "aggregate_raw" bytes s.aggregateRaw
    aggregateDrop := v.natAt "aggregate_drop" s.aggregateDrop
    errors := v.given "errors" (fun e => e.members.map fun (name, t) => (name, t.str)) s.errors
    send := v.given "send" SendMode.named s.send
    sendDetails := v.given "send" (·.textAt "details") s.sendDetails
    receipts := v.given "receipts" ReceiptMode.named s.receipts
    polls := v.given "receipts" (·.natAt "polls" 0) s.polls
    noBlock := v.flagAt "no_block" s.noBlock
    reverting := v.given "reverting" (fun a => a.items.map address) s.reverting }

/-- A row that has a code has a representative and a payout recipient too; one without a code takes
its key out of the table. -/
def tableRow? (row : Json) : Option (PublicKey × Option (UInt8 × Address × Address)) :=
  match (row.item 1).present? with
  | none => some (pubkey (row.item 0), none)
  | some code => do
    let representative ← (row.item 2).present?
    let payout ← (row.item 3).present?
    return (pubkey (row.item 0), some (.ofNat code.nat, address representative, address payout))

def amendTable {α : Type} (record : UInt8 → Address → Address → α) (t : Table PublicKey α)
    (rows : List Json) : Table PublicKey α :=
  (rows.filterMap tableRow?).foldl
    (fun t row =>
      match row with
      | (key, none) => t.erase key
      | (key, some (code, representative, payout)) =>
        t.insert key (record code representative payout))
    t

def Chain.amend (c : Chain) (v : Json) : Chain :=
  { c with
    script := c.script.amend v
    nonce := v.given "nonce" Json.word64 c.nonce
    registry := amendTable (fun code r p => ⟨code, r, p⟩) c.registry (v.list "registry")
    ledger := amendTable (fun code r p => ⟨r, p, code⟩) c.ledger (v.list "ledger") }

/-! ## Signers -/

def Swap.ofJson (v : Json) : Swap :=
  ⟨(v.get? "pubkey").map Shorthand.pubkey, (v.get? "fee").map address, (v.get? "gas_limit").map Json.word64,
    (v.get? "timestamp").map Json.word64⟩

def RemoteScript.ofJson (v : Json) : RemoteScript :=
  { keys := (v.get? "keys").map pubkeys
    failing := pubkeys (v.get "failing")
    swapped := (v.list "swapped").map fun row => (pubkey (row.item 0), Swap.ofJson (row.item 1))
    signature := .replicate 96 0xee }

/-- The secondary signer, which works unless it is said to be null. -/
def SecondaryScript.ofJson? : Option Json → Option SecondaryScript
  | some .null => none
  | v => some ⟨pubkeys ((v.getD .null).get "failing"), .replicate 32 0x5e⟩

/-! ## Engine and world -/

structure Scenario where
  engine : Engine
  reader : StatusReader
  bodyLimit : Nat
  world : World

/-- The engine of a scenario and the world around it at its start. -/
def Scenario.ofJson (v : Json) (signer : Signer) : Scenario :=
  let settings := v.get "settings"
  let chain := (Chain.usual signer.address).amend (v.get "node")
  let gateway : Gateway :=
    { signer
      settings :=
        { chainId := settings.given "chain_id" Json.word64 17000
          maxGasPrice := settings.natAt "max_gas_price_wei" 100000000000
          pollInterval := settings.natAt "poll_ms" 5
          confirmationTimeout := settings.natAt "timeout_ms" 200
          multicall := settings.given "multicall" address chain.multicall
          horizon := none } }
  let delegation := if settings.flagAt "delegation" true then some chain.ledgerAddress else none
  let reader : StatusReader :=
    { gateway
      registry := chain.registryAddress
      delegation
      chunkSize := settings.natAt "status_chunk_size" 500 }
  let remote := (v.get? "remote_signer").map RemoteScript.ofJson
  let secondary := SecondaryScript.ofJson? (v.member? "secondary_signer")
  { engine :=
      { gateway
        settings :=
          { maxBatchSize := settings.natAt "max_batch_size" 1000
            registry := chain.registryAddress
            delegation
            payoutOverride := (settings.get? "payout_override").map address }
        statuses := reader.source
        canResign := remote.isSome
        canAuthorize := secondary.isSome }
    reader
    bodyLimit := settings.natAt "body_limit" 65536
    world :=
      { chain, remote, secondary
        exclusions := .ofTable (.ofRecords (exclusions (v.get "exclusions")) 1)
        observed := !settings.flagAt "no_observer" false
        metrics := .start
        now := 0
        shutdown := if settings.flagAt "shutdown" false then some .quiet else none
        log := [] } }

/-- What a scenario says of the chain, at its start and in the steps that change it later. -/
def chainChanges (v : Json) : List Json :=
  v.get "node" :: ((v.list "steps").filter fun step => step.textAt "do" = "node").map (·.get "set")

/-- A scenario in which a row of a table is not complete cannot be run. -/
def Scenario.ofJson? (v : Json) (signer : Signer) : Option Scenario :=
  let rows := (chainChanges v).flatMap fun change => change.list "registry" ++ change.list "ledger"
  if rows.all fun row => (tableRow? row).isSome then some (.ofJson v signer) else none

/-- A message on the shutdown channel, on its way for a while or there at once. -/
def World.send (w : World) (delay : Option Nat) (message : Option Bool) : World :=
  { w with
    shutdown := w.shutdown.map fun s =>
      match delay with
      | some d => s.post ⟨w.now + d, message⟩
      | none => s.receive message }

end Registrar.Simulation
