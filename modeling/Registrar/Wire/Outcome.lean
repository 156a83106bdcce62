import Registrar.Wire.Message

/-! Statuses, outcomes and results as JSON. -/
namespace Registrar
set_option autoImplicit false

open Json (Shape Decoder)
open Json.Shape (required optional defaulted)
open Wire

/-! ## Names -/

def Wire.asName {α : Type} (names : List (String × α)) (s : String) : Except Json.Fault α :=
  match names.find? (·.1 = s) with
  | some (_, a) => .ok a
  | none => .error .shape

/-- A constant is its name, or an object that maps its name to null. -/
def Wire.asConstant {α : Type} (names : List (String × α)) : Decoder α
  | .string s => asName names s
  | .object [(_, .misnamed _)] => .error .syntactic
  | .object [(s, v)] =>
    match asName names s, v with
    | .error e, _ => .error e
    | .ok a, .null => .ok a
    | .ok _, v => .error v.mismatch
  | v => .error v.mismatch

def Authority.names : List (String × Authority) :=
  [("registry", .registry), ("delegation_ledger", .delegationLedger)]

def Authority.ofJson : Decoder Authority := asConstant names

def Authority.toJson (a : Authority) : Json := .string a.label

def DelegationAction.names : List (String × DelegationAction) :=
  [("claim", .claim), ("exit", .exit)]

def DelegationAction.ofJson : Decoder DelegationAction := asConstant names

def DelegationAction.toJson (a : DelegationAction) : Json := .string a.label

/-! ## Statuses -/

def StatusKind.names : List (String × StatusKind) :=
  [("unregistered", .unregistered), ("registered", .registered), ("active", .active),
    ("exit_pending", .exitPending), ("exited", .exited), ("kicked", .kicked)]

/-- The six named kinds are constants; any other one is an object that gives its code. -/
def StatusKind.ofJson : Decoder StatusKind
  | .object [("other", v)] => (Json.asByte v).map .other
  | v => asConstant names v

def StatusKind.toJson : StatusKind → Json
  | unregistered => .string "unregistered"
  | registered => .string "registered"
  | active => .string "active"
  | exitPending => .string "exit_pending"
  | exited => .string "exited"
  | kicked => .string "kicked"
  | other code => .object [("other", .ofNat code.toNat)]

def AuthorityStatus.shape : Shape AuthorityStatus :=
  AuthorityStatus.mk <$> required "status" StatusKind.ofJson
    <*> required "representative" asBytes
    <*> required "payout_recipient" asBytes

def AuthorityStatus.ofJson : Decoder AuthorityStatus := shape.decode

def AuthorityStatus.toJson (s : AuthorityStatus) : Json :=
  .object
    [("status", s.kind.toJson), ("representative", hexJson s.representative),
      ("payout_recipient", hexJson s.payoutRecipient)]

/-! ## Outcomes

An outcome names its state in the member `state`, which may stand anywhere among the members, or in
the first item of an array. -/

/-- The state of a tagged value and the value without the tag. -/
def Wire.splitTag (tag : String) : Decoder (String × Json)
  | .object members =>
    match members.filter (·.1 = tag) with
    | [(_, .string state)] => .ok (state, .object (members.filter (·.1 ≠ tag)))
    | _ => .error .shape
  | .array (.string state :: items) => .ok (state, .array items)
  | v => .error v.mismatch

/-- Reads a tagged value by the shape that belongs to its state. -/
def Wire.asTagged {α : Type} (shapes : List (String × Shape α)) : Decoder α := fun v =>
  match v with
  | .object _ | .array _ =>
    match Json.retained v with
    | .error e => .error e
    | .ok v =>
      match splitTag "state" v with
      | .error e => .error e
      | .ok (state, rest) =>
        match asName shapes state with
        | .error e => .error e
        | .ok shape => shape.decode rest
  | v => .error v.mismatch

def DispatchStatus.shapes : List (String × Shape DispatchStatus) :=
  [("not_required", .pure .notRequired), ("already_satisfied", .pure .alreadySatisfied),
    ("confirmed", .confirmed <$> required "tx_hash" asKeptBytes),
    ("failed", .failed <$> optional "tx_hash" asKeptBytes <*> required "reason" Json.asString),
    ("unknown", .unknown <$> optional "tx_hash" asKeptBytes <*> required "reason" Json.asString)]

def DispatchStatus.ofJson : Decoder DispatchStatus := asTagged shapes

def DispatchStatus.toJson (s : DispatchStatus) : Json :=
  match s with
  | notRequired | alreadySatisfied => .object [("state", .string s.label)]
  | confirmed h => .object [("state", .string s.label), ("tx_hash", hexJson h)]
  | failed h reason | unknown h reason =>
    .object
      [("state", .string s.label), ("tx_hash", .ofOption hexJson h), ("reason", .string reason)]

def TransactionOutcome.shapes : List (String × Shape TransactionOutcome) :=
  [("confirmed", .confirmed <$> required "tx_hash" asKeptBytes),
    ("failed", .failed <$> optional "tx_hash" asKeptBytes <*> required "reason" Json.asString),
    ("unknown", .unknown <$> optional "tx_hash" asKeptBytes <*> required "reason" Json.asString)]

def TransactionOutcome.ofJson : Decoder TransactionOutcome := asTagged shapes

def TransactionOutcome.toJson (o : TransactionOutcome) : Json :=
  match o with
  | confirmed h => .object [("state", .string o.label), ("tx_hash", hexJson h)]
  | failed h reason | unknown h reason =>
    .object
      [("state", .string o.label), ("tx_hash", .ofOption hexJson h), ("reason", .string reason)]

/-! ## Results -/

def DelegationActionResult.shape : Shape DelegationActionResult :=
  DelegationActionResult.mk <$> required "pubkey" asKey
    <*> required "action" DelegationAction.ofJson
    <*> required "outcome" TransactionOutcome.ofJson

def DelegationActionResult.ofJson : Decoder DelegationActionResult := shape.decode

def DelegationActionResult.toJson (r : DelegationActionResult) : Json :=
  .object
    [("pubkey", hexJson r.pubkey), ("action", r.action.toJson), ("outcome", r.outcome.toJson)]

def ReconciliationResult.shape : Shape ReconciliationResult :=
  ReconciliationResult.mk <$> required "pubkey" asKey
    <*> required "representative" asBytes
    <*> required "payout_recipient" asBytes
    <*> optional "secondary_signature" EcdsaSignature.ofJson
    <*> required "registry_success" Json.asBool
    <*> required "delegation_success" Json.asBool
    <*> required "registry" DispatchStatus.ofJson
    <*> required "delegation" DispatchStatus.ofJson

def ReconciliationResult.ofJson : Decoder ReconciliationResult := shape.decode

def ReconciliationResult.toJson (r : ReconciliationResult) : Json :=
  .object
    [("pubkey", hexJson r.pubkey), ("representative", hexJson r.representative),
      ("payout_recipient", hexJson r.payoutRecipient),
      ("secondary_signature", .ofOption EcdsaSignature.toJson r.secondarySignature),
      ("registry_success", .bool r.registrySuccess),
      ("delegation_success", .bool r.delegationSuccess),
      ("registry", r.registry.toJson), ("delegation", r.delegation.toJson)]

end Registrar
