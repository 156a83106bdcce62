import Registrar.Json.Access
import Registrar.Outcome
import Registrar.Registration
import Registrar.Report
import Registrar.Status
import Registrar.Exclusion
import Registrar.Wire.Outcome

/-! Keys, words, intents and reports in the short form in which scenarios name them: a number stands for
a value made from it, and what is left out has a usual value. -/
namespace Registrar.Simulation.Shorthand
set_option autoImplicit false

/-! ## Bytes -/

def bytes (v : Json) : Bytes :=
  match decodeHex v.str with
  | .ok b => b
  | .error _ => []

/-- A text is hexadecimal; a number is made into bytes by `ofNumber`. -/
def fixed {n : Nat} (ofNumber : Nat → FixedBytes n) : Json → FixedBytes n
  | .string s =>
    match FixedBytes.ofHex s with
    | .ok x => x
    | .error _ => .zero
  | v => ofNumber v.nat

/-- A number stands for the byte repeated. -/
def repeated {n : Nat} : Json → FixedBytes n :=
  fixed fun k => .replicate n (UInt8.ofNat k)

def word : Json → Word := repeated

def address : Json → Address := repeated

/-- A number stands for the key that begins with its four bytes and goes on with `0xab`. -/
def pubkey : Json → PublicKey :=
  fixed fun k => (FixedBytes.ofBytes? (bytesOfNat 4 k ++ List.replicate 44 0xab)).getD .zero

def pubkeys (v : Json) : List PublicKey :=
  v.items.map pubkey

/-- The keys of the numbers from the first item up to but not including the second. -/
def pubkeyRange (v : Json) : List PublicKey :=
  let first := (v.item 0).nat
  (List.range ((v.item 1).nat - first)).map fun i => pubkey (.ofNat (first + i))

/-! ## Values in their wire form -/

/-- A value in its wire form, or else a usual one. -/
def wired {α : Type} (decode : Json.Decoder α) (default : α) (v : Json) : α :=
  match decode v with
  | .ok a => a
  | .error _ => default

def authority : Json → Authority := wired Authority.ofJson .registry

def action : Json → DelegationAction := wired DelegationAction.ofJson .claim

def kind : Json → StatusKind := wired StatusKind.ofJson .unregistered

def dispatchStatus : Json → DispatchStatus := wired DispatchStatus.ofJson .notRequired

/-- Kind, representative and payout recipient one behind the other. -/
def status (v : Json) : AuthorityStatus :=
  ⟨kind (v.item 0), address (v.item 1), address (v.item 2)⟩

/-- A key and its status one behind the other, for each row. -/
def statusMap (v : Json) : StatusMap :=
  .ofList (v.items.map fun row =>
    (pubkey (row.item 0), ⟨kind (row.item 1), address (row.item 2), address (row.item 3)⟩))

/-- A key and its two flags one behind the other, for each row. -/
def exclusions (v : Json) : List ExclusionRecord :=
  v.items.map fun row => ⟨pubkey (row.item 0), ⟨(row.item 1).isTrue, (row.item 2).isTrue⟩⟩

/-! ## Intents and reports -/

def intentOf (v : Json) (key : PublicKey) : SignedRegistration :=
  { message :=
      { feeRecipient := v.given "fee" address (.replicate 20 0x55)
        gasLimit := v.given "gas_limit" Json.word64 30000000
        timestamp := v.given "timestamp" Json.word64 1700000000
        pubkey := key }
    signature := v.given "sig" repeated (.replicate 96 0x11) }

/-- Each item is one intent, or one for each key of a range. -/
def intents (v : Json) : List SignedRegistration :=
  v.items.flatMap fun item =>
    match item.get? "range" with
    | some range => (pubkeyRange range).map (intentOf item)
    | none => [intentOf item (pubkey (item.get "n"))]

def ecdsa (v : Json) : EcdsaSignature :=
  ⟨.ofNat (v.get "v").nat, word (v.get "r"), word (v.get "s")⟩

def report (v : Json) : DelegationReport :=
  ⟨pubkey (v.get "n"), .ofNat 256 (v.natAt "balance" 0), ecdsa v⟩

end Registrar.Simulation.Shorthand
