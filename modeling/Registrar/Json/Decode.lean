import Registrar.Double
import Registrar.Json.Parser
import Registrar.Text.Decimal

/-! Reading typed values from JSON in the order of the text. The first fault met decides: the text
breaks there, or the value there has the wrong shape. -/
namespace Registrar.Json
set_option autoImplicit false

inductive Fault where
  /-- The text is no JSON. -/
  | syntactic
  /-- The value is not of the expected shape. -/
  | shape
deriving DecidableEq, Repr

abbrev Decoder (α : Type) := Json → Except Fault α

/-! ## Numbers beyond the range of floating point

A number that is no word of 64 bits is made of the digits that fit into such a word, as a double, times
a power of ten, as a double. -/

/-- The digits of a number that count, and the power of ten that they stand before. -/
structure Scaled where
  significand : Nat
  exponent : Int
  /-- A digit did not fit and was left out. -/
  full : Bool

namespace Scaled

def start : Scaled := ⟨0, 0, false⟩

/-- The significand with one more digit, if it fits. -/
def extended? (s : Scaled) (digit : Char) : Option Nat :=
  let significand := 10 * s.significand + (digit.toNat - 48)
  if significand ≤ Text.maxWord64 then some significand else none

/-- Takes a digit before the point; after the first one that does not fit, all are left out. -/
def pushWhole (s : Scaled) (digit : Char) : Scaled :=
  match s.full, s.extended? digit with
  | false, some significand => { s with significand := significand }
  | _, _ => { s with exponent := s.exponent + 1, full := true }

/-- Takes a digit behind the point; the first one that does not fit ends the significand. -/
def pushPlace (s : Scaled) (digit : Char) : Scaled :=
  match s.full, s.extended? digit with
  | false, some significand => { s with significand := significand, exponent := s.exponent - 1 }
  | _, _ => { s with full := true }

def overflows (s : Scaled) : Bool :=
  match s.significand, s.exponent with
  | 0, _ => false
  | _, .negSucc _ => false
  | significand, .ofNat exponent =>
    exponent > Double.maxDecimalExponent ||
      Double.overflowBound ≤ Double.round significand * Double.round (Nat.pow 10 exponent)

end Scaled

/-- The digits of an exponent count up to the first that takes it beyond 32 bits. -/
def maxExponent : Nat := 0x7fffffff

/-- The digits before and behind the point, whether the exponent is negative, and its digits. -/
def numberParts (digits : List Char) : List Char × List Char × Bool × List Char :=
  let unsigned := digits.dropWhile (· == '-')
  let whole := unsigned.takeWhile Text.isDigit
  let rest := unsigned.dropWhile Text.isDigit
  let (fraction, rest) := match rest with
    | '.' :: r => (r.takeWhile Text.isDigit, r.dropWhile Text.isDigit)
    | r => ([], r)
  match rest.drop 1 with
  | '-' :: e => (whole, fraction, true, e)
  | '+' :: e => (whole, fraction, false, e)
  | e => (whole, fraction, false, e)

/-- The significand of a number with the power of ten that its places give it. -/
def significandOf (digits : String) : Scaled :=
  let (whole, fraction, _, _) := numberParts digits.toList
  let s := whole.foldl Scaled.pushWhole .start
  fraction.foldl Scaled.pushPlace { s with full := false }

def overflows (digits : String) : Bool :=
  let (_, _, negative, exponentDigits) := numberParts digits.toList
  let s := significandOf digits
  let exponent := Text.digitsValue exponentDigits
  if negative then { s with exponent := s.exponent - exponent : Scaled }.overflows
  else { s with exponent := s.exponent + exponent : Scaled }.overflows

/-- A reader gives the number up before its last digit: the exponent grows too large before. -/
def isLeftEarly (digits : String) : Bool :=
  let (_, _, negative, exponentDigits) := numberParts digits.toList
  let leading := exponentDigits.dropLast
  (significandOf digits).significand ≠ 0 && !negative && Text.digitsValue leading > maxExponent

/-! ## Scalars -/

/-- The fault of a value that is not what was expected. -/
def mismatch : Json → Fault
  | broken | gap | unpaired _ | buried _ | misnamed _ => .syntactic
  | number digits => if overflows digits then .syntactic else .shape
  | _ => .shape

def asString : Decoder String
  | string s => .ok s
  | v => .error v.mismatch

def asBool : Decoder Bool
  | bool b => .ok b
  | v => .error v.mismatch

/-- An unsigned whole number up to a limit, written without fraction, exponent or sign. -/
def asNat (limit : Nat) : Decoder Nat
  | number digits =>
    match (Text.decimal? digits.toList).filter (· ≤ limit) with
    | some n => .ok n
    | none => .error (mismatch (number digits))
  | v => .error v.mismatch

def asWord64 : Decoder UInt64 :=
  fun v => (asNat Text.maxWord64 v).map UInt64.ofNat

def asByte : Decoder UInt8 :=
  fun v => (asNat 255 v).map UInt8.ofNat

def asOptional {α : Type} (decode : Decoder α) : Decoder (Option α)
  | null => .ok none
  | v => (decode v).map some

def asList {α : Type} (decode : Decoder α) : Decoder (List α)
  | array items => items.mapM decode
  | v => .error v.mismatch

def skipped : Decoder Unit :=
  fun v => if v.intact then .ok () else .error .syntactic

/-! ## Values read twice -/

mutual

def retainable : Json → Bool
  | broken | gap | unpaired _ | buried _ | misnamed _ => false
  | number digits => !overflows digits
  | array items => retainableItems items
  | object members => retainableMembers members
  | _ => true

def retainableItems : List Json → Bool
  | [] => true
  | v :: vs => v.retainable && retainableItems vs

def retainableMembers : List (String × Json) → Bool
  | [] => true
  | (_, v) :: vs => v.retainable && retainableMembers vs

end

/-- A value kept whole to be read again. -/
def retained : Decoder Json :=
  fun v => if v.retainable then .ok v else .error .syntactic

/-! ## Records -/

/-- Whether a member of a record may be missing. -/
inductive Presence where
  | required
  /-- May be missing from an object, not from an array. -/
  | optional
  /-- May be missing from both. -/
  | defaulted
deriving DecidableEq, Repr

structure Member where
  name : String
  presence : Presence
  check : Decoder Unit

/-- The shape of a record: its members in order, and the record made of the members found. -/
structure Shape (α : Type) where
  members : List Member
  build : (String → Option Json) → Except Fault α

namespace Shape

variable {α β : Type}

def pure (a : α) : Shape α :=
  ⟨[], fun _ => .ok a⟩

/-- Applies the function that one shape gives to the argument that the next one gives. -/
def app (f : Shape (α → β)) (a : Shape α) : Shape β :=
  ⟨f.members ++ a.members, fun found =>
    match f.build found with
    | .error e => .error e
    | .ok g => (a.build found).map g⟩

instance : Functor Shape := ⟨fun f s => app (pure f) s, fun a s => app (pure fun _ => a) s⟩

instance : Pure Shape := ⟨fun a => Shape.pure a⟩

instance : Seq Shape := ⟨fun f a => app f (a ())⟩

def required (name : String) (decode : Decoder α) : Shape α :=
  ⟨[⟨name, .required, fun v => (decode v).map fun _ => ()⟩], fun found =>
    match found name with
    | some v => decode v
    | none => .error .shape⟩

/-- A member that is null when it is missing. -/
def optional (name : String) (decode : Decoder α) : Shape (Option α) :=
  ⟨[⟨name, .optional, fun v => (asOptional decode v).map fun _ => ()⟩], fun found =>
    match found name with
    | some v => asOptional decode v
    | none => .ok none⟩

/-- A member with a value for when it is missing. -/
def defaulted (name : String) (decode : Decoder α) (default : α) : Shape α :=
  ⟨[⟨name, .defaulted, fun v => (decode v).map fun _ => ()⟩], fun found =>
    match found name with
    | some v => decode v
    | none => .ok default⟩

/-- Checks the members of an object in the order of the text: a known member must have its shape
and come once, any other is skipped if its name can be read. -/
def scanMembers (known : List Member) (seen : List String) :
    List (String × Json) → Except Fault (List String)
  | [] => .ok seen
  | (_, .misnamed _) :: _ => .error .syntactic
  | (name, v) :: rest =>
    match known.find? (·.name = name) with
    | none =>
      match skipped v with
      | .error e => .error e
      | .ok () => scanMembers known seen rest
    | some member =>
      if seen.contains name then .error .shape
      else match member.check v with
        | .error e => .error e
        | .ok () => scanMembers known (name :: seen) rest

/-- Pairs the items of an array with the members in order. -/
def scanItems : List Member → List Json → Except Fault (List (String × Json))
  | [], [] => .ok []
  | [], _ :: _ => .error .syntactic
  | member :: known, [] => if member.presence = .defaulted then scanItems known [] else .error .shape
  | member :: known, v :: rest =>
    match member.check v with
    | .error e => .error e
    | .ok () => (scanItems known rest).map ((member.name, v) :: ·)

def findMember (members : List (String × Json)) (name : String) : Option Json :=
  (members.find? (·.1 = name)).map (·.2)

def ofMembers (s : Shape α) (members : List (String × Json)) : Except Fault α :=
  match scanMembers s.members [] members with
  | .error e => .error e
  | .ok seen =>
    if s.members.any fun m => m.presence = .required && !seen.contains m.name then .error .shape
    else s.build (findMember members)

/-- Reads the record from an object, or from an array with the members in order. -/
def decode (s : Shape α) : Decoder α
  | object members => s.ofMembers members
  | array items =>
    match scanItems s.members items with
    | .error e => .error e
    | .ok members => s.build (findMember members)
  | v => .error v.mismatch

def decodeObject (s : Shape α) : Decoder α
  | object members => s.ofMembers members
  | v => .error v.mismatch

end Shape

end Registrar.Json
