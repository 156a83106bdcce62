import Registrar.Json.Basic
import Registrar.Text.Decimal

/-! Looking into JSON that is known to be well formed: what is missing or of another kind reads as
nothing. -/
namespace Registrar.Json
set_option autoImplicit false

/-! ## Members -/

def members : Json → List (String × Json)
  | object ms => ms
  | _ => []

/-- The member of a name, null included. -/
def member? (v : Json) (name : String) : Option Json :=
  (v.members.find? (·.1 = name)).map (·.2)

/-- A value that is not null. -/
def present? : Json → Option Json
  | null => none
  | v => some v

/-- The member of a name unless it is null. -/
def get? (v : Json) (name : String) : Option Json :=
  (v.member? name).bind present?

/-- The member of a name, null for a missing one. -/
def get (v : Json) (name : String) : Json :=
  (v.member? name).getD null

/-- The member of a name as `f` reads it, or else a value of before. -/
def given {α : Type} (v : Json) (name : String) (f : Json → α) (default : α) : α :=
  ((v.get? name).map f).getD default

/-- As `given`, but null takes the value away. -/
def nullable {α : Type} (v : Json) (name : String) (f : Json → α) (default : Option α) : Option α :=
  match v.member? name with
  | some given => given.present?.map f
  | none => default

/-! ## Items -/

def items : Json → List Json
  | array vs => vs
  | _ => []

def item (v : Json) (i : Nat) : Json :=
  v.items.getD i null

def list (v : Json) (name : String) : List Json :=
  (v.get name).items

/-! ## Scalars -/

def str : Json → String
  | string s => s
  | _ => ""

def isTrue : Json → Bool
  | bool b => b
  | _ => false

/-- The digits of a number or of a text as a number. -/
def nat : Json → Nat
  | number digits => Text.digitsValue (digits.toList.filter Text.isDigit)
  | string s => Text.digitsValue (s.toList.filter Text.isDigit)
  | _ => 0

def word64 (v : Json) : UInt64 :=
  .ofNat v.nat

def textAt (v : Json) (name : String) : String :=
  (v.get name).str

def natAt (v : Json) (name : String) (default : Nat) : Nat :=
  v.given name nat default

def flagAt (v : Json) (name : String) (default : Bool) : Bool :=
  v.given name isTrue default

end Registrar.Json
