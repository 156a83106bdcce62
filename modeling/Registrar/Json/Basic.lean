/-! JSON values as they stand in a text: numbers keep their digits, objects keep order and repeated
names, what can only be skipped says so, and a text that stops being JSON leaves a mark at the place
where it does. -/
namespace Registrar
set_option autoImplicit false

inductive Json where
  | null
  | bool (b : Bool)
  | number (digits : String)
  | string (s : String)
  | array (items : List Json)
  | object (members : List (String × Json))
  /-- A string with half of a surrogate pair; it can be skipped and not be read. The flag says that
  the first such half stands right before the closing quote. -/
  | unpaired (last : Bool)
  /-- A container nested too deep to be read; it can be skipped. -/
  | buried (container : Json)
  /-- The value of a member whose name has half of a surrogate pair; the member can be skipped. -/
  | misnamed (value : Json)
  /-- Text that is no value, in the last place of an array: a reader of bytes that gives it up comes
  to rest where the array closes. -/
  | gap
  /-- The place where the text is no JSON. -/
  | broken
deriving BEq, Inhabited

namespace Json

def ofNat (n : Nat) : Json :=
  number (toString n)

def ofOption {α : Type} (f : α → Json) : Option α → Json
  | none => null
  | some a => f a

mutual

/-- The text was JSON to the end of the value. -/
def intact : Json → Bool
  | broken | gap => false
  | buried v | misnamed v => v.intact
  | array items => intactItems items
  | object members => intactMembers members
  | _ => true

def intactItems : List Json → Bool
  | [] => true
  | v :: vs => v.intact && intactItems vs

def intactMembers : List (String × Json) → Bool
  | [] => true
  | (_, v) :: vs => v.intact && intactMembers vs

end

end Json

end Registrar
