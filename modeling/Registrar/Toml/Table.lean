import Registrar.Json.Basic

/-! Tables of TOML while they are built: each remembers how it came to be, for that decides who may add
to it. -/
namespace Registrar.Toml
set_option autoImplicit false

/-- How a table came to be. -/
inductive Origin where
  /-- By a header of its own. -/
  | opened
  /-- By the header of a table inside it. -/
  | implied
  /-- By a key with several parts. -/
  | dotted
deriving DecidableEq, Repr

inductive Node where
  | leaf (v : Json)
  | table (origin : Origin) (members : List (String × Node))
  /-- A list of tables, the last one apart. -/
  | tables (earlier : List (List (String × Node))) (last : List (String × Node))

abbrev Members := List (String × Node)

namespace Members

def get? (ms : Members) (name : String) : Option Node :=
  (ms.find? (·.1 = name)).map (·.2)

/-- Replaces a member at its place, or adds it at the end. -/
def put (name : String) (node : Node) : Members → Members
  | [] => [(name, node)]
  | m :: ms => if m.1 = name then (name, node) :: ms else m :: put name node ms

/-! ## Headers -/

/-- Goes down to the table that encloses the last part of a header, making tables on the way, and
changes it there. -/
def within (change : String → Members → Option Members) : List String → Members → Option Members
  | [], _ => none
  | [name], ms => change name ms
  | name :: path, ms =>
    match ms.get? name with
    | none => (within change path []).map fun inner => ms.put name (.table .implied inner)
    | some (.table origin inner) =>
      (within change path inner).map fun inner => ms.put name (.table origin inner)
    | some (.tables earlier last) =>
      (within change path last).map fun last => ms.put name (.tables earlier last)
    | some (.leaf _) => none

/-- A table may be opened once, and not when a dotted key made it. -/
def openTable (name : String) (ms : Members) : Option Members :=
  match ms.get? name with
  | none => some (ms.put name (.table .opened []))
  | some (.table .implied inner) => some (ms.put name (.table .opened inner))
  | some _ => none

def appendTable (name : String) (ms : Members) : Option Members :=
  match ms.get? name with
  | none => some (ms.put name (.tables [] []))
  | some (.tables earlier last) => some (ms.put name (.tables (earlier ++ [last]) []))
  | some _ => none

/-! ## Keys -/

/-- Gives a value to a key inside a table; only tables that dotted keys made take values from dotted
keys. -/
def assign (v : Json) (isDotted : Bool) : List String → Members → Option Members
  | [], _ => none
  | [name], ms =>
    if isDotted && (ms.get? name).isNone then some (ms.put name (.leaf v)) else none
  | name :: path, ms =>
    match ms.get? name with
    | none => (assign v true path []).map fun inner => ms.put name (.table .dotted inner)
    | some (.table .opened _) => none
    | some (.table origin inner) =>
      (assign v (origin = .dotted) path inner).map fun inner => ms.put name (.table origin inner)
    | some (.tables earlier last) =>
      (assign v false path last).map fun last => ms.put name (.tables earlier last)
    | some (.leaf _) => none

/-- Gives a value to a key of the table that a header names. -/
def assignUnder (v : Json) (key : List String) : List String → Members → Option Members
  | [], ms => assign v true key ms
  | name :: path, ms =>
    match ms.get? name with
    | some (.table origin inner) =>
      (assignUnder v key path inner).map fun inner => ms.put name (.table origin inner)
    | some (.tables earlier last) =>
      (assignUnder v key path last).map fun last => ms.put name (.tables earlier last)
    | _ => none

end Members

/-! ## Values -/

mutual

def Node.toJson : Node → Json
  | .leaf v => v
  | .table _ members => .object (membersToJson members)
  | .tables earlier last => .array (tablesToJson earlier ++ [.object (membersToJson last)])

def membersToJson : List (String × Node) → List (String × Json)
  | [] => []
  | (name, node) :: ms => (name, node.toJson) :: membersToJson ms

def tablesToJson : List (List (String × Node)) → List Json
  | [] => []
  | ms :: rest => .object (membersToJson ms) :: tablesToJson rest

end

end Registrar.Toml
