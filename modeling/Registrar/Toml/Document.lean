import Registrar.Toml.Table
import Registrar.Toml.Value

/-! Documents of TOML, read as one JSON object. -/
namespace Registrar.Toml
set_option autoImplicit false

/-! ## Values -/

/-- Reads the items of an array up to its end; at most `fuel` items. -/
def items? (value : List Char → Reading Json) : Nat → List Char → Reading (List Json)
  | 0, _ => none
  | fuel + 1, cs =>
    match skipLines cs.length cs with
    | ']' :: r => some ([], r)
    | cs =>
      match value cs with
      | none => none
      | some (v, r) =>
        match skipLines r.length r with
        | ']' :: r => some ([v], r)
        | ',' :: r => (items? value fuel r).map fun (vs, r) => (v :: vs, r)
        | _ => none

def pair? (value : List Char → Reading Json) (cs : List Char) : Reading (List String × Json) :=
  match key? cs with
  | some (key, '=' :: r) => (value (skipBlanks r)).map fun (v, r) => ((key, v), r)
  | _ => none

/-- Reads the pairs of an inline table behind its first brace; at most `fuel` pairs. -/
def pairs? (value : List Char → Reading Json) : Nat → Members → List Char → Reading Members
  | 0, _, _ => none
  | fuel + 1, ms, cs =>
    match pair? value cs with
    | none => none
    | some ((key, v), r) =>
      match ms.assign v true key, skipBlanks r with
      | some ms, '}' :: r => some (ms, r)
      | some ms, ',' :: r => pairs? value fuel ms r
      | _, _ => none

def inlineTable? (value : List Char → Reading Json) (cs : List Char) : Reading Json :=
  match skipBlanks cs with
  | '}' :: r => some (.object [], r)
  | cs => (pairs? value (cs.length + 1) [] cs).map fun (ms, r) => (.object (membersToJson ms), r)

/-- Reads a value that is neither an array nor an inline table. -/
def plain? (cs : List Char) : Reading Json :=
  match cs with
  | '"' :: _ | '\x27' :: _ => (quoted? cs).map fun (s, r) => (.string s, r)
  | _ => token? cs

/-- Reads a value whose arrays and inline tables are nested up to `depth`. -/
def value? : Nat → List Char → Reading Json
  | 0, cs => plain? cs
  | depth + 1, cs =>
    match cs with
    | '[' :: r => (items? (value? depth) (r.length + 1) r).map fun (vs, r) => (.array vs, r)
    | '{' :: r => inlineTable? (value? depth) r
    | cs => plain? cs

/-! ## Statements -/

inductive Statement where
  | openTable (path : List String)
  | appendTable (path : List String)
  | assign (key : List String) (v : Json)

def header? (cs : List Char) : Reading Statement :=
  match cs with
  | '[' :: r =>
    match key? r with
    | some (path, ']' :: ']' :: r) => some (.appendTable path, r)
    | _ => none
  | r =>
    match key? r with
    | some (path, ']' :: r) => some (.openTable path, r)
    | _ => none

def statement? : List Char → Reading Statement
  | '[' :: r => header? r
  | cs => (pair? (value? depthLimit) cs).map fun ((key, v), r) => (.assign key v, r)

/-- Reads a text line by line; at most `fuel` statements. -/
def statements? : Nat → List Char → Option (List Statement)
  | 0, _ => none
  | fuel + 1, cs =>
    match skipLines cs.length cs with
    | [] => some []
    | cs =>
      if (skipComment cs).isEmpty then some []
      else
        match statement? cs with
        | none => none
        | some (s, r) =>
          match restOfLine? r with
          | some r => (statements? fuel r).map (s :: ·)
          | none => none

/-! ## Documents -/

/-- The members so far and the path of the table that the next keys belong to. -/
def Statement.apply (state : Members × List String) : Statement → Option (Members × List String)
  | openTable path => (Members.within Members.openTable path state.1).map fun ms => (ms, path)
  | appendTable path => (Members.within Members.appendTable path state.1).map fun ms => (ms, path)
  | assign key v => (state.1.assignUnder v key state.2).map fun ms => (ms, state.2)

/-- The object that a text describes. A byte order mark at its start is passed over. -/
def parse? (text : String) : Option Json :=
  let cs := match text.toList with
    | '\uFEFF' :: r => r
    | r => r
  match statements? (cs.length + 1) cs with
  | none => none
  | some statements =>
    (statements.foldlM Statement.apply (([] : Members), ([] : List String))).map fun (ms, _) =>
      .object (membersToJson ms)

end Registrar.Toml
