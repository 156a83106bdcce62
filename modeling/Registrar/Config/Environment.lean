import Registrar.Json.Access
import Registrar.Toml.Value

/-! Settings in environment variables: the name of a variable is a path into the configuration, and its
value is read as the truth value, number, text, list or record that it looks like. -/
namespace Registrar
set_option autoImplicit false

/-- Variables by name, in the order in which they were set. -/
abbrev Environment := List (String × String)

namespace Environment

def get? (env : Environment) (name : String) : Option String :=
  (env.find? (·.1 = name)).map (·.2)

def filled? (env : Environment) (name : String) : Option String :=
  Text.filled? (env.get? name)

/-! ## Names -/

def namePrefix : String := "regsync_"

/-- Two underscores stand for the point between the parts of a path. -/
def pointed : List Char → List Char
  | '_' :: '_' :: r => '.' :: pointed r
  | c :: r => c :: pointed r
  | [] => []

/-- The path that a variable names, letters in lower case; a variable with an empty part in it names
nothing. -/
def path? (name : String) : Option (List String) :=
  match Text.behind? namePrefix.toList ((Text.trim name.toList).map Char.toLower) with
  | none => none
  | some r =>
    let parts := Text.splitAt '.' (Text.trim (pointed r))
    if parts.any (·.isEmpty) then none else some (parts.map String.ofList)

/-! ## Values -/

def isSpace (c : Char) : Bool :=
  c = ' ' || c = '\t' || c = '\n' || c = '\r' || c = '\x0c'

def isSeparator (c : Char) : Bool :=
  [',', '\x7b', '\x7d', '[', ']'].contains c

def skipSpaces (cs : List Char) : List Char :=
  cs.dropWhile isSpace

/-- Reads a whole number with an optional plus sign, within 64 bits. -/
def whole? (cs : List Char) : Option Json :=
  match Text.unsigned? Text.maxWord64 cs with
  | some n => some (.ofNat n)
  | none =>
    match cs with
    | '-' :: r =>
      match Text.decimal? r with
      | some n =>
        if n = 0 then some (.ofNat 0)
        else if n ≤ 0x8000000000000000 then some (.number ("-" ++ toString n))
        else none
      | none => none
    | _ => none

def isFraction (cs : List Char) : Bool :=
  let (_, r) := Toml.splitSign cs
  let isMark := fun (c : Char) => c = 'e' || c = 'E'
  let mantissa := r.takeWhile fun c => !isMark c
  let exponent := (Toml.splitSign ((r.dropWhile fun c => !isMark c).drop 1)).2
  let digits := mantissa.filter (· ≠ '.')
  mantissa.contains '.' && digits.length + 1 = mantissa.length && !digits.isEmpty
    && digits.all Text.isDigit
    && (!r.any isMark || (!exponent.isEmpty && exponent.all Text.isDigit))

/-- A number or a text that is neither quoted nor in brackets. -/
def plain (cs : List Char) : Json :=
  let cs := Text.trim cs
  if isFraction cs then .number (String.ofList cs)
  else (whole? cs).getD (.string (String.ofList cs))

/-- Reads a truth value, which ends with its last letter, or else what stands before the next
separator. -/
def bare? (cs : List Char) : Toml.Reading Json :=
  match Text.behind? "true".toList cs, Text.behind? "false".toList cs with
  | some r, _ => some (.bool true, r)
  | none, some r => some (.bool false, r)
  | none, none =>
    some (plain (cs.takeWhile fun c => !isSeparator c), cs.dropWhile fun c => !isSeparator c)

/-- The longest part at the start of a text that is at most so many bytes long. -/
def takeBytes : Nat → List Char → List Char
  | _, [] => []
  | size, c :: r => if c.utf8Size ≤ size then c :: takeBytes (size - c.utf8Size) r else []

/-- Reads a text behind its first quote up to the closing quote. When it has an escape, only so many
bytes count of the characters before the first one as there are such characters. -/
def quoted? (cs : List Char) : Toml.Reading String :=
  let simple := cs.takeWhile fun c => c ≠ '\\' && c ≠ '"'
  let hasEscape := (cs.drop simple.length).head? = some '\\'
  (Toml.basic? (cs.length + 1) cs).map fun (s, r) =>
    if hasEscape then
      (String.ofList (takeBytes simple.length simple ++ s.drop simple.length), r)
    else (String.ofList s, r)

/-- Reads the items between brackets, up to `fuel` of them. -/
def collect? {α : Type} (item : List Char → Toml.Reading α) (close : Char) :
    Nat → List Char → Toml.Reading (List α)
  | 0, _ => none
  | fuel + 1, cs =>
    match cs with
    | [] => none
    | c :: r =>
      if c = close then some ([], r)
      else
        match item cs with
        | some (a, ',' :: r) => (collect? item close fuel r).map fun (as, r) => (a :: as, r)
        | some (a, d :: r) => if d = close then some ([a], r) else none
        | _ => none

def name? (cs : List Char) : Toml.Reading String :=
  match cs with
  | '"' :: r => quoted? r
  | cs =>
    let name := cs.takeWhile Toml.isBareKeyChar
    if name.isEmpty then none else some (String.ofList name, cs.drop name.length)

def pair? (value : List Char → Toml.Reading Json) (cs : List Char) : Toml.Reading (String × Json) :=
  match name? (skipSpaces cs) with
  | none => none
  | some (name, r) =>
    match skipSpaces r with
    | '=' :: r => (value r).map fun (v, r) => ((name, v), r)
    | _ => none

/-- The members with the last value of each name. -/
def lastMembers (ms : List (String × Json)) : List (String × Json) :=
  ms.foldl (fun kept m => kept.filter (·.1 ≠ m.1) ++ [m]) []

def valueFrom? : Nat → List Char → Toml.Reading Json
  | 0, _ => none
  | depth + 1, cs =>
    let cs := skipSpaces cs
    let read : Toml.Reading Json :=
      match cs with
      | '"' :: r => (quoted? r).map fun (s, r) => (.string s, r)
      | '[' :: r => (collect? (valueFrom? depth) ']' (r.length + 1) r).map fun (vs, r) => (.array vs, r)
      | '\x7b' :: r =>
        (collect? (pair? (valueFrom? depth)) '\x7d' (r.length + 1) r).map fun (ms, r) =>
          (.object (lastMembers ms), r)
      | '\x27' :: c :: '\x27' :: r => some (.string (String.singleton c), r)
      | '\x27' :: _ => none
      | cs => bare? cs
    read.map fun (v, r) => (v, skipSpaces r)

/-- The value of a variable; a text that is no value in full stands for itself. -/
def value (s : String) : Json :=
  match valueFrom? (s.length + 1) s.toList with
  | some (v, []) => v
  | _ => .string s

/-! ## Layers -/

/-- An object that has a value at the end of a path and nothing else. -/
def nest (path : List String) (v : Json) : Json :=
  path.foldr (fun name inner => .object [(name, inner)]) v

/-- The settings in the environment, each an object with one value. -/
def settings (env : Environment) : List Json :=
  env.filterMap fun (name, v) => (path? name).map fun path => nest path (value v)

end Environment

end Registrar
