import Registrar.Text.Hex

/-! Blanks, line ends, comments, quoted texts and keys of TOML. A reader gives what it read and the
rest of the text, or nothing when the text is not of its form. -/
namespace Registrar.Toml
set_option autoImplicit false

abbrev Reading (α : Type) := Option (α × List Char)

/-! ## Blanks and line ends -/

def isBlank (c : Char) : Bool :=
  c = ' ' || c = '\t'

def skipBlanks (cs : List Char) : List Char :=
  cs.dropWhile isBlank

def lineEnd? : List Char → Option (List Char)
  | '\n' :: r => some r
  | '\r' :: '\n' :: r => some r
  | _ => none

/-- The characters of comments and literal texts. -/
def isPlain (c : Char) : Bool :=
  c = '\t' || (0x20 ≤ c.toNat && c.toNat ≠ 0x7f)

/-- The text behind blanks and a comment. -/
def skipComment (cs : List Char) : List Char :=
  match skipBlanks cs with
  | '#' :: r => r.dropWhile isPlain
  | r => r

/-- The text behind the end of a line or the text, blanks and a comment before it allowed. -/
def restOfLine? (cs : List Char) : Option (List Char) :=
  match skipComment cs with
  | [] => some []
  | r => lineEnd? r

/-- The text behind blanks, comments and line ends; at most `fuel` lines are passed. -/
def skipLines : Nat → List Char → List Char
  | 0, cs => cs
  | fuel + 1, cs =>
    match lineEnd? (skipComment cs) with
    | some r => skipLines fuel r
    | none => skipBlanks cs

/-! ## Quoted texts -/

/-- Reads exactly `k` hexadecimal digits onto a number. -/
def hexDigits? : Nat → Nat → List Char → Reading Nat
  | 0, n, cs => some (n, cs)
  | _ + 1, _, [] => none
  | k + 1, n, c :: r =>
    match Text.hexValue? c.toNat with
    | some d => hexDigits? k (16 * n + d) r
    | none => none

/-- The character of a code point unless it is half of a surrogate pair. -/
def scalar? (n : Nat) : Option Char :=
  if h : n.isValidChar then some (Char.ofNatAux n h) else none

/-- The characters that one letter behind a backslash stands for. -/
def escapes : List (Char × Char) :=
  [('b', '\x08'), ('t', '\t'), ('n', '\n'), ('f', '\x0c'), ('r', '\r'), ('"', '"'), ('\\', '\\')]

def escape? : List Char → Reading Char
  | [] => none
  | c :: r =>
    let digits := if c = 'u' then some 4 else if c = 'U' then some 8 else none
    match digits with
    | some k =>
      match hexDigits? k 0 r with
      | some (n, r) => (scalar? n).map fun c => (c, r)
      | none => none
    | none => (escapes.find? (·.1 = c)).map fun (_, e) => (e, r)

/-- Reads a text between double quotes on one line up to the closing quote. -/
def basic? : Nat → List Char → Reading (List Char)
  | 0, _ => none
  | _ + 1, [] => none
  | fuel + 1, c :: r =>
    if c = '"' then some ([], r)
    else if c = '\\' then
      match escape? r with
      | some (e, r) => (basic? fuel r).map fun (cs, r) => (e :: cs, r)
      | none => none
    else if isPlain c then (basic? fuel r).map fun (cs, r) => (c :: cs, r)
    else none

/-- Reads a text between apostrophes on one line up to the closing one. -/
def literal? (cs : List Char) : Reading (List Char) :=
  let inner := fun (c : Char) => isPlain c && c ≠ '\x27'
  match cs.dropWhile inner with
  | '\x27' :: r => some (cs.takeWhile inner, r)
  | _ => none

/-- The quotes at the end of a text of several lines: three close it, and up to two before them belong
to it. -/
def closing? (quote : Char) (cs : List Char) : Reading (List Char) :=
  let quotes := (cs.takeWhile (· = quote)).length
  if quotes < 3 then none
  else
    let kept := Nat.min (quotes - 3) 2
    some (List.replicate kept quote, cs.drop (kept + 3))

/-- The text behind blanks and line ends. -/
def skipGap : Nat → List Char → List Char
  | 0, cs => cs
  | fuel + 1, cs =>
    match lineEnd? (skipBlanks cs) with
    | some r => skipGap fuel r
    | none => skipBlanks cs

/-- Reads a text of several lines. A line end counts as one line feed; where escapes are allowed, a
backslash before a line end takes the blanks and line ends behind it away. -/
def lines? (quote : Char) (escaped : Bool) : Nat → List Char → Reading (List Char)
  | 0, _ => none
  | _ + 1, [] => none
  | fuel + 1, c :: r =>
    let continue' := fun (c : Char) (r : List Char) =>
      (lines? quote escaped fuel r).map fun (cs, r) => (c :: cs, r)
    match closing? quote (c :: r), lineEnd? (c :: r) with
    | some closed, _ => some closed
    | none, some rest => continue' '\n' rest
    | none, none =>
      if escaped && c = '\\' then
        match lineEnd? (skipBlanks r), escape? r with
        | some rest, _ => lines? quote escaped fuel (skipGap fuel rest)
        | none, some (e, rest) => continue' e rest
        | none, none => none
      else if isPlain c then continue' c r
      else none

/-- A line end at the very start of a text of several lines is not part of it. -/
def dropFirstLineEnd (cs : List Char) : List Char :=
  (lineEnd? cs).getD cs

/-- Reads a text in any of the four forms. -/
def quoted? : List Char → Reading String
  | '"' :: '"' :: '"' :: r =>
    let body := dropFirstLineEnd r
    (lines? '"' true (body.length + 1) body).map fun (cs, r) => (String.ofList cs, r)
  | '\x27' :: '\x27' :: '\x27' :: r =>
    let body := dropFirstLineEnd r
    (lines? '\x27' false (body.length + 1) body).map fun (cs, r) => (String.ofList cs, r)
  | '"' :: r => (basic? (r.length + 1) r).map fun (cs, r) => (String.ofList cs, r)
  | '\x27' :: r => (literal? r).map fun (cs, r) => (String.ofList cs, r)
  | _ => none

/-! ## Keys -/

def isBareKeyChar (c : Char) : Bool :=
  c.isAlphanum || c = '_' || c = '-'

/-- Reads one part of a key, bare or quoted on one line. -/
def simpleKey? : List Char → Reading String
  | '"' :: r => (basic? (r.length + 1) r).map fun (cs, r) => (String.ofList cs, r)
  | '\x27' :: r => (literal? r).map fun (cs, r) => (String.ofList cs, r)
  | cs =>
    let name := cs.takeWhile isBareKeyChar
    if name.isEmpty then none else some (String.ofList name, cs.drop name.length)

/-- Reads a key of up to so many parts with points between them, blanks around each part allowed. -/
def parts? : Nat → List Char → Reading (List String)
  | 0, _ => none
  | limit + 1, cs =>
    match simpleKey? (skipBlanks cs) with
    | none => none
    | some (name, r) =>
      match skipBlanks r with
      | '.' :: r => (parts? limit r).map fun (names, r) => (name :: names, r)
      | r => some ([name], r)

/-- A key may have this many parts, and values may be nested this deep. -/
def depthLimit : Nat := 79

def key? (cs : List Char) : Reading (List String) :=
  parts? depthLimit cs

end Registrar.Toml
