import Registrar.Json.Basic
import Registrar.Json.Lexer

/-! From lexemes to the first value of a text, with a stack of the containers that are still open. -/
namespace Registrar.Json
set_option autoImplicit false

/-- An open container, its contents latest first. -/
inductive Frame where
  | array (latestFirst : List Json)
  /-- The name is absent when it has half of a surrogate pair. -/
  | object (latestFirst : List (String × Json)) (name : Option String)

/-- What may come next. -/
inductive Expecting where
  | value
  | valueOrClose
  | commaOrClose
  | name
  | nameOrClose
  | colon
deriving DecidableEq, Repr

def Frame.push (f : Frame) (v : Json) : Frame :=
  match f with
  | .array items => .array (v :: items)
  | .object members (some name) => .object ((name, v) :: members) none
  | .object members none => .object (("", .misnamed v) :: members) none

def Frame.close : Frame → Json
  | .array items => .array items.reverse
  | .object members _ => .object members.reverse

/-- The value that results when the text breaks inside the open containers. -/
def breakOff (stack : List Frame) : Json :=
  stack.foldl (fun v frame => (frame.push v).close) .broken

/-- Where the parser stands: inside open containers, or at the end of the first value. -/
inductive Progress where
  | open (stack : List Frame) (expecting : Expecting)
  | complete (v : Json)

def deliver (stack : List Frame) (v : Json) : Progress :=
  match stack with
  | [] => .complete v
  | frame :: stack => .open (frame.push v :: stack) .commaOrClose

def Lexeme.scalar? : Lexeme → Option Json
  | .null => some .null
  | .bool b => some (.bool b)
  | .number digits => some (.number digits)
  | .string s => some (.string s)
  | .unpaired last => some (.unpaired last)
  | _ => none

/-- Containers that are read may be nested this deep. -/
def depthLimit : Nat := 127

/-- The container that a frame becomes inside of others. -/
def Frame.closeWithin (f : Frame) (stack : List Frame) : Json :=
  if (stack.drop (depthLimit - 1)).isEmpty then f.close else .buried f.close

def closeTop (stack : List Frame) : Progress :=
  match stack with
  | frame :: stack => deliver stack (frame.closeWithin stack)
  | [] => .complete .broken

def beginValue (stack : List Frame) (lexeme : Lexeme) : Progress :=
  match lexeme with
  | .openArray => .open (.array [] :: stack) .valueOrClose
  | .openObject => .open (.object [] none :: stack) .nameOrClose
  | lexeme =>
    match lexeme.scalar? with
    | some v => deliver stack v
    | none => .complete (breakOff stack)

/-- As `beginValue` for the next item of an array, in whose place there may be a gap. -/
def beginItem (items : List Json) (stack : List Frame) (lexeme : Lexeme) : Progress :=
  match lexeme with
  | .gap => .open (.array (.gap :: items) :: stack) .commaOrClose
  | .closeArray => closeTop (.array (.gap :: items) :: stack)
  | lexeme => beginValue (.array items :: stack) lexeme

def beginName (stack : List Frame) (lexeme : Lexeme) : Progress :=
  match lexeme, stack with
  | .string name, .object members _ :: stack => .open (.object members (some name) :: stack) .colon
  | .unpaired _, .object members _ :: stack => .open (.object members none :: stack) .colon
  | _, stack => .complete (breakOff stack)

def advance (stack : List Frame) (expecting : Expecting) (lexeme : Lexeme) : Progress :=
  match expecting with
  | .value =>
    match stack with
    | .array items :: stack => beginItem items stack lexeme
    | stack => beginValue stack lexeme
  | .valueOrClose => if lexeme = .closeArray then closeTop stack else beginValue stack lexeme
  | .name => beginName stack lexeme
  | .nameOrClose => if lexeme = .closeObject then closeTop stack else beginName stack lexeme
  | .colon => if lexeme = .colon then .open stack .value else .complete (breakOff stack)
  | .commaOrClose =>
    match stack, lexeme with
    | .array _ :: _, .comma => .open stack .value
    | .array _ :: _, .closeArray => closeTop stack
    | .object .. :: _, .comma => .open stack .name
    | .object .. :: _, .closeObject => closeTop stack
    | _, _ => .complete (breakOff stack)

/-- Reads on to the end of the first value; the lexemes behind it are left over. -/
def readFrom : Progress → List Lexeme → Json × List Lexeme
  | .complete v, rest => (v, rest)
  | .open stack _, [] => (breakOff stack, [])
  | .open stack expecting, lexeme :: rest => readFrom (advance stack expecting lexeme) rest

/-- The first value of a text and the lexemes behind it. -/
def readFirst (text : List Char) : Json × List Lexeme :=
  readFrom (.open [] .value) (Lexeme.scan text)

/-- The first value of a text, whatever follows it. -/
def first (text : String) : Json :=
  (readFirst text.toList).1

/-- The value of a text that holds one value and nothing besides; broken for any other text. -/
def parse (text : String) : Json :=
  match readFirst text.toList with
  | (v, []) => v
  | _ => .broken

end Registrar.Json
