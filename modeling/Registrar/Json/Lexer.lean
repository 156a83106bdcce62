import Registrar.Text.Hex

/-! The lexemes of a JSON text. One pass over the characters; a character that fits nowhere ends the
list with a broken lexeme, unless a reader that gives up there finds itself before the end of an
array. -/
namespace Registrar.Json
set_option autoImplicit false

inductive Lexeme where
  | openArray
  | closeArray
  | openObject
  | closeObject
  | comma
  | colon
  | null
  | bool (b : Bool)
  | number (digits : String)
  | string (s : String)
  /-- A string with half of a surrogate pair, and whether the first such half ends it. -/
  | unpaired (last : Bool)
  /-- A lexeme cut off where an array closes. -/
  | gap
  | broken
deriving DecidableEq, Repr

namespace Lexeme

/-! ## Strings -/

/-- The part of a string read so far, latest character first. -/
structure Partial where
  latestFirst : List Char
  /-- Half of a surrogate pair stands somewhere in it. -/
  unpaired : Bool
  /-- The upper half that the last escape gave. -/
  upper : Option Nat

namespace Partial

def start : Partial := ⟨[], false, none⟩

/-- Leaves an upper half without its lower half behind. -/
def settle (p : Partial) : Partial :=
  { p with unpaired := p.unpaired || p.upper.isSome, upper := none }

def push (p : Partial) (c : Char) : Partial :=
  let p := p.settle
  { p with latestFirst := c :: p.latestFirst }

def isUpper (unit : Nat) : Bool := 0xd800 ≤ unit && unit < 0xdc00

def isLower (unit : Nat) : Bool := 0xdc00 ≤ unit && unit < 0xe000

def pushUnit (p : Partial) (unit : Nat) : Partial :=
  match p.upper with
  | some high =>
    if isLower unit then
      { p with
        latestFirst := Char.ofNat (0x10000 + (high - 0xd800) * 0x400 + (unit - 0xdc00))
          :: p.latestFirst
        upper := none }
    else if isUpper unit then { p with unpaired := true, upper := some unit }
    else { p with latestFirst := Char.ofNat unit :: p.latestFirst, unpaired := true, upper := none }
  | none =>
    if isUpper unit then { p with upper := some unit }
    else if isLower unit then { p with unpaired := true }
    else { p with latestFirst := Char.ofNat unit :: p.latestFirst }

def finish (p : Partial) : Lexeme :=
  if p.unpaired then .unpaired false
  else if p.upper.isSome then .unpaired true
  else .string (String.ofList p.latestFirst.reverse)

end Partial

/-- The character that a one-letter escape stands for. -/
def escaped? : Char → Option Char
  | '"' => some '"'
  | '\\' => some '\\'
  | '/' => some '/'
  | 'b' => some '\x08'
  | 'f' => some '\x0c'
  | 'n' => some '\n'
  | 'r' => some '\r'
  | 't' => some '\t'
  | _ => none

/-! ## Numbers -/

inductive NumberPart where
  | minus
  | zero
  | integer
  | point
  | fraction
  | exponent
  | exponentSign
  | exponentDigits
deriving DecidableEq, Repr

namespace NumberPart

def isComplete : NumberPart → Bool
  | zero | integer | fraction | exponentDigits => true
  | _ => false

/-- How the number goes on with a character; `none` when it does not. -/
def next? (part : NumberPart) (c : Char) : Option NumberPart :=
  match part with
  | minus => if c = '0' then some zero else if c.isDigit then some integer else none
  | zero => if c = '.' then some point else if c = 'e' || c = 'E' then some exponent else none
  | integer =>
    if c.isDigit then some integer
    else if c = '.' then some point
    else if c = 'e' || c = 'E' then some exponent
    else none
  | point => if c.isDigit then some fraction else none
  | fraction =>
    if c.isDigit then some fraction else if c = 'e' || c = 'E' then some exponent else none
  | exponent =>
    if c = '+' || c = '-' then some exponentSign
    else if c.isDigit then some exponentDigits
    else none
  | exponentSign | exponentDigits => if c.isDigit then some exponentDigits else none

/-- No digit may follow a leading zero. -/
def isBlocked (part : NumberPart) (c : Char) : Bool :=
  part = zero && c.isDigit

end NumberPart

/-! ## The pass -/

/-- What the pass is in the middle of. -/
inductive Mode where
  | between
  | inString (p : Partial)
  | inEscape (p : Partial)
  | inUnit (p : Partial) (digitsLeft : Nat) (value : Nat)
  | inNumber (part : NumberPart) (latestFirst : List Char)
  | inWord (missing : List Char) (lexeme : Lexeme)
  /-- A lexeme was given up; so many more bytes go with it. -/
  | givenUp (bytesLeft : Nat)

def isGap (c : Char) : Bool :=
  c = ' ' || c = '\n' || c = '\t' || c = '\r'

/-- What a character begins when nothing is pending: lexemes complete at once, and the next mode.
`none` for a character that begins nothing. -/
def begin? (c : Char) : Option (List Lexeme × Mode) :=
  if isGap c then some ([], .between)
  else match c with
    | '[' => some ([.openArray], .between)
    | ']' => some ([.closeArray], .between)
    | '\x7b' => some ([.openObject], .between)
    | '\x7d' => some ([.closeObject], .between)
    | ',' => some ([.comma], .between)
    | ':' => some ([.colon], .between)
    | '"' => some ([], .inString .start)
    | '-' => some ([], .inNumber .minus ['-'])
    | '0' => some ([], .inNumber .zero ['0'])
    | 't' => some ([], .inWord ['r', 'u', 'e'] (.bool true))
    | 'f' => some ([], .inWord ['a', 'l', 's', 'e'] (.bool false))
    | 'n' => some ([], .inWord ['u', 'l', 'l'] .null)
    | _ => if c.isDigit then some ([], .inNumber .integer [c]) else none

/-- Goes on behind a lexeme that was given up: once the bytes that go with it are over, only the end
of an array may come. -/
def giveUp? (bytesLeft : Nat) (c : Char) : Option (List Lexeme × Mode) :=
  if bytesLeft ≠ 0 then
    if c.utf8Size ≤ bytesLeft then some ([], .givenUp (bytesLeft - c.utf8Size)) else none
  else if isGap c then some ([], .givenUp 0)
  else if c = ']' then some ([.gap, .closeArray], .between)
  else none

/-- Gives up a string at a character, unless half of a surrogate pair did so before. -/
def Partial.giveUp? (p : Partial) (bytesLeft : Nat) (c : Char) : Option (List Lexeme × Mode) :=
  if p.unpaired then none else Lexeme.giveUp? bytesLeft c

/-- Gives up a number at a character that does not continue it. A missing digit behind the point is
noticed before the character, any other one by it. -/
def NumberPart.giveUp? (part : NumberPart) (c : Char) : Option (List Lexeme × Mode) :=
  match part with
  | minus | exponent | exponentSign => Lexeme.giveUp? 1 c
  | point => Lexeme.giveUp? 0 c
  | _ => none

/-- The lexemes that one character completes, and the next mode; `none` where the text breaks. -/
def advance? (mode : Mode) (c : Char) : Option (List Lexeme × Mode) :=
  match mode with
  | .between => begin? c
  | .inString p =>
    if c = '"' then some ([p.finish], .between)
    else if c = '\\' then some ([], .inEscape p)
    else if c.toNat < 0x20 then p.giveUp? 1 c
    else some ([], .inString (p.push c))
  | .inEscape p =>
    if c = 'u' then some ([], .inUnit p 4 0)
    else
      match escaped? c with
      | some e => some ([], .inString (p.push e))
      | none => p.giveUp? 1 c
  | .inUnit p digitsLeft value =>
    match Text.hexValue? c.toNat with
    | some d =>
      if digitsLeft ≤ 1 then some ([], .inString (p.pushUnit (16 * value + d)))
      else some ([], .inUnit p (digitsLeft - 1) (16 * value + d))
    | none => p.giveUp? digitsLeft c
  | .inNumber part latestFirst =>
    match part.next? c with
    | some part => some ([], .inNumber part (c :: latestFirst))
    | none =>
      if part.isComplete && !part.isBlocked c then
        (begin? c).map fun (lexemes, mode) =>
          (.number (String.ofList latestFirst.reverse) :: lexemes, mode)
      else part.giveUp? c
  | .inWord missing lexeme =>
    match missing with
    | [] => none
    | [m] => if c = m then some ([lexeme], .between) else giveUp? 1 c
    | m :: rest => if c = m then some ([], .inWord rest lexeme) else giveUp? 1 c
  | .givenUp bytesLeft => giveUp? bytesLeft c

/-- The lexemes left over at the end of the text. -/
def atEnd : Mode → List Lexeme
  | .between => []
  | .inNumber part latestFirst =>
    if part.isComplete then [.number (String.ofList latestFirst.reverse)] else [.broken]
  | _ => [.broken]

/-- A number that is complete where the text breaks still counts. -/
def beforeBreak : Mode → List Lexeme
  | .inNumber part latestFirst =>
    if part.isComplete then [.number (String.ofList latestFirst.reverse)] else []
  | _ => []

def scanFrom (mode : Mode) : List Char → List Lexeme
  | [] => atEnd mode
  | c :: rest =>
    match advance? mode c with
    | none =>
      (match mode with
        | .inNumber part _ => if part.isBlocked c then [] else beforeBreak mode
        | _ => []) ++ [.broken]
    | some (lexemes, mode) => lexemes ++ scanFrom mode rest

def scan (text : List Char) : List Lexeme :=
  scanFrom .between text

end Lexeme

end Registrar.Json
