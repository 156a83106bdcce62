import Registrar.Double
import Registrar.Json.Basic
import Registrar.Text.Decimal
import Registrar.Toml.Text

/-! Values of TOML, read as JSON values: a fraction keeps its digits, and a date is an object with one
member that holds its text. -/
namespace Registrar.Toml
set_option autoImplicit false

open Text (isDigit)

/-! ## Numbers -/

/-- The characters of numbers, truth values and dates. -/
def isTokenChar (c : Char) : Bool :=
  c.isAlphanum || c = '_' || c = '+' || c = '-' || c = '.' || c = ':'

/-- Digits of a class with single underscores between them, without the underscores. -/
def spaced? (isOne : Char → Bool) : List Char → Option (List Char)
  | [] => none
  | [c] => if isOne c then some [c] else none
  | c :: '_' :: r => if isOne c then (spaced? isOne r).map (c :: ·) else none
  | c :: d :: r => if isOne c then (spaced? isOne (d :: r)).map (c :: ·) else none

/-- A sign in front and the rest. -/
def splitSign : List Char → Bool × List Char
  | '-' :: r => (true, r)
  | '+' :: r => (false, r)
  | r => (false, r)

/-- The digits of a whole number without leading zeros. -/
def wholeDigits? (cs : List Char) : Option (List Char) :=
  match cs with
  | '0' :: _ :: _ => none
  | _ => spaced? isDigit cs

def maxInteger : Nat := 0x7fffffffffffffff

/-- A whole number of 64 bits with sign. -/
def integer? (cs : List Char) : Option Int :=
  let marked (base : Nat) (isOne : Char → Bool) (r : List Char) : Option Int :=
    match (spaced? isOne r).bind (Text.inBase? base 0) with
    | some n => if n ≤ maxInteger then some n else none
    | none => none
  match cs with
  | '0' :: 'x' :: r => marked 16 (fun c => (Text.hexValue? c.toNat).isSome) r
  | '0' :: 'o' :: r => marked 8 (fun c => '0' ≤ c && c ≤ '7') r
  | '0' :: 'b' :: r => marked 2 (fun c => c = '0' || c = '1') r
  | _ =>
    let (negative, r) := splitSign cs
    match wholeDigits? r with
    | none => none
    | some digits =>
      let n := Text.digitsValue digits
      if negative then if n ≤ maxInteger + 1 then some (-(n : Int)) else none
      else if n ≤ maxInteger then some n else none

/-- The sign and the digits of an exponent behind its mark. -/
def exponent? (cs : List Char) : Option (Bool × List Char) :=
  let (negative, r) := splitSign cs
  (spaced? isDigit r).map fun ds => (negative, ds)

/-- The digits of a number with a fraction, an exponent or both. A positive one is within the range of
double precision; a negative one may be beyond it. -/
def fraction? (cs : List Char) : Option String :=
  let (negative, r) := splitSign cs
  if r = "inf".toList || r = "nan".toList then some (String.ofList cs)
  else
    let isMark := fun (c : Char) => c = 'e' || c = 'E'
    let mantissa := r.takeWhile fun c => !isMark c
    let exponent := (r.dropWhile fun c => !isMark c).drop 1
    let hasExponent := r.any isMark
    let whole := mantissa.takeWhile (· ≠ '.')
    let places := (mantissa.dropWhile (· ≠ '.')).drop 1
    let hasPlaces := mantissa.any (· = '.')
    if !hasExponent && !hasPlaces then none
    else
      match wholeDigits? whole, (if hasPlaces then spaced? isDigit places else some []),
        (if hasExponent then exponent? exponent else some (false, [])) with
      | some w, some p, some (shrinks, e) =>
        let scale : Int := if shrinks then -Text.digitsValue e else Text.digitsValue e
        if !negative && Double.overflows (Text.digitsValue (w ++ p)) (scale - p.length) then none
        else
          let e := if shrinks then '-' :: e else e
          let digits := (if negative then ['-'] else []) ++ w
            ++ (if hasPlaces then '.' :: p else []) ++ (if hasExponent then 'e' :: e else [])
          some (String.ofList digits)
      | _, _, _ => none

/-! ## Dates -/

/-- Reads exactly `k` digits as a number within limits. -/
def field? (k low high : Nat) (cs : List Char) : Reading Nat :=
  let digits := cs.take k
  if digits.length = k && digits.all isDigit then
    let n := Text.digitsValue digits
    if low ≤ n && n ≤ high then some (n, cs.drop k) else none
  else none

def expect? (c : Char) : List Char → Option (List Char)
  | d :: r => if d = c then some r else none
  | [] => none

def isLeapYear (y : Nat) : Bool :=
  y % 4 = 0 && (y % 100 ≠ 0 || y % 400 = 0)

def daysIn (year month : Nat) : Nat :=
  if month = 2 then if isLeapYear year then 29 else 28
  else if [4, 6, 9, 11].contains month then 30
  else 31

/-- The text behind a date. -/
def date? (cs : List Char) : Option (List Char) := do
  let (year, r) ← field? 4 0 9999 cs
  let (month, r) ← field? 2 1 12 (← expect? '-' r)
  let (_, r) ← field? 2 1 (daysIn year month) (← expect? '-' r)
  return r

/-- The text behind a time of day. -/
def time? (cs : List Char) : Option (List Char) := do
  let (_, r) ← field? 2 0 23 cs
  let (_, r) ← field? 2 0 59 (← expect? ':' r)
  let (_, r) ← field? 2 0 60 (← expect? ':' r)
  match r with
  | '.' :: places =>
    if (places.takeWhile isDigit).isEmpty then none else some (places.dropWhile isDigit)
  | r => some r

def isOffset (cs : List Char) : Bool :=
  match cs with
  | ['Z'] | ['z'] => true
  | c :: r =>
    (c = '+' || c = '-') &&
      ((do
        let (_, r) ← field? 2 0 23 r
        let (_, r) ← field? 2 0 59 (← expect? ':' r)
        return r) : Option (List Char)) = some []
  | [] => false

/-- Whether the text is a date, a time, or both with or without an offset. -/
def isMoment (cs : List Char) : Bool :=
  match date? cs with
  | some [] => true
  | some (c :: r) =>
    (c = 'T' || c = 't' || c = ' ') &&
      (match time? r with
        | some [] => true
        | some rest => isOffset rest
        | none => false)
  | none => time? cs = some []

/-- The name of the member that holds the text of a date. -/
def momentName : String := "$__toml_private_datetime"

/-! ## Unquoted values -/

def unquoted? (cs : List Char) : Option Json :=
  if cs = "true".toList then some (.bool true)
  else if cs = "false".toList then some (.bool false)
  else
    match integer? cs with
    | some n => some (.number (toString n))
    | none =>
      match fraction? cs with
      | some digits => some (.number digits)
      | none =>
        if isMoment cs then some (.object [(momentName, .string (String.ofList cs))]) else none

/-- Reads an unquoted value; a blank between date and time belongs to it. -/
def token? (cs : List Char) : Reading Json :=
  let first := cs.takeWhile isTokenChar
  let rest := cs.drop first.length
  let longer :=
    match rest with
    | ' ' :: d :: r =>
      if isDigit d && date? first = some [] then some (first ++ ' ' :: (d :: r).takeWhile isTokenChar)
      else none
    | _ => none
  let token := longer.getD first
  (unquoted? token).map fun v => (v, cs.drop token.length)

end Registrar.Toml
