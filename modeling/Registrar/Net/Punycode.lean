import Registrar.Text.Decimal

/-! Labels of other scripts written in ASCII: the plain characters come first, and behind the last
hyphen a row of numbers tells which characters go where between them. -/
namespace Registrar.Net.Punycode
set_option autoImplicit false

/-! ## Numbers -/

/-- The value of a digit: the letters, then the digits. -/
def digit? (c : Char) : Option Nat :=
  if 'a' ≤ c && c ≤ 'z' then some (c.toNat - 97)
  else if 'A' ≤ c && c ≤ 'Z' then some (c.toNat - 65)
  else if Text.isDigit c then some (c.toNat - 22)
  else none

/-- Digits below the threshold of their place end a number. -/
def threshold (bias place : Nat) : Nat :=
  if place ≤ bias then 1 else if bias + 26 ≤ place then 26 else place - bias

/-- Reads one number, counted from `n`, with the weight of its next digit. Numbers and weights have 32
bits. -/
def number? (bias : Nat) : Nat → Nat → Nat → List Char → Option (Nat × List Char)
  | _, _, _, [] => none
  | n, weight, place, c :: rest =>
    match digit? c with
    | none => none
    | some d =>
      let n := n + d * weight
      let t := threshold bias place
      if UInt32.size ≤ n then none
      else if d < t then some (n, rest)
      else if UInt32.size ≤ weight * (36 - t) then none
      else number? bias n (weight * (36 - t)) (place + 36) rest

/-! ## Bias -/

/-- Divides a difference down to the range of the thresholds; at most `fuel` times. -/
def scaledBias : Nat → Nat → Nat → Nat
  | 0, place, delta => place + 36 * delta / (delta + 38)
  | fuel + 1, place, delta =>
    if 455 < delta then scaledBias fuel (place + 36) (delta / 35)
    else place + 36 * delta / (delta + 38)

/-- The bias for the number after a difference, by the count of characters so far. -/
def nextBias (delta count : Nat) (isFirst : Bool) : Nat :=
  let delta := if isFirst then delta / 700 else delta / 2
  scaledBias 32 0 (delta + delta / count)

/-! ## Labels -/

/-- What reading a row of numbers keeps: the characters in their order, the last code point, the place
that the next one is counted from, and the bias. -/
structure Progress where
  characters : List Char
  codePoint : Nat
  place : Nat
  bias : Nat

def Progress.insert? (p : Progress) (number : Nat) : Option Progress :=
  let count := p.characters.length + 1
  let codePoint := p.codePoint + number / count
  let place := number % count
  if codePoint.isValidChar then
    some
      { characters := p.characters.insertIdx place (Char.ofNat codePoint)
        codePoint
        place := place + 1
        bias := nextBias (number - p.place) count (p.place = 0) }
  else none

/-- Reads numbers to the end of the text; at most `fuel` of them. -/
def readNumbers? : Nat → Progress → List Char → Option (List Char)
  | _, p, [] => some p.characters
  | 0, _, _ :: _ => none
  | fuel + 1, p, cs =>
    match number? p.bias p.place 1 36 cs with
    | none => none
    | some (number, rest) =>
      match p.insert? number with
      | none => none
      | some p => readNumbers? fuel p rest

/-- Decodes a label; a hyphen at its start does not separate anything. -/
def decode? (cs : List Char) : Option (List Char) :=
  let behind := (cs.reverse.takeWhile (· ≠ '-')).reverse
  let plain := (cs.take (cs.length - behind.length)).dropLast
  let numbers := if plain.isEmpty then cs else behind
  readNumbers? (numbers.length + 1) ⟨plain, 128, 0, 72⟩ numbers

end Registrar.Net.Punycode
