import Registrar.Text.Decimal
import Registrar.Text.Hex

/-! Socket addresses: an internet address of either family and a port. A reader gives what it read and
the rest of the text. -/
namespace Registrar.Net
set_option autoImplicit false

/-! ## Numbers -/

/-- Reads a row of digits of a base, at least one and at most `most`, up to a limit. -/
def number? (base : Nat) (most : Option Nat) (zeroFirst : Bool) (limit : Nat) (cs : List Char) :
    Option (Nat × List Char) :=
  let isOne := fun (c : Char) => (Text.hexValue? c.toNat).any (· < base)
  let digits := cs.takeWhile isOne
  match digits with
  | [] => none
  | first :: _ =>
    if most.any (· < digits.length) then none
    else if !zeroFirst && first = '0' && 1 < digits.length then none
    else
      match Text.inBase? base 0 digits with
      | some n => if n ≤ limit then some (n, cs.dropWhile isOne) else none
      | none => none

def expect? (c : Char) : List Char → Option (List Char)
  | d :: r => if d = c then some r else none
  | [] => none

/-! ## Addresses -/

/-- The text behind four numbers below 256 with points between them. -/
def fourBytes? (cs : List Char) : Option (List Char) := do
  let (_, r) ← number? 10 (some 3) false 255 cs
  let (_, r) ← number? 10 (some 3) false 255 (← expect? '.' r)
  let (_, r) ← number? 10 (some 3) false 255 (← expect? '.' r)
  let (_, r) ← number? 10 (some 3) false 255 (← expect? '.' r)
  return r

/-- Behind the first group comes a colon. -/
def separated? (isFirst : Bool) (cs : List Char) : Option (List Char) :=
  if isFirst then some cs else expect? ':' cs

/-- Reads up to `room` groups of 16 bits with colons between them. The last two groups may be written as
four bytes; says how many groups there were and whether they ended so. -/
def groups : Nat → Bool → List Char → Nat × Bool × List Char
  | 0, _, cs => (0, false, cs)
  | room + 1, isFirst, cs =>
    match separated? isFirst cs with
    | none => (0, false, cs)
    | some start =>
      match if room = 0 then none else fourBytes? start with
      | some r => (2, true, r)
      | none =>
        match number? 16 (some 4) true 0xffff start with
        | none => (0, false, cs)
        | some (_, r) =>
          let (n, ended, r) := groups room false r
          (n + 1, ended, r)

/-- The text behind eight groups; two colons stand for one group of zeros or more. -/
def eightGroups? (cs : List Char) : Option (List Char) :=
  let (n, ended, r) := groups 8 true cs
  if n = 8 then some r
  else if ended then none
  else do
    let r ← expect? ':' (← expect? ':' r)
    let (_, _, r) := groups (7 - n) true r
    return r

def zone? (cs : List Char) : Option (List Char) :=
  match cs with
  | '%' :: r => (number? 10 none true (UInt32.size - 1) r).map (·.2)
  | r => some r

/-! ## Socket addresses -/

def port? (cs : List Char) : Option Nat := do
  let (n, r) ← number? 10 none true 0xffff (← expect? ':' cs)
  if r.isEmpty then some n else none

/-- Whether a text is an address with a port, the longer address in brackets. -/
def isSocketAddress (text : String) : Bool :=
  let cs := text.toList
  match (fourBytes? cs).bind port? with
  | some _ => true
  | none =>
    (do
      let r ← expect? '[' cs
      let r ← zone? (← eightGroups? r)
      port? (← expect? ']' r)).isSome

end Registrar.Net
