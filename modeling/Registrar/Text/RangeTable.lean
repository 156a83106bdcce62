import Registrar.Text.Hex

/-! Tables over code points, written as text. A word of the text gives the first code point of a range,
the last one behind a hyphen, the distance of its members behind a slash, and the value behind an
equals sign; all numbers are hexadecimal, and a value of several numbers has plus signs between them. -/
namespace Registrar.Text
set_option autoImplicit false

/-- A range and the value of its first member. -/
structure RangeRow where
  first : Nat
  last : Nat
  step : Nat
  value : List Nat
deriving DecidableEq, Repr

structure RangeTable where
  rows : List RangeRow

/-! ## Reading -/

def wordsOf (text : String) : List (List Char) :=
  let push := fun (done : List (List Char)) (word : List Char) =>
    if word.isEmpty then done else word.reverse :: done
  let (done, word) := text.toList.foldl
    (fun (done, word) c => if c = ' ' || c = '\n' then (push done word, []) else (done, c :: word))
    ([], [])
  (push done word).reverse

def hexNumber (cs : List Char) : Nat :=
  cs.foldl (fun n c => 16 * n + (hexValue? c.toNat).getD 0) 0

/-- The parts of a word before and behind a mark; without the mark, the second part is empty. -/
def cutWord (mark : Char) (cs : List Char) : List Char × List Char :=
  (cs.takeWhile (· ≠ mark), (cs.dropWhile (· ≠ mark)).drop 1)

def RangeRow.ofWord (cs : List Char) : RangeRow :=
  let (range, value) := cutWord '=' cs
  let (limits, step) := cutWord '/' range
  let (first, last) := cutWord '-' limits
  { first := hexNumber first
    last := hexNumber (if last.isEmpty then first else last)
    step := if step.isEmpty then 1 else hexNumber step
    value := if value.isEmpty then [] else (splitAt '+' value).map hexNumber }

namespace RangeTable

def ofText (text : String) : RangeTable :=
  ⟨(wordsOf text).map RangeRow.ofWord⟩

/-! ## Looking up -/

def row? (t : RangeTable) (n : Nat) : Option RangeRow :=
  t.rows.find? fun r => r.first ≤ n && n ≤ r.last && (n - r.first) % r.step = 0

def has (t : RangeTable) (c : Char) : Bool :=
  (t.row? c.toNat).isSome

def valueOf? (t : RangeTable) (c : Char) : Option (List Nat) :=
  (t.row? c.toNat).map (·.value)

/-- The image of a character: a value of one number is that of the first member of its range, and grows
with the members by the same distance. -/
def imageOf? (t : RangeTable) (c : Char) : Option (List Nat) :=
  (t.row? c.toNat).map fun r =>
    match r.value with
    | [n] => [n + (c.toNat - r.first)]
    | ns => ns

/-- The character with a given value, if it is alone in its row. -/
def keyOf? (t : RangeTable) (value : List Nat) : Option Nat :=
  (t.rows.find? fun r => r.value = value).map (·.first)

end RangeTable

end Registrar.Text
