import Registrar.Text.Blank

/-! Unsigned numbers read from text, in decimal and in other bases. -/
namespace Registrar.Text
set_option autoImplicit false

def isDigit (c : Char) : Bool :=
  '0' ≤ c && c ≤ '9'

def digitsValue (digits : List Char) : Nat :=
  digits.foldl (fun n c => 10 * n + (c.toNat - 48)) 0

/-- A row of at least one decimal digit and of nothing else. -/
def decimal? (cs : List Char) : Option Nat :=
  if !cs.isEmpty && cs.all isDigit then some (digitsValue cs) else none

/-- A number up to `limit`, with at most one plus sign in front. -/
def unsigned? (limit : Nat) (cs : List Char) : Option Nat :=
  let digits := match cs with
    | '+' :: r => r
    | r => r
  (decimal? digits).filter (· ≤ limit)

def maxWord64 : Nat := UInt64.size - 1

def word64? (cs : List Char) : Option UInt64 :=
  (unsigned? maxWord64 cs).map UInt64.ofNat

/-! ## Other bases -/

/-- The value of a digit, letters of either case counting from ten. -/
def digitValue? (c : Char) : Option Nat :=
  if isDigit c then some (c.toNat - 48)
  else if 'a' ≤ c && c ≤ 'z' then some (c.toNat - 87)
  else if 'A' ≤ c && c ≤ 'Z' then some (c.toNat - 55)
  else none

/-- Adds the digits to a number in the given base, underscores aside; `none` when one of them is no
digit of the base. -/
def inBase? (base : Nat) : Nat → List Char → Option Nat
  | acc, [] => some acc
  | acc, c :: r =>
    if c = '_' then inBase? base acc r
    else match digitValue? c with
      | some d => if d < base then inBase? base (acc * base + d) r else none
      | none => none

/-- A number of at most 256 bits: decimal, or marked by `0x`, `0o` or `0b` in either case. -/
def word256? (cs : List Char) : Option (BitVec 256) :=
  let value := match cs with
    | '0' :: m :: r =>
      if m = 'x' || m = 'X' then inBase? 16 0 r
      else if m = 'o' || m = 'O' then inBase? 8 0 r
      else if m = 'b' || m = 'B' then inBase? 2 0 r
      else inBase? 10 0 cs
    | r => inBase? 10 0 r
  (value.filter (· < Nat.pow 2 256)).map (BitVec.ofNat 256)

/-- The digits of a number in base sixteen behind `0x`, without leading zeros. -/
def minimalHex (n : Nat) : String :=
  "0x" ++ String.ofList (Nat.toDigits 16 n)

end Registrar.Text
