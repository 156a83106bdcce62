/-! Whole numbers as double precision holds them: rounding to 53 significant bits, the numbers beyond
its range, and the shortest row of digits that rounds to the same number. -/
namespace Registrar.Double
set_option autoImplicit false

def precision : Nat := 53

/-- Numbers from here on round to infinity. -/
def overflowBound : Nat := Nat.pow 2 1024 - Nat.pow 2 970

/-- Powers of ten with a greater exponent round to infinity. -/
def maxDecimalExponent : Nat := 308

/-- The product of a number and a power of ten rounds to infinity. -/
def overflows (significand : Nat) : Int → Bool
  | .ofNat exponent =>
    significand ≠ 0 &&
      (exponent > maxDecimalExponent || overflowBound ≤ significand * Nat.pow 10 exponent)
  | .negSucc k =>
    k < (toString significand).length && overflowBound * Nat.pow 10 (k + 1) ≤ significand

/-- The nearest number of `precision` significant bits; of two, the one whose significand is even. -/
def round (n : Nat) : Nat :=
  let unit := Nat.pow 2 (n.log2 + 1 - precision)
  let below := n / unit * unit
  let excess := n % unit
  if 2 * excess < unit || (2 * excess = unit && n / unit % 2 = 0) then below else below + unit

/-- The multiple of a power of ten that is nearest to `n` and rounds to the same number, if one of the
two neighbours of `n` does. -/
def multipleOf? (n : Nat) (power : Nat) : Option Nat :=
  let below := n / power * power
  let above := below + power
  let fitsBelow := round below = round n
  let fitsAbove := round above = round n
  if fitsBelow && (!fitsAbove || 2 * (n - below) ≤ power) then some below
  else if fitsAbove then some above
  else none

/-- Tries the multiples of a power of ten, then of the next smaller one; at most `fuel` times. -/
def shortestFrom : Nat → Nat → Nat → Nat
  | 0, n, _ => n
  | fuel + 1, n, power => (multipleOf? n power).getD (shortestFrom fuel n (power / 10))

/-- Of the numbers that round to the same double as `n` does, the one with the most zeros at its end,
and the nearest of those. -/
def shortest (n : Nat) : Nat :=
  let digits := (toString n).length
  shortestFrom digits (round n) (Nat.pow 10 digits)

end Registrar.Double
