/-! Fees and gas of a transaction from what the node suggests. -/
namespace Registrar
set_option autoImplicit false

/-- The highest amount of wei that the node can name. -/
def maxWei : Nat := 0xffffffffffffffffffffffffffffffff

structure Fees where
  maxFee : Nat
  tip : Nat
deriving DecidableEq, Repr

/-- The tip is capped by the gas price, their sum by the ceiling, and the tip by that sum again. -/
def Fees.ofSuggested (ceiling gasPrice suggestedTip : Nat) : Fees :=
  let tip := Nat.min suggestedTip gasPrice
  let maxFee := Nat.min (Nat.min (gasPrice + tip) maxWei) ceiling
  ⟨maxFee, Nat.min tip maxFee⟩

def gasHeadroomPercent : Nat := 20

/-- The estimate and its headroom, both kept within 64 bits. -/
def gasLimitOf (estimate : UInt64) : UInt64 :=
  let limit := UInt64.size - 1
  let headroom := Nat.min (estimate.toNat * gasHeadroomPercent) limit / 100
  .ofNat (Nat.min (estimate.toNat + headroom) limit)

end Registrar
