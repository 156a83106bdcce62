import Registrar.Text.Hex

/-! Byte strings, byte strings of a fixed length, and their reading as big-endian numbers. -/
namespace Registrar
set_option autoImplicit false

abbrev Bytes := List UInt8

/-! ## Big-endian numbers -/

/-- The number that the bytes denote, most significant byte first. -/
def natOfBytes (bytes : Bytes) : Nat :=
  bytes.foldl (fun n b => 256 * n + b.toNat) 0

/-- The lowest `k` bytes of a number, most significant byte first. -/
def bytesOfNat : Nat → Nat → Bytes
  | 0, _ => []
  | k + 1, n => bytesOfNat k (n / 256) ++ [UInt8.ofNat n]

/-- The bytes of a number without leading zeros; none for zero. -/
def minimalBytes (n : Nat) : Bytes :=
  (bytesOfNat (n.log2 / 8 + 1) n).dropWhile (· == 0)

/-! ## Fixed length -/

def sameBytes : Bytes → Bytes → Bool
  | [], [] => true
  | a :: x, b :: y => a == b && sameBytes x y
  | _, _ => false

theorem sameBytes_iff (x y : Bytes) : sameBytes x y = true ↔ x = y := by
  induction x generalizing y with
  | nil => cases y <;> simp [sameBytes]
  | cons a x ih => cases y <;> simp [sameBytes, ih]

structure FixedBytes (n : Nat) where
  bytes : Bytes
  length_bytes : bytes.length = n

theorem FixedBytes.eq_iff {n : Nat} (x y : FixedBytes n) : x = y ↔ x.bytes = y.bytes := by
  cases x
  cases y
  simp

instance {n : Nat} : DecidableEq (FixedBytes n) := fun x y =>
  decidable_of_iff (sameBytes x.bytes y.bytes = true)
    ((sameBytes_iff x.bytes y.bytes).trans (FixedBytes.eq_iff x y).symm)

namespace FixedBytes

variable {n : Nat}

def ofBytes? (bytes : Bytes) : Option (FixedBytes n) :=
  if h : bytes.length = n then some ⟨bytes, h⟩ else none

def replicate (n : Nat) (b : UInt8) : FixedBytes n :=
  ⟨List.replicate n b, List.length_replicate⟩

def zero : FixedBytes n :=
  replicate n 0

instance : Inhabited (FixedBytes n) := ⟨zero⟩

def isZero (x : FixedBytes n) : Bool :=
  x.bytes.all (· == 0)

theorem length_bytesOfNat (k m : Nat) : (bytesOfNat k m).length = k := by
  induction k generalizing m with
  | zero => rfl
  | succ k ih => simp [bytesOfNat, ih]

/-- The lowest `n` bytes of a number. -/
def ofNat (m : Nat) : FixedBytes n :=
  ⟨bytesOfNat n m, length_bytesOfNat n m⟩

def toNat (x : FixedBytes n) : Nat :=
  natOfBytes x.bytes

def toHex (x : FixedBytes n) : String :=
  Text.hexText x.bytes

instance : ToString (FixedBytes n) := ⟨toHex⟩

def compare (x y : FixedBytes n) : Ordering :=
  go x.bytes y.bytes
where
  go : Bytes → Bytes → Ordering
    | [], [] => .eq
    | [], _ :: _ => .lt
    | _ :: _, [] => .gt
    | a :: x, b :: y => if a < b then .lt else if b < a then .gt else go x y

end FixedBytes

/-- A 32-byte word: a hash, or half of a signature. -/
abbrev Word := FixedBytes 32

end Registrar
