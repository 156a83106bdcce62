import Registrar.Bytes

/-! Keccak-256, the hash of the execution chain: the permutation of 25 lanes, absorption of padded
blocks of 136 bytes, and the first 32 bytes of the final state. -/
namespace Registrar.Crypto
set_option autoImplicit false

namespace Keccak

/-! ## State -/

/-- Five lanes with one `y` coordinate, in ascending order of `x`. -/
structure Row where
  x0 : UInt64
  x1 : UInt64
  x2 : UInt64
  x3 : UInt64
  x4 : UInt64

/-- The rows in ascending order of `y`. -/
structure State where
  y0 : Row
  y1 : Row
  y2 : Row
  y3 : Row
  y4 : Row

namespace Row

def zero : Row := ⟨0, 0, 0, 0, 0⟩

def xor (r s : Row) : Row :=
  ⟨r.x0 ^^^ s.x0, r.x1 ^^^ s.x1, r.x2 ^^^ s.x2, r.x3 ^^^ s.x3, r.x4 ^^^ s.x4⟩

def rotateLeft (w : UInt64) (k : UInt64) : UInt64 :=
  (w <<< k) ||| (w >>> (64 - k))

/-- From the column parities, what each column is to be changed by. -/
def columnMask (c : Row) : Row :=
  ⟨c.x4 ^^^ rotateLeft c.x1 1, c.x0 ^^^ rotateLeft c.x2 1, c.x1 ^^^ rotateLeft c.x3 1,
    c.x2 ^^^ rotateLeft c.x4 1, c.x3 ^^^ rotateLeft c.x0 1⟩

/-- The nonlinear step within one row. -/
def chi (r : Row) : Row :=
  ⟨r.x0 ^^^ (~~~r.x1 &&& r.x2), r.x1 ^^^ (~~~r.x2 &&& r.x3), r.x2 ^^^ (~~~r.x3 &&& r.x4),
    r.x3 ^^^ (~~~r.x4 &&& r.x0), r.x4 ^^^ (~~~r.x0 &&& r.x1)⟩

end Row

open Row (rotateLeft)

def State.zero : State := ⟨.zero, .zero, .zero, .zero, .zero⟩

/-! ## Permutation -/

def roundConstants : List UInt64 :=
  [0x0000000000000001, 0x0000000000008082, 0x800000000000808a, 0x8000000080008000,
    0x000000000000808b, 0x0000000080000001, 0x8000000080008081, 0x8000000000008009,
    0x000000000000008a, 0x0000000000000088, 0x0000000080008009, 0x000000008000000a,
    0x000000008000808b, 0x800000000000008b, 0x8000000000008089, 0x8000000000008003,
    0x8000000000008002, 0x8000000000000080, 0x000000000000800a, 0x800000008000000a,
    0x8000000080008081, 0x8000000000008080, 0x0000000080000001, 0x8000000080008008]

def theta (s : State) : State :=
  let mask := (s.y0.xor (s.y1.xor (s.y2.xor (s.y3.xor s.y4)))).columnMask
  ⟨s.y0.xor mask, s.y1.xor mask, s.y2.xor mask, s.y3.xor mask, s.y4.xor mask⟩

/-- Rotates each lane by its offset and moves it to its new place. -/
def rhoPi (s : State) : State :=
  ⟨⟨s.y0.x0, rotateLeft s.y1.x1 44, rotateLeft s.y2.x2 43, rotateLeft s.y3.x3 21,
      rotateLeft s.y4.x4 14⟩,
    ⟨rotateLeft s.y0.x3 28, rotateLeft s.y1.x4 20, rotateLeft s.y2.x0 3, rotateLeft s.y3.x1 45,
      rotateLeft s.y4.x2 61⟩,
    ⟨rotateLeft s.y0.x1 1, rotateLeft s.y1.x2 6, rotateLeft s.y2.x3 25, rotateLeft s.y3.x4 8,
      rotateLeft s.y4.x0 18⟩,
    ⟨rotateLeft s.y0.x4 27, rotateLeft s.y1.x0 36, rotateLeft s.y2.x1 10, rotateLeft s.y3.x2 15,
      rotateLeft s.y4.x3 56⟩,
    ⟨rotateLeft s.y0.x2 62, rotateLeft s.y1.x3 55, rotateLeft s.y2.x4 39, rotateLeft s.y3.x0 41,
      rotateLeft s.y4.x1 2⟩⟩

def round (s : State) (constant : UInt64) : State :=
  let b := rhoPi (theta s)
  let first := b.y0.chi
  ⟨{ first with x0 := first.x0 ^^^ constant }, b.y1.chi, b.y2.chi, b.y3.chi, b.y4.chi⟩

def permute (s : State) : State :=
  roundConstants.foldl round s

/-! ## Sponge -/

def rate : Nat := 136

/-- The bytes followed by the padding that fills the last block. -/
def padded (message : Bytes) : Bytes :=
  let missing := rate - message.length % rate
  message ++ if missing = 1 then [0x81] else 0x01 :: List.replicate (missing - 2) 0 ++ [0x80]

/-- The next eight bytes, least significant first, and what follows them. -/
def takeLane (bytes : Bytes) : UInt64 × Bytes :=
  match bytes with
  | b0 :: b1 :: b2 :: b3 :: b4 :: b5 :: b6 :: b7 :: rest =>
    (b0.toUInt64 ||| b1.toUInt64 <<< 8 ||| b2.toUInt64 <<< 16 ||| b3.toUInt64 <<< 24
      ||| b4.toUInt64 <<< 32 ||| b5.toUInt64 <<< 40 ||| b6.toUInt64 <<< 48 ||| b7.toUInt64 <<< 56,
      rest)
  | short => (0, short.drop 8)

def takeRow (bytes : Bytes) : Row × Bytes :=
  let (x0, r) := takeLane bytes
  let (x1, r) := takeLane r
  let (x2, r) := takeLane r
  let (x3, r) := takeLane r
  let (x4, r) := takeLane r
  (⟨x0, x1, x2, x3, x4⟩, r)

/-- Mixes one block into the state and permutes it; what follows the block comes back too. -/
def absorbBlock (s : State) (bytes : Bytes) : State × Bytes :=
  let (y0, r) := takeRow bytes
  let (y1, r) := takeRow r
  let (y2, r) := takeRow r
  let (x0, r) := takeLane r
  let (x1, r) := takeLane r
  (permute ⟨s.y0.xor y0, s.y1.xor y1, s.y2.xor y2, s.y3.xor ⟨x0, x1, 0, 0, 0⟩, s.y4⟩, r)

def absorb : Nat → State → Bytes → State
  | 0, s, _ => s
  | blocks + 1, s, bytes =>
    let (s, rest) := absorbBlock s bytes
    absorb blocks s rest

def laneBytes (w : UInt64) : Bytes :=
  [w.toUInt8, (w >>> 8).toUInt8, (w >>> 16).toUInt8, (w >>> 24).toUInt8, (w >>> 32).toUInt8,
    (w >>> 40).toUInt8, (w >>> 48).toUInt8, (w >>> 56).toUInt8]

def digest (s : State) : Word :=
  ⟨laneBytes s.y0.x0 ++ laneBytes s.y0.x1 ++ laneBytes s.y0.x2 ++ laneBytes s.y0.x3, rfl⟩

end Keccak

def keccak256 (message : Bytes) : Word :=
  Keccak.digest (Keccak.absorb (message.length / Keccak.rate + 1) .zero (Keccak.padded message))

end Registrar.Crypto
