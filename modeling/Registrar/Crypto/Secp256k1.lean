import Registrar.Crypto.Keccak
import Registrar.Crypto.Sha256

/-! The curve secp256k1, public keys on it, and deterministic signatures with the lower of the two
possible second halves. -/
namespace Registrar.Crypto
set_option autoImplicit false

namespace Secp256k1

/-! ## Field and group -/

def fieldPrime : Nat :=
  0xfffffffffffffffffffffffffffffffffffffffffffffffffffffffefffffc2f

def order : Nat :=
  0xfffffffffffffffffffffffffffffffebaaedce6af48a03bbfd25e8cd0364141

/-- `base ^ exponent` modulo `modulus`, by the bits of the exponent from the highest. -/
def powMod (modulus base exponent : Nat) : Nat :=
  (List.range 256).foldl
    (fun acc i =>
      let square := acc * acc % modulus
      if exponent.testBit (255 - i) then square * base % modulus else square)
    1

def inverse (modulus a : Nat) : Nat :=
  powMod modulus a (modulus - 2)

/-- A point in Jacobian coordinates; the neutral element has `z = 0`. -/
structure Point where
  x : Nat
  y : Nat
  z : Nat

namespace Point

def neutral : Point := ⟨1, 1, 0⟩

def base : Point :=
  ⟨0x79be667ef9dcbbac55a06295ce870b07029bfcdb2dce28d959f2815b16f81798,
    0x483ada7726a3c4655da4fbfc0e1108a8fd17b448a68554199c47d08ffb10d4b8, 1⟩

def minus (a b : Nat) : Nat :=
  (a + fieldPrime - b % fieldPrime) % fieldPrime

def double (p : Point) : Point :=
  if p.z = 0 then neutral
  else
    let yy := p.y * p.y % fieldPrime
    let s := 4 * p.x * yy % fieldPrime
    let m := 3 * p.x * p.x % fieldPrime
    let x := minus (m * m) (2 * s)
    ⟨x, minus (m * minus s x) (8 * yy * yy), 2 * p.y * p.z % fieldPrime⟩

def add (p q : Point) : Point :=
  if p.z = 0 then q
  else if q.z = 0 then p
  else
    let pzz := p.z * p.z % fieldPrime
    let qzz := q.z * q.z % fieldPrime
    let u1 := p.x * qzz % fieldPrime
    let u2 := q.x * pzz % fieldPrime
    let s1 := p.y * (qzz * q.z % fieldPrime) % fieldPrime
    let s2 := q.y * (pzz * p.z % fieldPrime) % fieldPrime
    if u1 = u2 then (if s1 = s2 then double p else neutral)
    else
      let h := minus u2 u1
      let r := minus s2 s1
      let hh := h * h % fieldPrime
      let hhh := h * hh % fieldPrime
      let v := u1 * hh % fieldPrime
      let x := minus (minus (r * r) hhh) (2 * v)
      ⟨x, minus (r * minus v x) (s1 * hhh), p.z * q.z % fieldPrime * h % fieldPrime⟩

def multiple (k : Nat) (p : Point) : Point :=
  (List.range 256).foldl
    (fun acc i =>
      let doubled := acc.double
      if k.testBit (255 - i) then doubled.add p else doubled)
    neutral

/-- The affine coordinates of a point that is not neutral. -/
def affine (p : Point) : Nat × Nat :=
  let zi := inverse fieldPrime p.z
  let zz := zi * zi % fieldPrime
  (p.x * zz % fieldPrime, p.y * (zz * zi % fieldPrime) % fieldPrime)

end Point

/-! ## Keys -/

/-- A private key: a number from one up to the order of the group. -/
structure PrivateKey where
  scalar : Nat
  pos : 0 < scalar
  lt_order : scalar < order

def PrivateKey.ofNat? (n : Nat) : Option PrivateKey :=
  if h : 0 < n ∧ n < order then some ⟨n, h.1, h.2⟩ else none

/-- The public key as 64 bytes, the two affine coordinates. -/
def PrivateKey.publicBytes (key : PrivateKey) : Bytes :=
  let (x, y) := (Point.base.multiple key.scalar).affine
  bytesOfNat 32 x ++ bytesOfNat 32 y

/-! ## Signatures -/

structure Signature where
  yOdd : Bool
  r : Nat
  s : Nat

structure NonceSource where
  key : Bytes
  value : Bytes

namespace NonceSource

def stir (g : NonceSource) (seed : Bytes) : NonceSource :=
  let key := hmacSha256 g.key (g.value ++ seed)
  ⟨key, hmacSha256 key g.value⟩

def start (key : PrivateKey) (digest : Nat) : NonceSource :=
  let seed := bytesOfNat 32 key.scalar ++ bytesOfNat 32 (digest % order)
  let g : NonceSource := ⟨List.replicate 32 0, List.replicate 32 1⟩
  (g.stir (0 :: seed)).stir (1 :: seed)

def next (g : NonceSource) : Nat × NonceSource :=
  let value := hmacSha256 g.key g.value
  (natOfBytes value, ⟨g.key, value⟩)

end NonceSource

/-- The signature made with one nonce, if that nonce is usable. -/
def signWith? (key : PrivateKey) (digest nonce : Nat) : Option Signature :=
  if nonce = 0 || order ≤ nonce then none
  else
    let (x, y) := (Point.base.multiple nonce).affine
    let r := x % order
    let s := inverse order nonce * (digest + r * key.scalar) % order
    if r = 0 || s = 0 then none
    else if s ≤ order / 2 then some ⟨y % 2 = 1, r, s⟩
    else some ⟨y % 2 = 0, r, order - s⟩

/-- Tries up to `attempts` nonces in the generator's order. -/
def signFrom (key : PrivateKey) (digest : Nat) : Nat → NonceSource → Option Signature
  | 0, _ => none
  | attempts + 1, g =>
    let (nonce, g) := g.next
    match signWith? key digest nonce with
    | some sig => some sig
    | none => signFrom key digest attempts (g.stir [0])

/-- The deterministic signature of a 32-byte digest. -/
def sign? (key : PrivateKey) (digest : Word) : Option Signature :=
  signFrom key digest.toNat 64 (.start key digest.toNat)

end Secp256k1

end Registrar.Crypto
