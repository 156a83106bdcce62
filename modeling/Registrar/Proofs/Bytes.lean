import Registrar.Bytes
import Mathlib.Algebra.Ring.Nat
import Mathlib.Data.List.Induction

/-! Numbers and the bytes that denote them: what is written with enough bytes is read back. -/
namespace Registrar
set_option autoImplicit false

/-! ## A given number of bytes -/

theorem natOfBytes_append_singleton (bytes : Bytes) (b : UInt8) :
    natOfBytes (bytes ++ [b]) = 256 * natOfBytes bytes + b.toNat := by
  simp [natOfBytes]

theorem natOfBytes_bytesOfNat {k n : Nat} (h : n < 256 ^ k) : natOfBytes (bytesOfNat k n) = n := by
  induction k generalizing n with
  | zero =>
    obtain rfl : n = 0 := by simpa using h
    rfl
  | succ k ih =>
    have quotient : n / 256 < 256 ^ k := by
      rw [Nat.div_lt_iff_lt_mul (by decide), ← Nat.pow_succ]
      exact h
    have last : (UInt8.ofNat n).toNat = n % 256 := UInt8.toNat_ofNat ..
    rw [bytesOfNat, natOfBytes_append_singleton, ih quotient, last]
    omega

/-- The lowest bytes of a number are the last of those that denote it. -/
theorem bytesOfNat_natOfBytes_of_le {k : Nat} {bytes : Bytes} (h : k ≤ bytes.length) :
    bytesOfNat k (natOfBytes bytes) = bytes.drop (bytes.length - k) := by
  induction bytes using List.reverseRecOn generalizing k with
  | nil =>
    obtain rfl : k = 0 := by simpa using h
    rfl
  | append_singleton bytes b ih =>
    rw [List.length_append, List.length_singleton] at h ⊢
    cases k with
    | zero => simp [bytesOfNat]
    | succ k =>
      have small := b.toNat_lt
      have quotient : (256 * natOfBytes bytes + b.toNat) / 256 = natOfBytes bytes := by omega
      have last : UInt8.ofNat (256 * natOfBytes bytes + b.toNat) = b := by
        apply UInt8.toNat_inj.1
        rw [UInt8.toNat_ofNat']
        omega
      have kept : bytes.length + 1 - (k + 1) = bytes.length - k := by omega
      rw [natOfBytes_append_singleton, bytesOfNat, quotient, last, ih (by omega), kept,
        List.drop_append_of_le_length (by omega)]

theorem bytesOfNat_natOfBytes (bytes : Bytes) :
    bytesOfNat bytes.length (natOfBytes bytes) = bytes := by
  have whole := bytesOfNat_natOfBytes_of_le (Nat.le_refl bytes.length)
  rwa [Nat.sub_self, List.drop_zero] at whole

theorem natOfBytes_lt (bytes : Bytes) : natOfBytes bytes < 256 ^ bytes.length := by
  induction bytes using List.reverseRecOn with
  | nil => simp [natOfBytes]
  | append_singleton bytes b ih =>
    have small := b.toNat_lt
    rw [natOfBytes_append_singleton, List.length_append, List.length_singleton, Nat.pow_succ]
    omega

namespace FixedBytes

variable {n : Nat}

theorem toNat_ofNat {m : Nat} (h : m < 256 ^ n) : (ofNat m : FixedBytes n).toNat = m :=
  natOfBytes_bytesOfNat h

theorem toNat_lt (x : FixedBytes n) : x.toNat < 256 ^ n := by
  have bound := natOfBytes_lt x.bytes
  rwa [x.length_bytes] at bound

@[simp] theorem ofNat_toNat (x : FixedBytes n) : ofNat x.toNat = x := by
  apply (eq_iff _ _).2
  have whole := bytesOfNat_natOfBytes x.bytes
  rwa [x.length_bytes] at whole

@[simp] theorem ofBytes?_bytes (x : FixedBytes n) : ofBytes? x.bytes = some x :=
  dif_pos x.length_bytes

end FixedBytes

/-! ## As few bytes as possible -/

theorem natOfBytes_dropWhile (bytes : Bytes) :
    natOfBytes (bytes.dropWhile (· == 0)) = natOfBytes bytes := by
  induction bytes with
  | nil => rfl
  | cons b rest ih =>
    by_cases h : b = 0
    · subst h
      rw [List.dropWhile_cons_of_pos (by rfl), ih]
      rfl
    · rw [List.dropWhile_cons_of_neg (by simpa using h)]

theorem natOfBytes_minimalBytes (n : Nat) : natOfBytes (minimalBytes n) = n := by
  have fits : n < 256 ^ (n.log2 / 8 + 1) := by
    have below : n < 2 ^ (n.log2 + 1) := Nat.lt_log2_self
    have bits : n.log2 + 1 ≤ 8 * (n.log2 / 8 + 1) := by omega
    calc n < 2 ^ (n.log2 + 1) := below
      _ ≤ 2 ^ (8 * (n.log2 / 8 + 1)) := Nat.pow_le_pow_right (by decide) bits
      _ = 256 ^ (n.log2 / 8 + 1) := by rw [Nat.pow_mul]
  rw [minimalBytes, natOfBytes_dropWhile, natOfBytes_bytesOfNat fits]

theorem length_minimalBytes_le {n : Nat} (h : n < 2 ^ 64) : (minimalBytes n).length ≤ 8 := by
  have bits : n.log2 < 64 := by
    by_cases hn : n = 0
    · subst hn
      decide
    · exact (Nat.log2_lt hn).2 h
  have shorter := (List.dropWhile_sublist (l := bytesOfNat (n.log2 / 8 + 1) n) (· == 0)).length_le
  rw [FixedBytes.length_bytesOfNat] at shorter
  unfold minimalBytes
  omega

theorem minimalBytes_ne_nil {n : Nat} (h : 0 < n) : minimalBytes n ≠ [] := by
  intro none
  have zero := natOfBytes_minimalBytes n
  rw [none] at zero
  exact absurd zero.symm (Nat.ne_of_gt h)

end Registrar
