import Mathlib.Data.Nat.Digits.Defs

namespace Bytes

-- The `n` low bytes of a number, the least significant one first.
def leBytes : Nat → Nat → List UInt8
  | 0,     _ => []
  | n + 1, v => UInt8.ofNat v :: leBytes n (v / 256)

-- The number that some bytes stand for, the least significant one first.
def leValue (bs : List UInt8) : Nat :=
  Nat.ofDigits 256 (bs.map UInt8.toNat)

variable {n v w : Nat} {as bs : List UInt8}

@[simp]
theorem length_leBytes (n v : Nat) : (leBytes n v).length = n := by
  induction n generalizing v
  case zero      => rfl
  case succ n hi => simp [leBytes, hi]

theorem leValue_cons (b : UInt8) (bs : List UInt8) : leValue (b :: bs) = b.toNat + 256 * leValue bs := by
  simp [leValue, Nat.ofDigits_cons]

theorem leValue_leBytes (n v : Nat) : leValue (leBytes n v) = v % 256 ^ n := by
  induction n generalizing v
  case zero => simp [leBytes, leValue, Nat.mod_one]
  case succ n hi =>
    have hp : 256 ^ (n + 1) = 256 * 256 ^ n := by rw [Nat.pow_succ, Nat.mul_comm]
    rw [leBytes, leValue_cons, hi, UInt8.toNat_ofNat', hp, Nat.mod_mul]

theorem leBytes_leValue (bs : List UInt8) : leBytes bs.length (leValue bs) = bs := by
  induction bs
  case nil => rfl
  case cons b bs hi =>
    have hb := b.toNat_lt
    have hmod : UInt8.ofNat (b.toNat + 256 * leValue bs) = b := by
      rw [← UInt8.toNat_inj, UInt8.toNat_ofNat']
      omega
    have hdiv : (b.toNat + 256 * leValue bs) / 256 = leValue bs := by omega
    rw [List.length_cons, leBytes, leValue_cons, hmod, hdiv, hi]

-- Numbers of `n` bytes are the same if and only if their bytes are.
theorem leValue_inj (h : as.length = bs.length) : leValue as = leValue bs ↔ as = bs := by
  refine ⟨fun hv => ?_, congrArg leValue⟩
  rw [← leBytes_leValue as, ← leBytes_leValue bs, h, hv]

end Bytes
