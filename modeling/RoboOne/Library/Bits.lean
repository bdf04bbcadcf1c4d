import Mathlib.Logic.Basic

namespace Bits

variable {a b : UInt8} {i j : Nat}

def bit (b : UInt8) (i : Nat) : Bool :=
  b.toBitVec.getLsbD i

theorem ext (h : ∀ i, bit a i = bit b i) : a = b :=
  UInt8.toBitVec_inj.mp <| BitVec.eq_of_getLsbD_eq fun i _ => h i

theorem bit_of_le (h : 8 ≤ i) : bit b i = false :=
  BitVec.getLsbD_of_ge _ _ h

@[simp]
theorem bit_zero : bit 0 i = false := by
  simp [bit]

@[simp]
theorem bit_or : bit (a ||| b) i = (bit a i || bit b i) := by
  simp [bit]

@[simp]
theorem bit_and : bit (a &&& b) i = (bit a i && bit b i) := by
  simp [bit]

theorem bit_not : bit (~~~a) i = (decide (i < 8) && !bit a i) := by
  simp [bit]

theorem bit_and_not : bit (a &&& ~~~b) i = (bit a i && !bit b i) := by
  rw [bit_and, bit_not]
  by_cases h : i < 8
  case pos => simp [h]
  case neg => simp [bit_of_le (Nat.le_of_not_lt h)]

-- A mask with a single bit.
def single (j : Nat) : UInt8 :=
  1 <<< UInt8.ofNat j

theorem bit_single (h : j < 8) : bit (single j) i = decide (i = j) := by
  by_cases hi : i < 8
  case pos =>
    have : ∀ i j : Fin 8, bit (single j) i = decide ((i : Nat) = j) := by decide
    exact this ⟨i, hi⟩ ⟨j, h⟩
  case neg =>
    rw [bit_of_le (Nat.le_of_not_lt hi)]
    exact (decide_eq_false (by omega)).symm

theorem single_succ : ∀ j : Fin 8, single j <<< 1 = if j = 7 then 0 else single (j + 1 : Nat) := by
  decide

theorem and_eq_zero_iff : a &&& b = 0 ↔ ∀ i, ¬(bit a i ∧ bit b i) := by
  constructor
  case mp =>
    intro h i
    have hi := congrArg (bit · i) h
    simpa using hi
  case mpr => exact fun h => ext fun i => by simpa using h i

theorem and_single_ne_zero_iff (h : j < 8) : b &&& single j ≠ 0 ↔ bit b j := by
  rw [Ne, and_eq_zero_iff]
  simp [bit_single h]

theorem bit_set {level : Bool} (h : j < 8) :
    bit (if level then b ||| single j else b &&& ~~~single j) i =
      if i = j then level else bit b i := by
  have hm := bit_single (i := i) h
  cases level
  case false =>
    rw [if_neg Bool.false_ne_true, bit_and_not, hm]
    by_cases hi : i = j <;> simp [hi]
  case true =>
    rw [if_pos rfl, bit_or, hm]
    by_cases hi : i = j <;> simp [hi]

theorem bit_toggle (h : j < 8) :
    bit (if b &&& single j ≠ 0 then b &&& ~~~single j else b ||| single j) i =
      (bit b i ^^ decide (i = j)) := by
  have hm := bit_single (i := i) h
  by_cases hb : b &&& single j ≠ 0
  case pos =>
    rw [if_pos hb, bit_and_not, hm]
    by_cases hi : i = j
    case pos => simp [hi, and_single_ne_zero_iff h |>.mp hb]
    case neg => simp [hi]
  case neg =>
    rw [if_neg hb, bit_or, hm]
    by_cases hi : i = j
    case pos => simpa [hi] using mt (and_single_ne_zero_iff h).mpr hb
    case neg => simp [hi]

end Bits
