import RoboOne.Library.Bits
import Mathlib.Data.List.Basic

namespace BitBuffer

open Bits

-- The bits of some bytes, the least significant one of each byte first.
def bits (bs : List UInt8) : List Bool :=
  bs.flatMap fun b => (List.range 8).map (bit b)

-- The byte with some bits.
def byte (f : Nat → Bool) : UInt8 :=
  (List.range 8).foldl (fun b i => if f i then b ||| single i else b) 0

-- The first `n` bytes with some bits.
def bytes : Nat → List Bool → List UInt8
  | 0,     _ => []
  | n + 1, l => byte (fun i => l.getD i false) :: bytes n (l.drop 8)

variable {as bs : List UInt8} {b : UInt8} {l : List Bool} {f : Nat → Bool} {i n : Nat}

theorem bit_byte (h : i < 8) : bit (byte f) i = f i := by
  have hor (b : UInt8) (j : Nat) : (if f j then b ||| single j else b) =
      b ||| (if f j then single j else 0) := by
    split
    case isTrue  => rfl
    case isFalse => exact (UInt8.or_zero).symm
  have hbit (j : Nat) (hj : j < 8) : bit (if f j then single j else 0) i = (f j && decide (i = j)) := by
    split
    case isTrue hf  => simp [bit_single hj, hf]
    case isFalse hf => simp [hf]
  simp only [byte, hor, List.range, List.range.loop, List.foldl, bit_or, bit_zero, Bool.false_or]
  rw [hbit 0, hbit 1, hbit 2, hbit 3, hbit 4, hbit 5, hbit 6, hbit 7] <;> try omega
  have hi : i = 0 ∨ i = 1 ∨ i = 2 ∨ i = 3 ∨ i = 4 ∨ i = 5 ∨ i = 6 ∨ i = 7 := by omega
  rcases hi with rfl | rfl | rfl | rfl | rfl | rfl | rfl | rfl <;> simp

theorem byte_bit : byte (bit b) = b := by
  refine Bits.ext fun i => ?_
  by_cases h : i < 8
  case pos => exact bit_byte h
  case neg => rw [bit_of_le (Nat.le_of_not_lt h), bit_of_le (Nat.le_of_not_lt h)]

theorem bits_cons : bits (b :: bs) = (List.range 8).map (bit b) ++ bits bs :=
  List.flatMap_cons

@[simp]
theorem bits_append : bits (as ++ bs) = bits as ++ bits bs :=
  List.flatMap_append

@[simp]
theorem length_bits : (bits bs).length = 8 * bs.length := by
  induction bs
  case nil          => rfl
  case cons b bs hi =>
    rw [bits_cons, List.length_append, hi, List.length_map, List.length_range, List.length_cons]
    omega

@[simp]
theorem length_bytes : (bytes n l).length = n := by
  induction n generalizing l
  case zero      => rfl
  case succ n hi => rw [bytes, List.length_cons, hi]

theorem bits_bytes (h : l.length = 8 * n) : bits (bytes n l) = l := by
  induction n generalizing l
  case zero      => exact (List.length_eq_zero_iff.mp h).symm
  case succ n hi =>
    rw [bytes, bits_cons, hi (by rw [List.length_drop]; omega)]
    conv_rhs => rw [← List.take_append_drop 8 l]
    congr 1
    refine List.ext_getElem (by simp; omega) fun i h₁ h₂ => ?_
    have hi8 : i < 8 := by simpa using h₁
    have hl : i < l.length := by omega
    simp [bit_byte hi8, hl]

theorem bytes_bits : bytes bs.length (bits bs) = bs := by
  induction bs
  case nil          => rfl
  case cons b bs hi =>
    have hlength : ((List.range 8).map (bit b)).length = 8 := by simp
    rw [List.length_cons, bytes, bits_cons, List.drop_append_of_le_length (by simp),
      List.drop_of_length_le (by simp), List.nil_append, hi]
    congr 1
    refine Bits.ext fun i => ?_
    by_cases h : i < 8
    case pos =>
      rw [bit_byte h, List.getD_eq_getElem?_getD, List.getElem?_append_left (by simpa using h)]
      simp [h]
    case neg => rw [bit_of_le (Nat.le_of_not_lt h), bit_of_le (Nat.le_of_not_lt h)]

theorem bits_take : bits (bs.take n) = (bits bs).take (8 * n) := by
  conv_rhs => rw [← List.take_append_drop n bs, bits_append]
  by_cases h : n ≤ bs.length
  case pos =>
    have hlength : (bits (bs.take n)).length = 8 * n := by rw [length_bits, List.length_take_of_le h]
    exact (List.take_left' hlength).symm
  case neg =>
    have hnil : bits [] = [] := rfl
    rw [List.drop_of_length_le (by omega), hnil, List.append_nil,
      List.take_of_length_le (show bs.length ≤ n by omega),
      List.take_of_length_le (by rw [length_bits]; omega)]

theorem bits_inj : bits as = bits bs ↔ as = bs := by
  refine ⟨fun h => ?_, congrArg bits⟩
  have hlength := congrArg List.length h
  rw [length_bits, length_bits] at hlength
  have hbytes := Nat.eq_of_mul_eq_mul_left (by decide) hlength
  exact bytes_bits.symm.trans <| (congrArg₂ bytes hbytes h).trans bytes_bits

theorem getElem_bits (h : i < (bits bs).length) :
    (bits bs)[i] = bit (bs.getD (i / 8) 0) (i % 8) := by
  induction bs generalizing i
  case nil          => simp at h
  case cons b bs hi =>
    have hlength : ((List.range 8).map (bit b)).length = 8 := by simp
    simp only [bits_cons]
    by_cases h8 : i < 8
    case pos =>
      rw [List.getElem_append_left (by simpa using h8), List.getElem_map, List.getElem_range,
        Nat.div_eq_of_lt h8, Nat.mod_eq_of_lt h8]
      rfl
    case neg =>
      have hdiv : i / 8 = (i - 8) / 8 + 1 := by omega
      have hmod : i % 8 = (i - 8) % 8 := by omega
      rw [List.getElem_append_right (by simpa using h8), hi, hdiv, hmod]
      simp

theorem ext_getD {l' : List Bool} (hl : l.length = l'.length)
    (h : ∀ i < l.length, l.getD i false = l'.getD i false) : l = l' := by
  refine List.ext_getElem hl fun i h₁ h₂ => ?_
  have hi := h i h₁
  rwa [List.getD_eq_getElem?_getD, List.getElem?_eq_getElem h₁, Option.getD_some,
    List.getD_eq_getElem?_getD, List.getElem?_eq_getElem h₂, Option.getD_some] at hi

theorem getD_append {pre : List Bool} {k : Nat} (h : pre.length = k) :
    (pre ++ l).getD (k + i) false = l.getD i false := by
  rw [List.getD_eq_getElem?_getD, List.getElem?_append_right (by omega), List.getD_eq_getElem?_getD]
  congr 2
  omega

theorem getD_set {x : Bool} {j : Nat} (h : j < l.length) :
    (l.set j x).getD i false = if j = i then x else l.getD i false := by
  rw [List.getD_eq_getElem?_getD, List.getElem?_set]
  by_cases hj : j = i
  case pos => rw [if_pos hj, if_pos h, if_pos hj, Option.getD_some]
  case neg => rw [if_neg hj, if_neg hj, List.getD_eq_getElem?_getD]

theorem getD_bits : (bits bs).getD i false = bit (bs.getD (i / 8) 0) (i % 8) := by
  rw [List.getD_eq_getElem?_getD]
  by_cases h : i < (bits bs).length
  case pos => rw [List.getElem?_eq_getElem h, Option.getD_some, getElem_bits h]
  case neg =>
    rw [length_bits] at h
    have hbyte : bs.getD (i / 8) 0 = 0 := by
      rw [List.getD_eq_getElem?_getD, List.getElem?_eq_none (by omega), Option.getD_none]
    rw [List.getElem?_eq_none (by rw [length_bits]; omega), hbyte, bit_zero, Option.getD_none]

-- One bit read.
theorem shiftRight_and_one (h : i < 8) : b >>> .ofNat i &&& 1 = if bit b i then 1 else 0 := by
  have hone (j : Nat) : bit 1 j = decide (j = 0) := bit_single (j := 0) (by decide)
  have hshift (j : Nat) : bit (b >>> UInt8.ofNat i) j = bit b (i + j) := by
    simp [bit, Nat.mod_eq_of_lt h]
  refine Bits.ext fun j => ?_
  rw [bit_and, hshift, hone]
  by_cases hj : j = 0
  case pos =>
    subst hj
    cases bit b i <;> simp [hone]
  case neg => cases bit b i <;> simp [hj, hone]

-- One bit written.
theorem bits_set {level : Bool} (h : i < 8) :
    bits (bs.set n (if level then bs.getD n 0 ||| single i else bs.getD n 0 &&& ~~~single i)) =
      (bits bs).set (8 * n + i) level := by
  refine List.ext_getElem (by simp) fun j h₁ h₂ => ?_
  rw [length_bits, List.length_set] at h₁
  have hd {c : UInt8} : (bs.set n c).getD (j / 8) 0 = if n = j / 8 then c else bs.getD (j / 8) 0 := by
    rw [List.getD_eq_getElem?_getD, List.getElem?_set]
    by_cases hn : n = j / 8
    case pos => rw [if_pos hn, if_pos (by omega), if_pos hn, Option.getD_some]
    case neg => rw [if_neg hn, if_neg hn, List.getD_eq_getElem?_getD]
  rw [getElem_bits, hd, List.getElem_set]
  by_cases hn : n = j / 8
  case pos =>
    rw [if_pos hn, bit_set h]
    by_cases hi : j % 8 = i
    case pos => rw [if_pos hi, if_pos (by omega)]
    case neg => rw [if_neg hi, if_neg (by omega), getElem_bits, hn]
  case neg => rw [if_neg hn, if_neg (by omega), getElem_bits]

end BitBuffer
