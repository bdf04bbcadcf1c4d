import Mathlib.Data.List.Basic

namespace RoboOne.Shared

-- `isprint` in the C locale.
def isprint (c : UInt8) : Bool :=
  0x20 ≤ c && c ≤ 0x7e

-- What is put at `pOutput`, where there is room for `size` bytes. The function does not know about the
-- room: the result is `none` if it writes behind it, or if the memory at `pInput` ends before there is a
-- terminator.
def removeCtrlCharacters (pInput : List UInt8) (size : Nat) : Option (List UInt8) :=
  let pOutput := (pInput.takeWhile (· ≠ 0)).filter isprint ++ [0]
  if 0 ∈ pInput ∧ pOutput.length ≤ size then some pOutput else none

-- A terminated string whose printable characters leave room for the terminator.
def Displayable (size : Nat) (string : List UInt8) : Prop :=
  0 ∈ string ∧ (string.takeWhile (· ≠ 0)).countP isprint < size

instance (size : Nat) (string : List UInt8) : Decidable (Displayable size string) :=
  inferInstanceAs (Decidable (_ ∧ _))

variable {size : Nat} {string rest : List UInt8}

theorem removeCtrlCharacters_eq_if : removeCtrlCharacters string size =
    if Displayable size string then some ((string.takeWhile (· ≠ 0)).filter isprint ++ [0])
    else none := by
  have hl : ((string.takeWhile (· ≠ 0)).filter isprint ++ [0]).length ≤ size ↔
      (string.takeWhile (· ≠ 0)).countP isprint < size := by
    rw [List.length_append, ← List.countP_eq_length_filter]
    exact Nat.succ_le_iff
  exact if_congr (and_congr_right' hl) rfl rfl

-- The terminator is what counts, and not what is in memory behind it.
theorem displayable_append (h : string.length < size) :
    Displayable size (string ++ 0 :: rest) := by
  refine ⟨by simp, ?_⟩
  have hle : ((string ++ 0 :: rest).takeWhile (· ≠ 0)).length ≤ string.length := by
    induction string
    case nil => simp
    case cons c string hi =>
      rw [List.cons_append, List.takeWhile_cons]
      split
      case isTrue  => exact Nat.succ_le_succ <| hi (Nat.lt_of_succ_lt h)
      case isFalse => exact Nat.zero_le _
  exact Nat.lt_of_le_of_lt (Nat.le_trans List.countP_le_length hle) h

end RoboOne.Shared
