import Mathlib.Data.List.FinRange
import RoboOne.Library.PrefixCode
import RoboOne.Library.Trace
import RoboOne.Library.Transition
import RoboOne.Menu.Commands

namespace RoboOne.Menu

open Interaction PrefixCode Transition

-- The commands that the characters are not at odds with.
def matching (typed : List UInt8) : List CommandIndex :=
  (List.finRange _).filter fun i => Spells 0 (commandString i) typed

variable {typed cs : List UInt8} {c : UInt8} {f : Found} {l : List CommandIndex} {i : CommandIndex}
  {p : Nat}

-- No command string is the start of another one, or contains a null character.
theorem commandString_prefixFree : IsPrefixFree commandString := by
  intro i j
  revert i j
  decide +kernel

theorem zero_notMem_commandString (i : CommandIndex) : 0 ∉ commandString i := by
  revert i
  decide +kernel

-- A command is left by a turn of the loop over the characters.
def isLeft (p : Nat) (c : UInt8) (f : Found) (i : CommandIndex) : Bool :=
  f.matching i && commandChar i p = c

-- What has been found behind the turn for one command.
theorem matchCommand_eq : matchCommand p c f i =
    { matching            := fun j => f.matching j && (j ≠ i || isLeft p c f j)
      numFound            := f.numFound + if isLeft p c f i then 1 else 0
      lastCommandMatching := if isLeft p c f i then i else f.lastCommandMatching } := by
  have hother {j : CommandIndex} (hj : j ≠ i) : (f.matching j && (j ≠ i || isLeft p c f j)) =
      f.matching j := by
    simp [hj]
  rw [matchCommand]
  by_cases hl : isLeft p c f i
  case pos =>
    have ⟨hm, hc⟩ : f.matching i = true ∧ commandChar i p = c := by simpa [isLeft] using hl
    rw [if_pos hm, if_pos hc, if_pos hl, if_pos hl]
    congr 1
    funext j
    by_cases hj : j = i
    case pos => simp [hj, hl, hm]
    case neg => exact (hother hj).symm
  case neg =>
    rw [if_neg hl, if_neg hl]
    by_cases hm : f.matching i
    case pos =>
      have hc : commandChar i p ≠ c := by simpa [isLeft, hm] using hl
      rw [if_pos hm, if_neg hc]
      congr 1
      funext j
      by_cases hj : j = i
      case pos => simp [hj, hl]
      case neg => rw [Function.update_of_ne hj, hother hj]
    case neg =>
      rw [if_neg hm]
      cases f
      case mk m n last =>
        have hm : m i = false := Bool.eq_false_iff.mpr hm
        congr 1
        funext j
        by_cases hj : j = i
        case pos => simp [hj, hm]
        case neg => exact (hother hj).symm

-- The turn for one command does not matter for the others.
theorem isLeft_matchCommand {j : CommandIndex} (h : j ≠ i) :
    isLeft p c (matchCommand p c f i) j = isLeft p c f j := by
  simp [matchCommand_eq, isLeft, h]

-- What has been found behind the turns for some commands.
theorem foldl_matchCommand (hl : l.Nodup) : l.foldl (matchCommand p c) f =
    { matching            := fun j => f.matching j && (j ∉ l || isLeft p c f j)
      numFound            := f.numFound + (l.filter (isLeft p c f)).length
      lastCommandMatching := (l.filter (isLeft p c f)).getLast?.getD f.lastCommandMatching } := by
  induction l generalizing f
  case nil => simp
  case cons i l hi =>
    have ⟨hm, hl⟩ := List.nodup_cons.mp hl
    have hleft {j : CommandIndex} (hj : j ∈ l) :
        isLeft p c (matchCommand p c f i) j = isLeft p c f j :=
      isLeft_matchCommand fun he => hm (he ▸ hj)
    rw [List.foldl_cons, hi hl, List.filter_congr fun j hj => hleft hj, matchCommand_eq,
      List.filter_cons]
    congr 1
    case e_matching =>
      funext j
      grind [isLeft]
    case e_numFound => grind
    case e_lastCommandMatching =>
      by_cases hi : isLeft p c f i
      case pos => simp [hi, List.getLast?_cons]
      case neg => simp [hi]

-- One turn of the loop over the characters.
theorem turn_eq (hf : f.matching = fun i => decide (Spells 0 (commandString i) typed)) :
    (List.finRange _).foldl (matchCommand typed.length c) ⟨f.matching, 0, 0⟩ =
      { matching            := fun i => Spells 0 (commandString i) (typed ++ [c])
        numFound            := (matching (typed ++ [c])).length
        lastCommandMatching := (matching (typed ++ [c])).getLast?.getD 0 } := by
  have hleft : isLeft typed.length c ⟨f.matching, 0, 0⟩ =
      fun i => decide (Spells 0 (commandString i) (typed ++ [c])) := by
    funext i
    rw [isLeft, hf]
    simp [spells_concat, commandChar]
  rw [foldl_matchCommand (List.nodup_finRange _), hleft, matching]
  congr 1
  case e_matching =>
    funext i
    simp [hf, spells_concat]
  case e_numFound => exact Nat.zero_add _

theorem matching_eq_nil_of_initial {typed' : List UInt8} (hp : typed <+: typed')
    (h : matching typed = []) : matching typed' = [] := by
  rw [matching, List.filter_eq_nil_iff] at h ⊢
  intro i hi hs
  exact h i hi <| decide_eq_true <| (of_decide_eq_true hs).initial hp

-- What has been found behind the loop.
theorem findCommands_spec (hp : p = typed.length)
    (hf : f.matching = fun i => decide (Spells 0 (commandString i) typed)) :
    (findCommands p (c :: cs) f).numFound = (matching (typed ++ c :: cs)).length ∧
      ∀ i, matching (typed ++ c :: cs) = [i] →
        (findCommands p (c :: cs) f).lastCommandMatching = i := by
  induction cs generalizing p typed c f
  case nil =>
    rw [findCommands, hp, turn_eq hf, findCommands, ite_self]
    refine ⟨rfl, fun i hi => ?_⟩
    change (matching (typed ++ [c])).getLast?.getD 0 = i
    rw [hi]
    rfl
  case cons c' cs hi =>
    have happend : typed ++ c :: c' :: cs = typed ++ [c] ++ c' :: cs := by simp
    have hlength : p + 1 = (typed ++ [c]).length := by simp [hp]
    rw [findCommands, happend]
    by_cases hn : (matching (typed ++ [c])).length > 0
    case pos =>
      rw [hp, turn_eq hf, if_pos hn, ← hp]
      exact hi hlength rfl
    case neg =>
      have hnil := List.eq_nil_of_length_eq_zero <| Nat.eq_zero_of_not_pos hn
      rw [hp, turn_eq hf, if_neg hn, matching_eq_nil_of_initial (List.prefix_append _ _) hnil, hnil]
      exact ⟨rfl, nofun⟩

theorem findCommands_start (h : typed ≠ []) :
    (findCommands 0 typed ⟨fun _ => true, 0, 0⟩).numFound = (matching typed).length ∧
      ∀ i, matching typed = [i] →
        (findCommands 0 typed ⟨fun _ => true, 0, 0⟩).lastCommandMatching = i := by
  cases typed
  case nil       => exact absurd rfl h
  case cons c cs =>
    refine findCommands_spec (List.length_nil).symm ?_
    simp [spells_nil]

theorem spells_of_mem_matching (h : i ∈ matching typed) : Spells 0 (commandString i) typed :=
  of_decide_eq_true (List.mem_filter.mp h).right

-- The first three characters make the difference between the commands.
theorem eq_of_commandChar_eq {j : CommandIndex} :
    (∀ n < 3, commandChar i n = commandChar j n) → i = j := by
  revert i j
  decide +kernel

theorem length_lt_of_spells {j : CommandIndex} (hne : i ≠ j)
    (hi : Spells 0 (commandString i) typed) (hj : Spells 0 (commandString j) typed) :
    typed.length < 3 := by
  by_contra hge
  refine hne <| eq_of_commandChar_eq fun n hn => ?_
  have hlt : n < typed.length := Nat.lt_of_lt_of_le hn (Nat.le_of_not_lt hge)
  exact (hi n hlt).trans (hj n hlt).symm

-- Two commands that are left are different ones.
theorem ne_of_matching {j : CommandIndex} (h : matching typed = i :: j :: l) : i ≠ j := by
  have hn : (matching typed).Nodup := (List.nodup_finRange _).filter _
  rw [h] at hn
  exact fun he => (List.nodup_cons.mp hn).left (he ▸ List.mem_cons_self)

end RoboOne.Menu
