import Mathlib.Logic.Function.Basic
import Mathlib.Data.List.Induction

namespace Store

variable {κ α : Type} [DecidableEq κ] {s : κ → α} {writes writes' : List (κ × α)} {k : κ}

-- What a store holds after some writes, oldest first.
def writeAll (s : κ → α) (writes : List (κ × α)) : κ → α :=
  writes.foldl (fun s write => Function.update s write.fst write.snd) s

theorem writeAll_append : writeAll s (writes ++ writes') = writeAll (writeAll s writes) writes' :=
  List.foldl_append

theorem writeAll_flatMap {ι : Type} {f : ι → List (κ × α)} (is : List ι) :
    writeAll s (is.flatMap f) = is.foldl (fun s i => writeAll s (f i)) s :=
  List.foldl_flatMap

-- The store holds what has been written last.
theorem writeAll_eq_lookup :
    writeAll s writes k = (writes.reverse.lookup k).getD (s k) := by
  induction writes using List.reverseRecOn
  case nil => rfl
  case append_singleton writes write hi =>
    rw [writeAll_append, List.reverse_concat, List.lookup_cons]
    by_cases h : k = write.fst
    case pos => simp [writeAll, h]
    case neg => simpa [writeAll, Function.update_of_ne h, beq_eq_false_iff_ne.mpr h] using hi

end Store
