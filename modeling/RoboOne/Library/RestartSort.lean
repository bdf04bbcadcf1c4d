import Mathlib.Data.List.Chain
import Mathlib.Tactic.Ring

namespace RestartSort

variable {α : Type*} (swaps : α → α → Prop) [DecidableRel swaps]

-- A bubble sort that starts again from the head of the list whenever it has exchanged two elements.
-- It has come past `pre`, and looks at the first element of `suf`. The first component of the result
-- is the number of turns that are left.
def loop : Nat → List α → List α → Nat × List α × List α
  | 0,     pre, suf         => (0, pre, suf)
  | n + 1, pre, []          => (n + 1, pre, [])
  | n + 1, pre, [a]         => loop n (pre ++ [a]) []
  | n + 1, pre, a :: b :: l =>
    if swaps a b then loop n [] (pre ++ b :: a :: l) else loop n (pre ++ [a]) (b :: l)

variable {swaps} {a b : α} {pre l u v w : List α} {n : Nat}

-- The loop walks past elements that are in order.
theorem loop_walk (h : (u ++ [a]).IsChain (¬swaps · ·)) :
    loop swaps (u.length + n) pre (u ++ a :: l) = loop swaps n (pre ++ u) (a :: l) := by
  induction u generalizing pre
  case nil => simp
  case cons b u hi =>
    have hl : (b :: u).length + n = u.length + n + 1 := by rw [List.length_cons]; omega
    cases u
    case nil =>
      have hs : ¬swaps b a := by simpa using h
      rw [hl]
      simp [loop, hs]
    case cons c u =>
      have hs : ¬swaps b c := (List.isChain_cons_cons.mp h).left
      have hc := (List.isChain_cons_cons.mp h).right
      rw [hl, List.cons_append, List.cons_append, loop, if_neg hs]
      simpa using @hi (pre ++ [b]) hc

-- It takes one turn more to exchange the last element that it comes past with the next one.
theorem loop_swap (h : (u ++ [b]).IsChain (¬swaps · ·)) (hs : swaps b a) :
    loop swaps (u.length + 1 + n) [] (u ++ b :: a :: l) = loop swaps n [] (u ++ a :: b :: l) := by
  have hl : u.length + 1 + n = u.length + (n + 1) := by omega
  rw [hl, loop_walk h, loop, if_pos hs, List.nil_append]

-- An element behind elements that it is to be exchanged with moves to the front of them, in as many
-- passes as there are such elements.
theorem loop_move (h : (u ++ v).IsChain (¬swaps · ·)) (hs : ∀ b ∈ v, swaps b a) :
    ∃ turns ≤ v.length * (u.length + v.length), ∀ n,
      loop swaps (turns + n) [] (u ++ v ++ a :: w) = loop swaps n [] (u ++ a :: v ++ w) := by
  induction v using List.reverseRecOn generalizing w
  case nil => exact ⟨0, by simp, by simp⟩
  case append_singleton v b hi =>
    rw [← List.append_assoc] at h
    have ⟨turns, ht, hl⟩ := hi (w := b :: w) (List.isChain_append.mp h).left
      (fun c hc => hs c (by simp [hc]))
    refine ⟨(u ++ v).length + 1 + turns, ?_, fun n => ?_⟩
    case refine_1 =>
      have he : (v.length + 1) * (u.length + (v.length + 1)) =
          v.length * (u.length + v.length) + v.length + (u.length + v.length + 1) := by ring
      simp only [List.length_append, List.length_singleton, he]
      omega
    case refine_2 =>
      have hb := loop_swap (l := w) (n := turns + n) h (hs b (by simp))
      rw [Nat.add_assoc, ← List.append_assoc, List.append_assoc _ [b], List.singleton_append, hb,
        hl, List.append_assoc, List.append_assoc]
      simp

-- The loop takes an ordered list to its end.
theorem loop_end (h : l.IsChain (¬swaps · ·)) :
    loop swaps (l.length + (n + 1)) pre l = (n + 1, pre ++ l, []) := by
  rcases List.eq_nil_or_concat l with rfl | ⟨l, a, rfl⟩
  case inl => simp [loop]
  case inr =>
    rw [List.concat_eq_append] at h ⊢
    have hl : (l ++ [a]).length + (n + 1) = l.length + (n + 2) := by simp; omega
    rw [hl, loop_walk h]
    simp [loop]

-- If all elements but the last one are in order, the loop moves the last one to its place, and ends
-- before it has taken more turns than there are pairs of elements.
theorem loop_insert (h : (u ++ v).IsChain (¬swaps · ·)) (hu : ∀ b ∈ u, ¬swaps b a)
    (hv : ∀ b ∈ v, swaps b a ∧ ¬swaps a b)
    (hn : (u ++ v).length * (u ++ v).length + (u ++ v).length + 1 < n) :
    ∃ left > 0, loop swaps n [] (u ++ v ++ [a]) = (left, u ++ a :: v, []) := by
  have ⟨turns, ht, hl⟩ := loop_move (w := []) h fun b hb => (hv b hb).left
  have hc : (u ++ a :: v).IsChain (¬swaps · ·) := by
    have ⟨hcu, hcv, _⟩ := List.isChain_append.mp h
    refine List.isChain_append.mpr ⟨hcu, List.isChain_cons.mpr ⟨fun b hb => ?_, hcv⟩, ?_⟩
    case refine_1 => exact (hv b (List.mem_of_mem_head? hb)).right
    case refine_2 =>
      intro b hb c hc
      have : c = a := by simpa using hc.symm
      exact this ▸ hu b (List.mem_of_mem_getLast? hb)
  have ht : turns ≤ (u ++ v).length * (u ++ v).length := by
    rw [List.length_append]
    exact ht.trans <| Nat.mul_le_mul_right _ (Nat.le_add_left _ _)
  have hlen : (u ++ a :: v).length = (u ++ v).length + 1 := by simp; omega
  obtain ⟨left, rfl⟩ : ∃ left, n = turns + ((u ++ a :: v).length + (left + 1)) :=
    ⟨n - turns - (u ++ a :: v).length - 1, by omega⟩
  refine ⟨left + 1, by omega, ?_⟩
  rw [hl, List.append_nil, loop_end hc, List.nil_append]

end RestartSort
