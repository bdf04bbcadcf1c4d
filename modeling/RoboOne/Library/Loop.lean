import Mathlib.Logic.Function.Iterate

namespace Loop

variable {σ : Type*} {body : σ → σ} {again : σ → Bool} {s s' s'' : σ} {m n : Nat}

-- `do body while (again)`, as far as the given number of turns goes. The result is `none` if the loop
-- has not come to its end by then.
def doWhile (body : σ → σ) (again : σ → Bool) : Nat → σ → Option σ
  | 0,     _ => none
  | n + 1, s => if again (body s) then doWhile body again n (body s) else some (body s)

-- `while (again) body`.
def whileDo (body : σ → σ) (again : σ → Bool) : Nat → σ → Option σ
  | 0,     _ => none
  | n + 1, s => if again s then whileDo body again n (body s) else some s

-- A loop that is entered makes its first turn without looking at the condition again.
theorem whileDo_of_again (h : again s) :
    whileDo body again (n + 1) s = doWhile body again n s := by
  induction n generalizing s
  case zero => rw [whileDo, if_pos h]; rfl
  case succ n hi =>
    rw [whileDo, if_pos h, doWhile]
    cases hb : again (body s)
    case false => simp [whileDo, hb]
    case true  => exact hi hb

-- A loop whose condition fails for the first time after `k` turns ends there.
theorem whileDo_iterate {k : Nat} (h : ∀ j < k, again (body^[j] s)) (he : ¬again (body^[k] s)) :
    whileDo body again (k + 1) s = some (body^[k] s) := by
  induction k generalizing s
  case zero => exact if_neg he
  case succ k hi =>
    have hs : again s := h 0 k.succ_pos
    rw [whileDo, if_pos hs]
    exact hi (fun j hj => h (j + 1) (Nat.succ_lt_succ hj)) he

-- A loop with an invariant under which the condition holds does not end.
theorem whileDo_eq_none_of_invariant {I : σ → Prop} (hI : ∀ s, I s → I (body s))
    (ha : ∀ s, I s → again s) (h : I s) : whileDo body again n s = none := by
  induction n generalizing s
  case zero => rfl
  case succ n hi =>
    rw [whileDo, if_pos (ha s h)]
    exact hi (hI s h)

-- The loop ends, after however many turns.
def Ends (body : σ → σ) (again : σ → Bool) (s s' : σ) : Prop :=
  ∃ n, doWhile body again n s = some s'

theorem ends_iff : Ends body again s s' ↔
    if again (body s) then Ends body again (body s) s' else s' = body s := by
  constructor
  case mp =>
    rintro ⟨_ | n, h⟩
    case zero => cases h
    case succ =>
      rw [doWhile] at h
      split at h
      case isTrue ha  => rw [if_pos ha]; exact ⟨n, h⟩
      case isFalse ha => rw [if_neg ha]; exact (Option.some.inj h).symm
  case mpr =>
    split
    case isTrue ha =>
      rintro ⟨n, h⟩
      exact ⟨n + 1, by rw [doWhile, if_pos ha, h]⟩
    case isFalse ha =>
      rintro rfl
      exact ⟨1, by rw [doWhile, if_neg ha]⟩

-- An invariant of the body holds at the end of the loop.
theorem Ends.invariant {I : σ → Prop} (hI : ∀ s, I s → I (body s)) (h : Ends body again s s')
    (h₀ : I s) : I s' := by
  obtain ⟨n, h⟩ := h
  induction n generalizing s
  case zero => cases h
  case succ n hi =>
    rw [doWhile] at h
    split at h
    case isTrue  => exact hi (hI s h₀) h
    case isFalse => exact Option.some.inj h ▸ hI s h₀

-- A loop whose body does nothing in a state in which the condition holds does not end.
theorem not_ends_of_fixed (hb : body s = s) (ha : again s) : ¬Ends body again s s' := by
  rintro ⟨n, h⟩
  induction n
  case zero => cases h
  case succ n hi =>
    rw [doWhile, hb, if_pos ha] at h
    exact hi h

end Loop
