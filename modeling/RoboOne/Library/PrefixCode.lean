import Mathlib.Data.List.GetD

namespace PrefixCode

variable {ι α : Type*} {code : ι → List α} {word typed typed' : List α} {z c : α} {i : ι}

-- No word is the start of another one.
def IsPrefixFree (code : ι → List α) : Prop :=
  ∀ i j, code i <+: code j → i = j

-- More than one word starts with what has been typed.
def Ambiguous (code : ι → List α) (typed : List α) : Prop :=
  ∃ i j, i ≠ j ∧ typed <+: code i ∧ typed <+: code j

-- What is ambiguous is no word yet.
theorem Ambiguous.ne (ha : Ambiguous code typed) (h : IsPrefixFree code) : code i ≠ typed := by
  rintro rfl
  have ⟨j, k, hne, hj, hk⟩ := ha
  exact hne <| (h i j hj).symm.trans (h i k hk)

theorem Ambiguous.initial (ha : Ambiguous code typed) (h : typed' <+: typed) :
    Ambiguous code typed' := by
  have ⟨j, k, hne, hj, hk⟩ := ha
  exact ⟨j, k, hne, h.trans hj, h.trans hk⟩

-- The word, which has a terminator behind it, agrees with what has been typed in each position.
def Spells (z : α) (word typed : List α) : Prop :=
  ∀ n, (h : n < typed.length) → word.getD n z = typed[n]

instance [DecidableEq α] : Decidable (Spells z word typed) :=
  inferInstanceAs (Decidable (∀ n, (h : n < typed.length) → _))

theorem spells_nil : Spells z word [] :=
  fun _ h => absurd h (Nat.not_lt_zero _)

theorem spells_concat : Spells z word (typed ++ [c]) ↔
    Spells z word typed ∧ word.getD typed.length z = c := by
  constructor
  case mp =>
    intro h
    refine ⟨fun n hn => ?_, ?_⟩
    case refine_1 =>
      have hlt : n < (typed ++ [c]).length := by
        rw [List.length_append]
        exact Nat.lt_add_right _ hn
      exact (h n hlt).trans (List.getElem_append_left hn)
    case refine_2 =>
      have hlt : typed.length < (typed ++ [c]).length := by simp
      exact (h _ hlt).trans (by simp)
  case mpr =>
    intro ⟨h, hc⟩ n hn
    rw [List.length_append, List.length_singleton] at hn
    rcases Nat.lt_succ_iff_lt_or_eq.mp hn with hlt | rfl
    case inl => exact (h n hlt).trans (List.getElem_append_left hlt).symm
    case inr => exact hc.trans (by simp)

theorem Spells.initial (h : Spells z word typed) (hp : typed' <+: typed) :
    Spells z word typed' :=
  fun n hn => (h n (Nat.lt_of_lt_of_le hn hp.length_le)).trans (hp.getElem hn).symm

-- As long as no terminator has been typed.
theorem spells_iff (hz : z ∉ typed) : Spells z word typed ↔ typed <+: word := by
  rw [List.prefix_iff_getElem?]
  refine forall₂_congr fun n hn => ?_
  have hne : typed[n] ≠ z := fun he => hz (he ▸ List.getElem_mem hn)
  rw [List.getD_eq_getElem?_getD]
  cases word[n]?
  case none => simpa using hne.symm
  case some => simp

-- One character more is not the terminator of a word.
theorem Ambiguous.spells_concat_iff (ha : Ambiguous code typed) (h : IsPrefixFree code)
    (hz : ∀ i, z ∉ code i) : Spells z (code i) (typed ++ [c]) ↔ typed ++ [c] <+: code i := by
  have ⟨j, _, _, hj, _⟩ := ha
  have hztyped : z ∉ typed := fun hm => hz j (hj.subset hm)
  by_cases hc : c = z
  case neg =>
    refine spells_iff ?_
    simp [hztyped, Ne.symm hc]
  case pos =>
    subst hc
    refine iff_of_false (fun hs => ?_) fun hp => hz i (hp.subset (by simp))
    have ⟨hs, hc⟩ := spells_concat.mp hs
    have hp := (spells_iff hztyped).mp hs
    rcases Nat.lt_or_ge typed.length (code i).length with hlt | hge
    case inl =>
      rw [List.getD_eq_getElem _ _ hlt] at hc
      exact hz i (hc ▸ List.getElem_mem hlt)
    case inr => exact ha.ne h (hp.eq_of_length_le hge).symm

end PrefixCode
