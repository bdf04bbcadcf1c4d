import RoboOne.BatteryManager.Episodes

namespace RoboOne.BatteryManager

open Transition

variable {s s' : State} {b : Battery} {i : Input}

-- A full charge is signalled in a state without a marked battery only, and the two flags of the robot
-- exclude each other.
def Consistent (s : State) (i : Input) : Prop :=
  ∀ s' ∈ step s i, (Sends .fullyCharged s s' → ∀ b, ¬s'.Marked b) ∧
    ¬(s'.gAllFullyCharged = true ∧ s'.gAllInsufficientCharge = true)

-- When a message is evaluated behind which all batteries are full, and this is news, no battery is still
-- marked.
def FullUnmarked (s : State) (i : Input) : Prop :=
  s.gAllFullyCharged = false → i ≠ .timerExpiry → (∀ b, fullCharge < s.capacityBehind i b) →
    ∀ b, ¬s.MarkedBehind i b

instance (s : State) (i : Input) : Decidable (FullUnmarked s i) :=
  inferInstanceAs (Decidable (_ → _))

-- As long as the robot counts as fully charged, no battery is marked.
structure FullClear (s : State) : Prop where
  unmarked   : s.gAllFullyCharged = true → ∀ b, ¬s.Marked b
  sufficient : s.gAllFullyCharged = true → s.gAllInsufficientCharge = false

theorem started_fullClear (s : State) : FullClear (started s) where
  unmarked h   := by cases h
  sufficient h := by cases h

theorem thresholdBehind_le (s : State) (i : Input) :
    s.thresholdBehind i ≤ fullCharge - chargeHysteresis := by
  cases i <;> exact threshold_le _

-- A battery that is used, at most, does not get marked.
theorem not_markedBehind_of_capacity (hm : ¬s.Marked b)
    (hc : fullCharge - chargeHysteresis ≤ s.capacityBehind i b) : ¬s.MarkedBehind i b := by
  intro hb
  have ht := thresholdBehind_le s i
  cases i
  case timerExpiry => exact hm hb
  case chargingPermitted ok =>
    refine hm (BatteryStatus.Marks.low hb |>.resolve_right ?_)
    have hc : fullCharge - chargeHysteresis ≤ (s.data b).remainingCapacity.toNat := hc
    omega
  case data b' d =>
    simp only [State.MarkedBehind, State.capacityBehind] at hb hc
    by_cases he : b = b'
    case pos =>
      rw [if_pos he] at hb hc
      exact hm (hb.low.resolve_right (by omega))
    case neg =>
      rw [if_neg he] at hb
      exact hm hb

-- Behind a step that leaves `gAllFullyCharged` set no battery is marked, and all have some charge.
theorem Charged.of_full (h : Charged s i s') (hj : FullClear s) (hi : FullUnmarked s i)
    (hf : s'.gAllFullyCharged = true) : ∀ b, ¬s.MarkedBehind i b := by
  have hfull := h.full.mp hf
  intro b
  cases hs : s.gAllFullyCharged
  case false =>
    rw [hs, if_neg (by simp)] at hfull
    exact hi hs hfull.left hfull.right b
  case true =>
    rw [if_pos hs] at hfull
    cases hfull
    case inl he => subst he; exact hj.unmarked hs b
    case inr hc => exact not_markedBehind_of_capacity (hj.unmarked hs b) (hc b)

theorem Charged.fullClear (h : Charged s i s') (hj : FullClear s) (hi : FullUnmarked s i) :
    FullClear s' where
  unmarked hf b hm  := h.of_full hj hi hf b (h.marked_iff.mp hm)
  sufficient hf := by
    have hu := h.of_full hj hi hf
    have hfull := h.full.mp hf
    rw [← Bool.not_eq_true, h.insufficient]
    cases hs : s.gAllFullyCharged
    case true =>
      rw [hj.sufficient hs, if_neg (by simp)]
      exact fun ⟨_, b, hb⟩ => hu b hb
    case false =>
      rw [hs, if_neg (by simp)] at hfull
      cases hl : s.gAllInsufficientCharge
      case false =>
        rw [if_neg (by simp)]
        exact fun ⟨_, b, hb⟩ => hu b hb
      case true =>
        -- All batteries would be low and full at the same time.
        rw [if_pos rfl]
        intro hc
        have hc := hc.resolve_left hfull.left .rio
        have hfull := hfull.right .rio
        have ht := thresholdBehind_le s i
        have hh : chargeHysteresis ≤ fullCharge := by decide
        omega

theorem fullClear_preserved : Preserves step FullUnmarked FullClear where
  step hj hi hs := (step_charged hs).fullClear hj hi

theorem consistent_iff (hj : FullClear s) (h : step s i = some s') :
    Consistent s i ↔ FullUnmarked s i := by
  have hc := step_charged h
  simp only [Consistent, h, Option.mem_def, Option.some.injEq, forall_eq']
  constructor
  case mp =>
    intro hcons hs hi hfull b hb
    have hset : s'.gAllFullyCharged = true := by
      rw [hc.full, hs, if_neg (by simp)]
      exact ⟨hi, hfull⟩
    exact hcons.left (hc.sends_fullyCharged_iff.mpr ⟨hs, hset⟩) b (hc.marked_iff.mpr hb)
  case mpr =>
    intro hi
    have hj' := hc.fullClear hj hi
    refine ⟨fun hsend => hj'.unmarked (hc.sends_fullyCharged_iff.mp hsend).right, fun hboth => ?_⟩
    exact Bool.false_ne_true <| (hj'.sufficient hboth.left).symm.trans hboth.right

-- In a run the signals about the charge are consistent, if and only if no battery is still marked when
-- all batteries are found to be full.
theorem signals_consistent_iff {s₀ : State} {is : List Input}
    (h : run step (started s₀) is = some s) :
    Along step Consistent (started s₀) is ↔ Along step FullUnmarked (started s₀) is :=
  fullClear_preserved.along_iff (started_fullClear s₀) h fun _ _ _ hj hs => consistent_iff hj hs

-- All batteries are full, but for one of the Orangutans.
def fulls : List Input :=
  [.data .rio ⟨0, 0, 2200, ⟨0, 0⟩, 20⟩, .data .o1 ⟨0, 0, 2200, ⟨0, 0⟩, 20⟩,
    .data .o2 ⟨0, 0, 2200, ⟨0, 0⟩, 20⟩, .data .o3 ⟨0, 0, 1000, ⟨0, 0⟩, 20⟩]

theorem signals_consistent_iff_fulls : Along step Consistent (started boot)
    (fulls ++ [.data .o3 ⟨0, 0, 2200, ⟨0, 0⟩, 20⟩]) := by
  have ⟨_, hr, _⟩ : ∃ s ∈ run step (started boot)
      (fulls ++ [.data .o3 ⟨0, 0, 2200, ⟨0, 0⟩, 20⟩]), True := by decide +kernel
  exact (signals_consistent_iff hr).mpr (by decide +kernel)

-- The low battery gets full while it is too hot, which freezes its mark.
theorem signals_inconsistent :
    ¬∀ (s₀ : State) (is : List Input) (s : State) (i : Input) (s' : State),
      run step (started s₀) is = some s → step s i = some s' →
        (Sends .fullyCharged s s' → ∀ b, (s'.status b).insufficientCharge = false) ∧
          ¬(s'.gAllFullyCharged = true ∧ s'.gAllInsufficientCharge = true) := by
  intro h
  have ⟨s, hs, s', hs', hsend, hm⟩ : ∃ s ∈ run step (started boot) fulls,
      ∃ s' ∈ step s (.data .o3 ⟨0, 0, 2200, ⟨0, 0⟩, 61⟩),
        Sends .fullyCharged s s' ∧ (s'.status .o3).insufficientCharge = true := by decide +kernel
  have hu := (h boot _ s _ s' hs hs').left hsend .o3
  rw [hm] at hu
  contradiction

end RoboOne.BatteryManager
