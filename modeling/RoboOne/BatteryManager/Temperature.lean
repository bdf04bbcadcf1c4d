import RoboOne.BatteryManager.Resumption

namespace RoboOne.BatteryManager

open Transition

variable {s s' : State} {b : Battery} {d : BatteryData}

-- A temperature at which the source takes a battery off charge, whatever its flags are.
def BatteryData.Extreme (d : BatteryData) : Prop :=
  maximumTemperatureC < d.temperature ∨ d.temperature < temperatureBrokenC

instance (d : BatteryData) : Decidable d.Extreme :=
  inferInstanceAs (Decidable (_ ∨ _))

theorem BatteryData.Extreme.not_inRange (h : d.Extreme) : ¬d.InRange := by
  intro hr
  cases h
  case inl h => exact absurd hr.right (not_le.mpr h)
  case inr h => exact absurd hr.left (not_le.mpr h)

namespace BatteryStatus

variable {st : BatteryStatus} {threshold : Nat}

-- The branches that recover from a bad temperature leave the charger as it is. They are taken only when
-- a temperature flag is set, in which case a safe battery is off charge already.
theorem next_chargerOn_of_extreme (h : st.Safe) (hd : d.Extreme) :
    (st.next threshold d).chargerOn = false := by
  have hk : ¬st.Checked d := fun hk => hd.not_inRange hk.right.right
  have hoff (hf : ¬st.Cool) : st.chargerOn = false := by
    rw [← Bool.not_eq_true]
    exact fun hc => hf (h hc)
  rw [next, if_neg hk]
  split_ifs with ho hm hb
  case pos => exact hoff fun hc => hc.left ho
  case pos => rfl
  case pos => exact hoff fun hc => hc.right hb
  case neg => rfl

end BatteryStatus

theorem step_data_extreme (h : (s.status b).Safe) (hd : d.Extreme)
    (hs : step s (.data b d) = some s') : (s'.status b).chargerOn = false := by
  rw [step_data_chargerOn hs]
  exact BatteryStatus.next_chargerOn_of_extreme h hd

-- In every run no battery is on charge with a temperature flag set, and data with an extreme temperature
-- take their battery off charge.
theorem temperature_cut_off {s₀ : State} {is : List Input}
    (h : run step (started s₀) is = some s) (b : Battery) :
    ((s.status b).chargerOn → ¬(s.status b).overTemperature ∧ ¬(s.status b).temperatureBroken) ∧
      ∀ d s', step s (.data b d) = some s' →
        maximumTemperatureC < d.temperature ∨ d.temperature < temperatureBrokenC →
          (s'.status b).chargerOn = false := by
  have hs := safe_kept.step.run_all (started_safe s₀) h b
  exact ⟨hs, fun d s' hstep hd => step_data_extreme hs hd hstep⟩

-- An empty battery goes on charge and overheats.
theorem temperature_cut_off_hot : ∃ s s', run step (started boot)
    [.data .o1 ⟨0, 0, 1000, ⟨0, 0⟩, 20⟩] = some s ∧ (s.status .o1).chargerOn = true ∧
      step s (.data .o1 ⟨0, 0, 1000, ⟨0, 0⟩, 61⟩) = some s' ∧ (s'.status .o1).chargerOn = false := by
  have ⟨s, hr, s', hs, hon⟩ : ∃ s ∈ run step (started boot) [.data .o1 ⟨0, 0, 1000, ⟨0, 0⟩, 20⟩],
      ∃ _ ∈ step s (.data .o1 ⟨0, 0, 1000, ⟨0, 0⟩, 61⟩), (s.status .o1).chargerOn = true := by
    decide +kernel
  have hc := temperature_cut_off hr .o1 |>.right _ s' hs (.inl (by decide))
  exact ⟨s, s', hr, hon, hs, hc⟩

end RoboOne.BatteryManager
