import RoboOne.BatteryManager.Overcharge

namespace RoboOne.BatteryManager

open Hardware Transition

variable {s s' : State} {b : Battery} {d : BatteryData} {i : Input}

namespace BatteryStatus

variable {st : BatteryStatus} {threshold : Nat}

-- The temperature flags of the battery allow it to be charged.
def Cool (st : BatteryStatus) : Prop :=
  ¬st.overTemperature ∧ ¬st.temperatureBroken

instance (st : BatteryStatus) : Decidable st.Cool :=
  inferInstanceAs (Decidable (_ ∧ _))

theorem Cool.checked_iff (h : st.Cool) : st.Checked d ↔ d.InRange := by
  simp [Checked, h.left, h.right]

theorem next_cool_iff (h : st.Cool) : (st.next threshold d).Cool ↔ d.InRange := by
  by_cases hr : d.InRange
  case pos =>
    rw [next, if_pos (h.checked_iff.mpr hr)]
    exact iff_of_true h hr
  case neg =>
    rw [next, if_neg (h.checked_iff.not.mpr hr), if_neg h.left, if_neg h.right]
    split_ifs <;> simp [Cool, hr]

-- A battery with a low charge goes on charge when the charge gets low, and stays there.
theorem next_chargerOn_of_low (h : st.Checked d) (hl : d.remainingCapacity.toNat < threshold)
    (ht : threshold ≤ fullCharge) :
    (st.next threshold d).chargerOn ↔ st.chargerOn ∨ ¬st.insufficientCharge := by
  have hf : d.remainingCapacity.toNat ≤ fullCharge := by omega
  rw [next, if_pos h]
  simp [checkCharge, hl, hf]

end BatteryStatus

theorem cool_congr {st : BatteryStatus} {full : Bool} :
    BatteryStatus.Cool { st with fullyCharged := full } ↔ st.Cool :=
  Iff.rfl

theorem step_data_status (h : step s (.data b d) = some s') : ∃ full, s'.status b =
    { (s.status b).next s.gInsufficientChargeThreshold.value.toNat d with fullyCharged := full } := by
  rw [step, if_pos (by simp [Arrives]), doAction, actionBatteryManagerData_eq, Option.map_map] at h
  obtain ⟨m, hm, rfl⟩ := Option.map_eq_some_iff.mp h
  obtain ⟨full, hf⟩ := setChargerStatus_status_self (s := s.setData b d) (b := b)
  rw [State.setData_status, State.setData_data_self] at hf
  refine ⟨full, ?_⟩
  simp only [Function.comp_apply]
  rw [(signalChargeStateAll_sameDecisions m).status, (Battery.setStatus_spec hm).status]
  exact hf

-- Data that find the temperature of their battery in order and leave it so leave a battery with a low
-- charge on charge.
def Resumed (s : State) : Input → Prop
  | .data b d => ∀ s' ∈ step s (.data b d), (s.status b).Cool → (s'.status b).Cool →
    d.remainingCapacity < s.gInsufficientChargeThreshold.value → (s'.status b).chargerOn
  | _         => True

-- Such data do not find their battery marked as insufficiently charged and off charge.
def NotLatchedOff (s : State) : Input → Prop
  | .data b d => (s.status b).Cool → d.InRange →
    d.remainingCapacity < s.gInsufficientChargeThreshold.value →
    ¬((s.status b).insufficientCharge ∧ ¬(s.status b).chargerOn)
  | _         => True

theorem resumed_iff (s : State) (i : Input) : Resumed s i ↔ NotLatchedOff s i := by
  cases i
  case chargingPermitted => rfl
  case timerExpiry       => rfl
  case data b d =>
    have hn (hc : (s.status b).Cool) (hr : d.InRange)
        (hl : d.remainingCapacity < s.gInsufficientChargeThreshold.value) :
        ((s.status b).next s.gInsufficientChargeThreshold.value.toNat d).chargerOn ↔
          (s.status b).chargerOn ∨ ¬(s.status b).insufficientCharge :=
      BatteryStatus.next_chargerOn_of_low (hc.checked_iff.mpr hr) hl
        ((threshold_le _).trans (Nat.sub_le _ _))
    constructor
    case mp =>
      intro hres hc hr hl ⟨hi, ho⟩
      -- The charger stays off, so that the step succeeds.
      have ho : (s.status b).chargerOn = false := by simpa using ho
      have hno : ((s.status b).next s.gInsufficientChargeThreshold.value.toNat d).chargerOn =
          false := by
        rw [Bool.eq_false_iff, ne_eq, hn hc hr hl]
        simp [hi, ho]
      have ⟨s', hs'⟩ := step_data_isSome (hno.trans ho.symm)
      have ⟨full, hst⟩ := step_data_status hs'
      have hc' : (s'.status b).Cool := by
        rw [hst, cool_congr]
        exact (BatteryStatus.next_cool_iff hc).mpr hr
      have hon := hres s' hs' hc hc' hl
      rw [step_data_chargerOn hs', hno] at hon
      contradiction
    case mpr =>
      intro hlat s' hs' hc hc' hl
      have ⟨full, hst⟩ := step_data_status hs'
      rw [hst, cool_congr] at hc'
      have hr := (BatteryStatus.next_cool_iff hc).mp hc'
      rw [step_data_chargerOn hs', hn hc hr hl]
      by_contra h
      rw [not_or, not_not] at h
      exact hlat hc hr hl ⟨h.right, h.left⟩

-- In a run charging resumes after every temperature excursion, if and only if no data find their
-- battery marked as insufficiently charged while it is off charge.
theorem charging_resumes_iff (s₀ : State) (is : List Input) :
    Along step Resumed (started s₀) is ↔ Along step NotLatchedOff (started s₀) is :=
  have p : Preserves step (fun _ _ => True) (fun _ => True) := ⟨fun _ _ _ => trivial⟩
  p.along_congr trivial fun s i _ => resumed_iff s i

-- An empty battery gets hot and cools down again.
def excursion : List Input :=
  [.data .o1 ⟨0, 0, 1000, ⟨0, 0⟩, 20⟩, .data .o1 ⟨0, 0, 1000, ⟨0, 0⟩, 70⟩,
    .data .o1 ⟨0, 0, 1000, ⟨0, 0⟩, 40⟩]

theorem charging_not_resumed :
    ¬∀ (s₀ : State) (is : List Input) (s s' : State) (b : Battery) (d : BatteryData),
      run step (started s₀) is = some s → step s (.data b d) = some s' → (s.status b).Cool →
        (s'.status b).Cool → d.remainingCapacity < s.gInsufficientChargeThreshold.value →
          (s'.status b).chargerOn := by
  intro h
  let d : BatteryData := ⟨0, 0, 1000, ⟨0, 0⟩, 40⟩
  have ⟨s, hr, s', hd, hc, hc', hl, hn⟩ : ∃ s ∈ run step (started boot) excursion,
      ∃ s' ∈ step s (.data .o1 d), (s.status .o1).Cool ∧ (s'.status .o1).Cool ∧
        d.remainingCapacity < s.gInsufficientChargeThreshold.value ∧ ¬(s'.status .o1).chargerOn := by
    decide +kernel
  exact hn <| h boot excursion s s' .o1 d hr hd hc hc' hl

end RoboOne.BatteryManager
