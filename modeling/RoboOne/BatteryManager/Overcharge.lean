import RoboOne.BatteryManager.Charging

namespace RoboOne.BatteryManager

open Hardware Transition

variable {s s' : State} {b : Battery} {d : BatteryData} {i : Input}

namespace BatteryStatus

variable {st : BatteryStatus} {threshold : Nat}

-- A battery that is too hot, or whose temperature cannot be trusted, is not charged.
def Safe (st : BatteryStatus) : Prop :=
  st.chargerOn → ¬st.overTemperature ∧ ¬st.temperatureBroken

theorem next_safe (h : st.Safe) : (st.next threshold d).Safe := by
  intro hc
  rw [next] at hc ⊢
  split_ifs at hc ⊢ with hk ho hm hb
  case pos => exact ⟨hk.left, hk.right.left⟩
  case pos => exact absurd ho (h hc).left
  case pos => exact absurd hb (h hc).right

-- A full battery that is charging keeps charging, as long as its temperature is in range.
theorem next_chargerOn_of_full (h : st.Safe) (hd : fullCharge < d.remainingCapacity.toNat)
    (ht : threshold ≤ fullCharge) :
    (st.next threshold d).chargerOn ↔ st.fullyCharged ∧ st.chargerOn ∧ d.InRange := by
  have hl : ¬d.remainingCapacity.toNat < threshold := by omega
  have hf : ¬d.remainingCapacity.toNat ≤ fullCharge := by omega
  rw [next]
  split_ifs with hk ho hm hb
  case pos => simp [checkCharge, hl, hf, hk.right.right, and_comm]
  case pos =>
    exact ⟨fun hc => absurd ho (h hc).left, fun hc => absurd ho (h hc.right.left).left⟩
  case pos =>
    simp [BatteryData.InRange, not_le.mpr hm]
  case pos =>
    exact ⟨fun hc => absurd hb (h hc).right, fun hc => absurd hb (h hc.right.left).right⟩
  case neg =>
    simp only [false_iff, not_and]
    exact fun _ _ hr => hk ⟨ho, hb, hr⟩

-- A battery that is fully charged is off the charger, unless its charge has just been found to be low.
theorem next_fullyCharged_chargerOn (h : st.fullyCharged → ¬st.chargerOn)
    (ht : threshold ≤ fullCharge - chargeHysteresis) (hf : (st.next threshold d).fullyCharged)
    (hc : (st.next threshold d).chargerOn) : st.ClearsFull d := by
  rw [next] at hf hc
  split_ifs at hf hc with hk
  case pos =>
    simp only [checkCharge, Bool.and_eq_true, Bool.or_eq_true, decide_eq_true_eq,
      Bool.not_eq_true'] at hf hc
    have hs : st.fullyCharged := by
      rcases hf with hf | hf
      case inl => exact hf
      case inr => exact hc.right.resolve_right (by omega)
    have hl := (hc.left.resolve_left (h hs)).right
    exact ⟨hk, hs, by omega⟩
  all_goals exact absurd hc (h hf)

end BatteryStatus

-- Every threshold is below the charge at which a full battery counts as used again.
theorem threshold_le (t : InsufficientChargeThreshold) :
    t.value.toNat ≤ fullCharge - chargeHysteresis := by
  rcases t.either with h | h <;> rw [h] <;> decide

theorem SetStatus.status (h : SetStatus b s s') : s'.status = (setChargerStatus b s).status := by
  cases h
  case quiet h _ => rw [h]
  case on _ _ h  => exact funext fun _ => h.status
  case off _ h   => exact funext fun _ => h.status

-- The flags of the batteries change in `setChargerStatus` only.
theorem status_kept {I : (Battery → BatteryStatus) → Prop}
    (hI : ∀ b s, I s.status → I (setChargerStatus b s).status) :
    Kept (fun _ _ => True) (fun s => I s.status) where
  same h hs          := h.status ▸ hs
  setStatus h hs     := h.status ▸ hI _ _ hs
  permitted _ hs     := hs
  withdrawn          :=
    have h {m : HardwareMsgType} : Takes (fun s => I s.status) (fun s => I s.status)
        (sendMsgOffset m) := fun s s' hs h => by
      have he : s'.status = s.status := funext fun _ => (sendMsgOffset_spec h).status
      show I s'.status
      rwa [he]
    h.bind <| h.bind <| h.bind h
  expired {s s'} h _ hs := by
    have he : s'.status = s.status := by
      funext b
      rw [State.status, State.status, h.containers]
    rwa [he]

theorem setChargerStatus_safe (b : Battery) (s : State) (h : ∀ b, (s.status b).Safe) :
    ∀ b', ((setChargerStatus b s).status b').Safe := by
  have hn : ∀ b', ((s.setStatus b <| (s.status b).next
      s.gInsufficientChargeThreshold.value.toNat (s.data b)).status b').Safe := by
    intro b'
    by_cases he : b' = b
    case pos => rw [he, State.setStatus_status_self]; exact BatteryStatus.next_safe (h b)
    case neg => rw [State.setStatus_status_of_ne he]; exact h b'
  intro b'
  rw [setChargerStatus_eq]
  split
  case isFalse => exact hn b'
  case isTrue  =>
    by_cases he : b' = .rio
    case pos => rw [he, State.setStatus_status_self]; exact hn .rio
    case neg => rw [State.setStatus_status_of_ne he]; exact hn b'

-- `fullyCharged` of the Pi/RIO battery is what the source clears for any battery, so it is right.
theorem setChargerStatus_rio (b : Battery) (s : State)
    (h : (s.status .rio).fullyCharged → ¬(s.status .rio).chargerOn) :
    ((setChargerStatus b s).status .rio).fullyCharged →
      ¬((setChargerStatus b s).status .rio).chargerOn := by
  rw [setChargerStatus_eq]
  split
  case isTrue => simp
  case isFalse hk =>
    cases b
    case rio =>
      simp only [State.setStatus_status_self]
      exact fun hf hc => hk <|
        BatteryStatus.next_fullyCharged_chargerOn h (threshold_le _) hf hc
    all_goals
      simpa using h

-- Whatever state a run leads to, no battery with a bad temperature is charged.
theorem safe_kept : Kept (fun _ _ => True) (fun s => ∀ b, (s.status b).Safe) :=
  status_kept (I := fun st => ∀ b, (st b).Safe) setChargerStatus_safe

theorem rio_kept : Kept (fun _ _ => True)
    (fun s => (s.status .rio).fullyCharged → ¬(s.status .rio).chargerOn) :=
  status_kept (I := fun st => (st .rio).fullyCharged → ¬(st .rio).chargerOn) setChargerStatus_rio

theorem started_safe (s : State) (b : Battery) : ((started s).status b).Safe :=
  fun hc => by cases hc

-- Data with more than the full charge leave the charger of their battery off.
def FullOff (s : State) : Input → Prop
  | .data b d => fullCharge < d.remainingCapacity.toNat →
    ∀ s' ∈ step s (.data b d), (s'.status b).chargerOn = false
  | _         => True

-- Data with more than the full charge do not find their battery marked as fully charged and on charge.
def NotLatchedOn (s : State) : Input → Prop
  | .data b d => fullCharge < d.remainingCapacity.toNat →
    ¬((s.status b).fullyCharged ∧ (s.status b).chargerOn ∧ d.InRange)
  | _         => True

theorem step_data_chargerOn (h : step s (.data b d) = some s') : (s'.status b).chargerOn =
    ((s.status b).next s.gInsufficientChargeThreshold.value.toNat d).chargerOn := by
  rw [step, if_pos (by simp [Arrives]), doAction, actionBatteryManagerData_eq, Option.map_map] at h
  obtain ⟨m, hm, rfl⟩ := Option.map_eq_some_iff.mp h
  have hs := (Battery.setStatus_spec hm).status
  simp only [Function.comp_apply]
  rw [(signalChargeStateAll_sameDecisions m).status, hs, setChargerStatus_chargerOn_self,
    State.setData_status, State.setData_data_self]
  rfl

-- A charger that stays as it is is no reason to send a command, which could fail.
theorem step_data_isSome (h : ((s.status b).next s.gInsufficientChargeThreshold.value.toNat
    d).chargerOn = (s.status b).chargerOn) : ∃ s', step s (.data b d) = some s' := by
  have hn : ((setChargerStatus b (s.setData b d)).status b).chargerOn = (s.status b).chargerOn := by
    rw [setChargerStatus_chargerOn_self, State.setData_status, State.setData_data_self]
    exact h
  have hs : b.setStatus false (s.setData b d) = some (setChargerStatus b (s.setData b d)) := by
    cases hc : (s.status b).chargerOn <;> cases b <;>
      simp [Battery.setStatus, setRioChargerStatus, setO1ChargerStatus, setO2ChargerStatus,
        setO3ChargerStatus, setBatteryChargerStatus, hn, hc]
  rw [step, if_pos (by simp [Arrives]), doAction, actionBatteryManagerData_eq]
  simp only [expire, hs, Option.map_some]
  exact ⟨_, rfl⟩

theorem fullOff_iff (hs : ∀ b, (s.status b).Safe) : FullOff s i ↔ NotLatchedOn s i := by
  cases i
  case chargingPermitted => rfl
  case timerExpiry       => rfl
  case data b d =>
    refine imp_congr_right fun hd => ?_
    rw [← BatteryStatus.next_chargerOn_of_full (hs b) hd
      ((threshold_le s.gInsufficientChargeThreshold).trans (Nat.sub_le _ _))]
    constructor
    case mp =>
      intro hf hc
      have h := BatteryStatus.next_chargerOn_of_full (hs b) hd
        ((threshold_le s.gInsufficientChargeThreshold).trans (Nat.sub_le _ _)) |>.mp hc
      have ⟨s', hs'⟩ := step_data_isSome (hc.trans h.right.left.symm)
      have hoff := hf s' hs'
      rw [step_data_chargerOn hs', hc] at hoff
      contradiction
    case mpr =>
      intro hn s' hs'
      rw [step_data_chargerOn hs']
      exact Bool.eq_false_iff.mpr hn

-- In a run no full battery is charged after its data have arrived, if and only if no battery is found
-- marked as fully charged while it is on charge.
theorem full_battery_not_charged_iff (s₀ : State) (is : List Input) :
    Along step FullOff (started s₀) is ↔ Along step NotLatchedOn (started s₀) is :=
  safe_kept.step.along_congr (started_safe s₀) fun _ _ hs => fullOff_iff hs

-- An Orangutan battery is charged, discharged and charged again.
def recharge : List Input :=
  [.data .o1 ⟨0, 0, 2200, ⟨0, 0⟩, 20⟩, .data .o1 ⟨0, 0, 1000, ⟨0, 0⟩, 20⟩]

theorem full_battery_charged :
    ¬∀ (s₀ : State) (is : List Input) (s s' : State) (b : Battery) (d : BatteryData),
      run step (started s₀) is = some s → step s (.data b d) = some s' →
        fullCharge < d.remainingCapacity.toNat → (s'.status b).chargerOn = false := by
  intro h
  let d : BatteryData := ⟨0, 0, 2200, ⟨0, 0⟩, 20⟩
  have ⟨s, hr, s', hd, hn⟩ : ∃ s ∈ run step (started boot) recharge,
      ∃ s' ∈ step s (.data .o1 d), (s'.status .o1).chargerOn ≠ false := by decide
  exact hn <| h boot recharge s s' .o1 d hr hd (by decide)

-- The battery of the Pi/RIO is never charged when it is full.
theorem rio_not_charged_when_full {s₀ : State} {is : List Input}
    (h : run step (started s₀) is = some s) (hs : step s (.data .rio d) = some s')
    (hd : fullCharge < d.remainingCapacity.toNat) : (s'.status .rio).chargerOn = false := by
  have hr := rio_kept.step.run_all (fun hf => by cases hf) h
  have hs₀ := safe_kept.step.run_all (started_safe s₀) h
  have hn : NotLatchedOn s (.data .rio d) := fun _ ⟨hf, hc, _⟩ => hr hf hc
  exact (fullOff_iff hs₀).mpr hn hd s' hs

-- It is charged until it is full.
theorem rio_not_charged_when_full_charged : ∃ s s',
    run step (started boot) [.data .rio ⟨0, 0, 1000, ⟨0, 0⟩, 20⟩] = some s ∧
    step s (.data .rio ⟨0, 0, 2200, ⟨0, 0⟩, 20⟩) = some s' ∧ (s'.status .rio).chargerOn = false := by
  have ⟨s, hr, s', hs⟩ : ∃ s ∈ run step (started boot) [.data .rio ⟨0, 0, 1000, ⟨0, 0⟩, 20⟩],
      ∃ s', step s (.data .rio ⟨0, 0, 2200, ⟨0, 0⟩, 20⟩) = some s' := ⟨_, rfl, _, rfl⟩
  exact ⟨s, s', hr, hs, rio_not_charged_when_full hr hs (by decide)⟩

end RoboOne.BatteryManager
