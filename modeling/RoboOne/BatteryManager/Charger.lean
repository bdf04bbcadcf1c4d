import Mathlib.Algebra.Order.Ring.Rat
import RoboOne.BatteryManager.Server

namespace RoboOne.BatteryManager

namespace State

variable {s : State} {b b' : Battery} {st : BatteryStatus} {d : BatteryData}

@[simp]
theorem setStatus_status_self : (s.setStatus b st).status b = st := by
  simp [setStatus, status]

@[simp]
theorem setStatus_status_of_ne (h : b' ≠ b) : (s.setStatus b st).status b' = s.status b' := by
  simp [setStatus, status, h]

@[simp]
theorem setStatus_data : (s.setStatus b st).data b' = s.data b' := by
  by_cases h : b' = b
  case pos => simp [setStatus, data, h]
  case neg => simp [setStatus, data, h]

@[simp]
theorem setStatus_status : s.setStatus b (s.status b) = s := by
  simp [setStatus, status]

@[simp]
theorem setStatus_setStatus {st' : BatteryStatus} :
    (s.setStatus b st).setStatus b st' = s.setStatus b st' := by
  simp [setStatus]

@[simp]
theorem setData_status : (s.setData b d).status b' = s.status b' := by
  by_cases h : b' = b
  case pos => simp [setData, status, h]
  case neg => simp [setData, status, h]

@[simp]
theorem setData_data_self : (s.setData b d).data b = d := by
  simp [setData, data]

-- The two states differ in the status flags of the batteries at most.
def EqUpToStatus (s s' : State) : Prop :=
  ∃ c, s' = { s with gBatteryDataContainer := c } ∧ ∀ b, s'.data b = s.data b

theorem setStatus_eqUpToStatus : EqUpToStatus s (s.setStatus b st) :=
  ⟨_, rfl, fun _ => setStatus_data⟩

theorem EqUpToStatus.trans {s₁ s₂ s₃ : State} :
    EqUpToStatus s₁ s₂ → EqUpToStatus s₂ s₃ → EqUpToStatus s₁ s₃
  | ⟨_, h₁, hd₁⟩, ⟨c, h₂, hd₂⟩ => ⟨c, by simp [h₂, h₁], fun b => (hd₂ b).trans (hd₁ b)⟩

end State

-- The temperature is in the range in which charging is allowed.
def BatteryData.InRange (d : BatteryData) : Prop :=
  temperatureBrokenC ≤ d.temperature ∧ d.temperature ≤ maximumTemperatureC

instance (d : BatteryData) : Decidable d.InRange :=
  inferInstanceAs (Decidable (_ ∧ _))

-- `setChargerStatus` gets to the checks of the charge.
def BatteryStatus.Checked (st : BatteryStatus) (d : BatteryData) : Prop :=
  ¬st.overTemperature ∧ ¬st.temperatureBroken ∧ d.InRange

instance (st : BatteryStatus) (d : BatteryData) : Decidable (st.Checked d) :=
  inferInstanceAs (Decidable (_ ∧ _))

-- The status of the battery behind the checks of the charge, but for the clearing of `fullyCharged`.
def BatteryStatus.checkCharge (st : BatteryStatus) (threshold capacity : Nat) : BatteryStatus where
  fullyCharged       := st.fullyCharged || decide (capacity > fullCharge)
  insufficientCharge :=
    if st.insufficientCharge then
      decide (capacity ≤ threshold + chargeHysteresis)
    else
      decide (capacity < threshold)
  chargerOn          :=
    (st.chargerOn || (!st.insufficientCharge && decide (capacity < threshold))) &&
      (st.fullyCharged || decide (capacity ≤ fullCharge))
  overTemperature    := st.overTemperature
  temperatureBroken  := st.temperatureBroken

-- The status of the battery behind `setChargerStatus`, but for the clearing of `fullyCharged`.
def BatteryStatus.next (st : BatteryStatus) (threshold : Nat) (d : BatteryData) : BatteryStatus :=
  if st.Checked d then
    st.checkCharge threshold d.remainingCapacity.toNat
  else if st.overTemperature then
    { st with overTemperature :=
        decide (maximumTemperatureC - temperatureHysteresisC ≤ d.temperature) }
  else if maximumTemperatureC < d.temperature then
    { st with overTemperature := true, chargerOn := false }
  else if st.temperatureBroken then
    { st with temperatureBroken :=
        decide (d.temperature ≤ temperatureBrokenC + temperatureHysteresisC) }
  else
    { st with temperatureBroken := true, chargerOn := false }

-- `setChargerStatus` gets to the assignment that is to clear `fullyCharged`.
def BatteryStatus.ClearsFull (st : BatteryStatus) (d : BatteryData) : Prop :=
  st.Checked d ∧ st.fullyCharged ∧ d.remainingCapacity.toNat < fullCharge - chargeHysteresis

instance (st : BatteryStatus) (d : BatteryData) : Decidable (st.ClearsFull d) :=
  inferInstanceAs (Decidable (_ ∧ _))

variable {s s' : State} {b b' : Battery}

theorem checkInsufficientCharge_eq : checkInsufficientCharge b s =
    let st := s.status b
    let capacity := (s.data b).remainingCapacity.toNat
    let threshold := s.gInsufficientChargeThreshold.value.toNat
    s.setStatus b { st with
      insufficientCharge :=
        if st.insufficientCharge then
          decide (capacity ≤ threshold + chargeHysteresis)
        else
          decide (capacity < threshold)
      chargerOn := st.chargerOn || (!st.insufficientCharge && decide (capacity < threshold)) } := by
  have hs : s.setStatus b (s.status b) = s := State.setStatus_status
  rcases hst : s.status b with ⟨full, insufficient, on, hot, broken⟩
  rw [hst] at hs
  cases insufficient <;> simp only [checkInsufficientCharge, hst]
  case false =>
    by_cases hc : (s.data b).remainingCapacity.toNat < s.gInsufficientChargeThreshold.value.toNat
    case pos => simp [hc]
    case neg => simp [hc, hs]
  case true =>
    by_cases hc : (s.data b).remainingCapacity.toNat ≤
        s.gInsufficientChargeThreshold.value.toNat + chargeHysteresis
    case pos => simp [hc, Nat.not_lt.mpr hc, hs]
    case neg => simp [hc, Nat.not_le.mp hc]

theorem checkFullyCharged_eq : checkFullyCharged b s =
    let st := s.status b
    let capacity := (s.data b).remainingCapacity.toNat
    let s' := s.setStatus b { st with
      fullyCharged := st.fullyCharged || decide (capacity > fullCharge)
      chargerOn    := st.chargerOn && (st.fullyCharged || decide (capacity ≤ fullCharge)) }
    if st.fullyCharged ∧ capacity < fullCharge - chargeHysteresis then
      s'.setStatus .rio { s'.status .rio with fullyCharged := false }
    else
      s' := by
  have hs : s.setStatus b (s.status b) = s := State.setStatus_status
  rcases hst : s.status b with ⟨full, insufficient, on, hot, broken⟩
  rw [hst] at hs
  cases full <;> simp only [checkFullyCharged, hst]
  case false =>
    by_cases hc : (s.data b).remainingCapacity.toNat ≤ fullCharge
    case pos => simp [hc, Nat.not_lt.mpr hc, hs]
    case neg => simp [hc, Nat.not_le.mp hc]
  case true =>
    by_cases hc : (s.data b).remainingCapacity.toNat < fullCharge - chargeHysteresis
    case pos => simp [hc, hs]
    case neg => simp [hc, hs]

-- The specification of `setChargerStatus`: the status of the battery moves on, and if `fullyCharged`
-- is to be cleared then it is cleared for the battery of the Pi/RIO.
theorem setChargerStatus_eq : setChargerStatus b s =
    let s' := s.setStatus b <|
      (s.status b).next s.gInsufficientChargeThreshold.value.toNat (s.data b)
    if (s.status b).ClearsFull (s.data b) then
      s'.setStatus .rio { s'.status .rio with fullyCharged := false }
    else
      s' := by
  have hs : s.setStatus b (s.status b) = s := State.setStatus_status
  by_cases hk : (s.status b).Checked (s.data b)
  case pos =>
    obtain ⟨ho, hb, hl, hr⟩ := hk
    have hk : (s.status b).Checked (s.data b) := ⟨ho, hb, hl, hr⟩
    simp [setChargerStatus, ho, hb, not_lt.mpr hl, not_lt.mpr hr, checkFullyCharged_eq,
      checkInsufficientCharge_eq, BatteryStatus.next, hk, BatteryStatus.ClearsFull,
      BatteryStatus.checkCharge]
  case neg =>
    simp only [BatteryStatus.next, hk, BatteryStatus.ClearsFull, false_and, ↓reduceIte]
    rcases hst : s.status b with ⟨full, insufficient, on, hot, broken⟩
    rw [hst] at hs hk
    cases hot
    case true =>
      by_cases ht : (s.data b).temperature < maximumTemperatureC - temperatureHysteresisC
      case pos => simp [setChargerStatus, hst, ht, not_le.mpr ht]
      case neg => simp [setChargerStatus, hst, ht, not_lt.mp ht, hs]
    case false =>
      by_cases hm : maximumTemperatureC < (s.data b).temperature
      case pos => simp [setChargerStatus, hst, hm]
      case neg =>
        cases broken
        case true =>
          by_cases ht : temperatureBrokenC + temperatureHysteresisC < (s.data b).temperature
          case pos => simp [setChargerStatus, hst, hm, ht, not_le.mpr ht]
          case neg => simp [setChargerStatus, hst, hm, ht, not_lt.mp ht, hs]
        case false =>
          have ht : (s.data b).temperature < temperatureBrokenC := by
            by_contra ht
            exact hk ⟨by simp, by simp, not_lt.mp ht, not_lt.mp hm⟩
          simp [setChargerStatus, hst, hm, ht]

-- Nothing but status flags change.
theorem setChargerStatus_eqUpToStatus (b : Battery) (s : State) :
    s.EqUpToStatus (setChargerStatus b s) := by
  rw [setChargerStatus_eq]
  split
  case isTrue  => exact State.setStatus_eqUpToStatus.trans State.setStatus_eqUpToStatus
  case isFalse => exact State.setStatus_eqUpToStatus

-- The flags of the battery follow from the ones before, except for the one that the source may clear
-- at any time.
theorem setChargerStatus_status_self : ∃ full, (setChargerStatus b s).status b =
    { (s.status b).next s.gInsufficientChargeThreshold.value.toNat (s.data b) with
      fullyCharged := full } := by
  have he {st st' : BatteryStatus} (h : st = st') : ∃ full, st = { st' with fullyCharged := full } :=
    ⟨st'.fullyCharged, h⟩
  rw [setChargerStatus_eq]
  split
  case isTrue =>
    cases b
    case rio => exact ⟨false, by simp⟩
    all_goals exact he (by simp)
  case isFalse => exact he (by simp)

theorem setChargerStatus_chargerOn_self : ((setChargerStatus b s).status b).chargerOn =
    ((s.status b).next s.gInsufficientChargeThreshold.value.toNat (s.data b)).chargerOn := by
  have ⟨_, h⟩ := setChargerStatus_status_self (s := s) (b := b)
  rw [h]

theorem setChargerStatus_chargerOn_of_ne (h : b' ≠ b) :
    ((setChargerStatus b s).status b').chargerOn = (s.status b').chargerOn := by
  rw [setChargerStatus_eq]
  split
  case isTrue =>
    by_cases hr : b' = .rio
    case pos => subst hr; simp [h]
    case neg => simp [h, hr]
  case isFalse => simp [h]

end RoboOne.BatteryManager
