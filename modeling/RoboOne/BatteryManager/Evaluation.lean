import RoboOne.BatteryManager.Signals

namespace RoboOne.BatteryManager

open Transition

namespace BatteryStatus

variable {st : BatteryStatus} {threshold : Nat} {d : BatteryData}

-- `setChargerStatus` leaves the battery marked as insufficiently charged. A battery whose charge is not
-- checked keeps its mark.
def Marks (st : BatteryStatus) (threshold : Nat) (d : BatteryData) : Prop :=
  if st.insufficientCharge then
    ¬(st.Checked d ∧ threshold + chargeHysteresis < d.remainingCapacity.toNat)
  else
    st.Checked d ∧ d.remainingCapacity.toNat < threshold

instance : Decidable (st.Marks threshold d) :=
  inferInstanceAs (Decidable (ite _ _ _))

theorem next_insufficientCharge_iff :
    (st.next threshold d).insufficientCharge = true ↔ st.Marks threshold d := by
  have hu (h : ¬st.Checked d) :
      (st.next threshold d).insufficientCharge = st.insufficientCharge := by
    rw [next, if_neg h]
    split_ifs <;> rfl
  by_cases hk : st.Checked d
  case pos => cases hi : st.insufficientCharge <;> simp [next, hk, checkCharge, Marks, hi]
  case neg => cases hi : st.insufficientCharge <;> simp [hu hk, hk, Marks, hi]

-- A battery gets marked on account of a low charge only.
theorem Marks.low (h : st.Marks threshold d) :
    st.insufficientCharge = true ∨ d.remainingCapacity.toNat < threshold := by
  cases hi : st.insufficientCharge
  case true  => exact .inl rfl
  case false =>
    simp only [Marks, hi, Bool.false_eq_true, ↓reduceIte] at h
    exact .inr h.right

end BatteryStatus

namespace State

-- The threshold, and the capacity and the mark of a battery, once the message has been evaluated.
def thresholdBehind (s : State) : Input → Nat
  | .chargingPermitted ok => (s.setThreshold ok).gInsufficientChargeThreshold.value.toNat
  | _                     => s.gInsufficientChargeThreshold.value.toNat

def capacityBehind (s : State) (i : Input) (b : Battery) : Nat :=
  match i with
  | .data b' d => if b = b' then d.remainingCapacity.toNat else s.capacity b
  | _          => s.capacity b

def MarkedBehind (s : State) (i : Input) (b : Battery) : Prop :=
  match i with
  | .data b' d            =>
    if b = b' then
      (s.status b).Marks (s.thresholdBehind i) d
    else
      (s.status b).insufficientCharge = true
  | .chargingPermitted _  => (s.status b).Marks (s.thresholdBehind i) (s.data b)
  | .timerExpiry          => (s.status b).insufficientCharge = true

instance (s : State) (i : Input) (b : Battery) : Decidable (s.MarkedBehind i b) :=
  match i with
  | .data _ _            => inferInstanceAs (Decidable (ite _ _ _))
  | .chargingPermitted _ => inferInstanceAs (Decidable (BatteryStatus.Marks _ _ _))
  | .timerExpiry         => inferInstanceAs (Decidable (_ = true))

end State

-- The step sends the event to the state machine.
def Sends (e : StateMachineEvent) (s s' : State) : Prop :=
  s.signals.count e < s'.signals.count e

instance (e : StateMachineEvent) (s s' : State) : Decidable (Sends e s s') :=
  inferInstanceAs (Decidable (_ < _))

variable {s s' : State} {b b' : Battery} {i : Input}

-- The flags and the signals behind `signalChargeStateAll`, exactly.
structure Signalling (s s' : State) : Prop where
  insufficient      : s'.gAllInsufficientCharge = true ↔
    if s.gAllInsufficientCharge then
      s.AllLow s.gInsufficientChargeThreshold.value.toNat
    else
      ∃ b, (s.status b).insufficientCharge = true
  full              : s'.gAllFullyCharged = true ↔
    if s.gAllFullyCharged then s.NoneUsed else ∀ b, fullCharge < s.capacity b
  countInsufficient : s'.signals.count .insufficientCharge =
    s.signals.count .insufficientCharge +
      (!s.gAllInsufficientCharge && s'.gAllInsufficientCharge).toNat
  countFull         : s'.signals.count .fullyCharged =
    s.signals.count .fullyCharged + (!s.gAllFullyCharged && s'.gAllFullyCharged).toNat

-- Either half of `signalChargeStateAll` raises its flag, or lowers it.
theorem flag_iff {flag : State → Bool} {raised lowered : State} {p q : Prop} [Decidable p]
    [Decidable q] (hr : flag raised = true) (hl : flag lowered = false) :
    flag (if !flag s then (if p then raised else s) else if q then lowered else s) = true ↔
      if flag s then ¬q else p := by
  cases hf : flag s
  case false => by_cases hp : p <;> simp [hp, hr, hf]
  case true  => by_cases hq : q <;> simp [hq, hl, hf]

theorem signalInsufficientCharge_insufficient (s : State) :
    (signalInsufficientCharge s).gAllInsufficientCharge = true ↔
      if s.gAllInsufficientCharge then
        s.AllLow s.gInsufficientChargeThreshold.value.toNat
      else
        ∃ b, (s.status b).insufficientCharge = true := by
  rw [signalInsufficientCharge, flag_iff rfl rfl, State.AllLow, forall_battery_iff,
    exists_battery_iff]
  simp [State.capacity, or_assoc]

theorem signalFullyCharged_full (s : State) :
    (signalFullyCharged s).gAllFullyCharged = true ↔
      if s.gAllFullyCharged then s.NoneUsed else ∀ b, fullCharge < s.capacity b := by
  rw [signalFullyCharged, flag_iff rfl rfl, State.NoneUsed, forall_battery_iff, forall_battery_iff]
  simp [State.capacity, and_assoc]

theorem SignalInsufficient.count (h : SignalInsufficient s s') :
    s'.signals.count .insufficientCharge = s.signals.count .insufficientCharge +
        (!s.gAllInsufficientCharge && s'.gAllInsufficientCharge).toNat ∧
      s'.signals.count .fullyCharged = s.signals.count .fullyCharged := by
  cases h
  case same h _ _    => cases hf : s.gAllInsufficientCharge <;> simp [h, hf]
  case rises hf _ h  =>
    have hs : s'.signals = s.signals ++ [.insufficientCharge] :=
      h ▸ signals_stateMachineServerSendReceive
    have hf' : s'.gAllInsufficientCharge = true := h ▸ rfl
    simp [hs, hf, hf']
  case falls hf h    => simp [h, hf, State.signals]

theorem SignalFull.count (h : SignalFull s s') :
    s'.signals.count .fullyCharged = s.signals.count .fullyCharged +
        (!s.gAllFullyCharged && s'.gAllFullyCharged).toNat ∧
      s'.signals.count .insufficientCharge = s.signals.count .insufficientCharge := by
  cases h
  case same h _    => cases hf : s.gAllFullyCharged <;> simp [h, hf]
  case rises hf h  =>
    have hs : s'.signals = s.signals ++ [.fullyCharged] :=
      h ▸ signals_stateMachineServerSendReceive
    have hf' : s'.gAllFullyCharged = true := h ▸ rfl
    simp [hs, hf, hf']
  case falls hf h  => simp [h, hf, State.signals]

theorem signalChargeStateAll_signalling (s : State) : Signalling s (signalChargeStateAll s) := by
  rw [signalChargeStateAll]
  have hi := signalInsufficientCharge_spec s
  have hf := signalFullyCharged_spec (signalInsufficientCharge s)
  have hinsufficient := signalInsufficientCharge_insufficient s
  have hfull := signalFullyCharged_full (signalInsufficientCharge s)
  generalize signalFullyCharged (signalInsufficientCharge s) = s' at hf hfull
  generalize signalInsufficientCharge s = s₁ at hi hf hinsufficient hfull
  obtain ⟨hsame, hdata⟩ := hi.same_full
  have hcapacity (b : Battery) : s₁.capacity b = s.capacity b := by
    rw [State.capacity, State.capacity, hdata]
  constructor
  case insufficient      => rw [hf.same_insufficient, hinsufficient]
  case full              => simp only [hfull, hsame, State.NoneUsed, hcapacity]
  case countInsufficient => rw [hf.count.right, hi.count.left, hf.same_insufficient]
  case countFull         => rw [hf.count.left, hi.count.right, hsame]

-- The state in which a message has been evaluated and the charge is signalled.
structure Evaluated (s : State) (i : Input) (s' : State) : Prop where
  marked       : ∀ b, (s'.status b).insufficientCharge = true ↔ s.MarkedBehind i b
  capacity     : ∀ b, s'.capacity b = s.capacityBehind i b
  threshold    : s'.gInsufficientChargeThreshold.value.toNat = s.thresholdBehind i
  insufficient : s'.gAllInsufficientCharge = s.gAllInsufficientCharge
  full         : s'.gAllFullyCharged = s.gAllFullyCharged
  signals      : s'.signals = s.signals

-- The marks of the batteries behind the evaluation of data.
theorem setStatus_insufficientCharge {force : Bool} (h : b.setStatus force s = some s') :
    (s'.status b').insufficientCharge =
      if b' = b then
        ((s.status b).next s.gInsufficientChargeThreshold.value.toNat (s.data b)).insufficientCharge
      else
        (s.status b').insufficientCharge := by
  rw [(Battery.setStatus_spec h).status]
  split
  case isTrue he =>
    have ⟨_, hs⟩ := setChargerStatus_status_self (s := s) (b := b)
    rw [he, hs]
  case isFalse hn =>
    have ⟨_, hs⟩ := setChargerStatus_status_of_ne (s := s) hn
    rw [hs]

theorem data_evaluated {d : BatteryData} (h : doAction (.data b d) s = some s') :
    ∃ s₁, Evaluated s (.data b d) s₁ ∧ s' = signalChargeStateAll s₁ := by
  rw [doAction, actionBatteryManagerData_eq, Option.map_map] at h
  obtain ⟨s₁, h₁, rfl⟩ := Option.map_eq_some_iff.mp h
  have hs := setStatus_sameSignals h₁
  refine ⟨s₁, ?_, rfl⟩
  constructor
  case marked =>
    intro b'
    rw [setStatus_insufficientCharge h₁, State.MarkedBehind]
    by_cases hb : b' = b
    case pos =>
      rw [if_pos hb, if_pos hb, hb, State.setData_status, State.setData_data_self,
        BatteryStatus.next_insufficientCharge_iff]
      rfl
    case neg => rw [if_neg hb, if_neg hb, State.setData_status]
  case capacity =>
    intro b'
    rw [State.capacity, hs.data, State.capacityBehind]
    by_cases hb : b' = b
    case pos => simp [hb]
    case neg => simp [hb, State.setData, State.data, State.capacity]
  case threshold    => rw [hs.threshold]; rfl
  case insufficient => exact hs.insufficient
  case full         => exact hs.full
  case signals      => exact hs.signals

-- The commands that withdraw the permission leave the flags of the batteries alone.
theorem sendChargersOff_status (h : sendChargersOff s = some s') : s'.status = s.status := by
  have hs : SameSettings batteries s s' := sendChargersOff_sameSettings h
  exact funext fun b => hs.status b (by cases b <;> decide)

theorem setAllChargerStatus_insufficientCharge {force : Bool}
    (h : setAllChargerStatus force s = some s') :
    (s'.status b).insufficientCharge = ((s.status b).next
      s.gInsufficientChargeThreshold.value.toNat (s.data b)).insufficientCharge := by
  rw [setAllChargerStatus_eq] at h
  have hs := setStatuses_insufficientCharge (b := b) (by decide) h
  rwa [if_pos (by cases b <;> decide)] at hs

theorem chargingPermitted_evaluated {ok : Bool}
    (h : doAction (.chargingPermitted ok) s = some s') :
    ∃ s₁, Evaluated s (.chargingPermitted ok) s₁ ∧ s' = signalChargeStateAll s₁ := by
  rw [doAction_chargingPermitted] at h
  have ⟨s₀, h₀, h⟩ := Option.bind_eq_some_iff.mp h
  obtain ⟨s₁, h₁, rfl⟩ := Option.map_eq_some_iff.mp h
  have ⟨hs₀, hstatus⟩ : SameSignals (s.setThreshold ok) s₀ ∧ s₀.status = s.status := by
    split at h₀
    case isTrue  =>
      exact ⟨sendChargersOff_sameSignals h₀, (sendChargersOff_status h₀).trans rfl⟩
    case isFalse => exact Option.some.inj h₀ ▸ ⟨.refl _, rfl⟩
  have hs := setAllChargerStatus_sameSignals h₁
  have hdata : s₀.data = s.data := hs₀.data
  have hthreshold := congrArg (fun t : InsufficientChargeThreshold => t.value.toNat) hs₀.threshold
  refine ⟨s₁, ?_, rfl⟩
  constructor
  case marked =>
    intro b
    have hm := setAllChargerStatus_insufficientCharge (b := b) h₁
    have hm : (s₁.status b).insufficientCharge = ((s₀.status b).next
        s₀.gInsufficientChargeThreshold.value.toNat (s₀.data b)).insufficientCharge := hm
    rw [hm, hstatus, hdata, hthreshold, BatteryStatus.next_insufficientCharge_iff]
    rfl
  case capacity =>
    intro b
    have hd : s₁.data = s.data := hs.data.trans hdata
    rw [State.capacity, hd]
    rfl
  case threshold    => rw [hs.threshold]; exact hthreshold
  case insufficient => exact hs.insufficient.trans hs₀.insufficient
  case full         => exact hs.full.trans hs₀.full
  case signals      => exact hs.signals.trans hs₀.signals

theorem timerExpiry_status : (actionBatteryManagerTimerExpiry (expire s .timerExpiry)).status =
    s.status := by
  have h := (actionBatteryManagerTimerExpiry_spec (expire s .timerExpiry)).containers
  funext b
  rw [State.status, h]
  rfl

-- What a step does about the charge of the batteries.
structure Charged (s : State) (i : Input) (s' : State) : Prop where
  marked            : ∀ b, (s'.status b).insufficientCharge = true ↔ s.MarkedBehind i b
  capacity          : ∀ b, s'.capacity b = s.capacityBehind i b
  threshold         : s'.gInsufficientChargeThreshold.value.toNat = s.thresholdBehind i
  insufficient      : s'.gAllInsufficientCharge = true ↔
    if s.gAllInsufficientCharge then
      i = .timerExpiry ∨ ∀ b, s.capacityBehind i b ≤ s.thresholdBehind i + chargeHysteresis
    else
      i ≠ .timerExpiry ∧ ∃ b, s.MarkedBehind i b
  full              : s'.gAllFullyCharged = true ↔
    if s.gAllFullyCharged then
      i = .timerExpiry ∨ ∀ b, fullCharge - chargeHysteresis ≤ s.capacityBehind i b
    else
      i ≠ .timerExpiry ∧ ∀ b, fullCharge < s.capacityBehind i b
  countInsufficient : s'.signals.count .insufficientCharge =
    s.signals.count .insufficientCharge +
      (!s.gAllInsufficientCharge && s'.gAllInsufficientCharge).toNat
  countFull         : s'.signals.count .fullyCharged =
    s.signals.count .fullyCharged + (!s.gAllFullyCharged && s'.gAllFullyCharged).toNat

-- What `signalChargeStateAll` leaves as it is.
theorem signalChargeStateAll_frame (s : State) :
    (signalChargeStateAll s).gBatteryDataContainer = s.gBatteryDataContainer ∧
      (signalChargeStateAll s).gInsufficientChargeThreshold = s.gInsufficientChargeThreshold := by
  simp only [signalChargeStateAll, signalFullyCharged, signalInsufficientCharge,
    stateMachineServerSendReceive, State.record]
  split_ifs <;> exact ⟨rfl, rfl⟩

theorem signalChargeStateAll_containers :
    (signalChargeStateAll s).gBatteryDataContainer = s.gBatteryDataContainer :=
  (signalChargeStateAll_frame s).left

theorem signalChargeStateAll_threshold :
    (signalChargeStateAll s).gInsufficientChargeThreshold = s.gInsufficientChargeThreshold :=
  (signalChargeStateAll_frame s).right

theorem Evaluated.charged (h : Evaluated s i s') (hi : i ≠ .timerExpiry) :
    Charged s i (signalChargeStateAll s') := by
  have hs := signalChargeStateAll_signalling s'
  constructor
  case marked =>
    intro b
    rw [(signalChargeStateAll_sameDecisions s').status]
    exact h.marked b
  case capacity =>
    intro b
    rw [State.capacity, State.data, signalChargeStateAll_containers]
    exact h.capacity b
  case threshold         => rw [signalChargeStateAll_threshold, h.threshold]
  case insufficient      =>
    simp only [hs.insufficient, h.insufficient, State.AllLow, h.capacity, h.threshold, h.marked, hi,
      false_or, ne_eq, not_false_eq_true, true_and]
  case full              =>
    simp only [hs.full, h.full, State.NoneUsed, h.capacity, hi, false_or, ne_eq, not_false_eq_true,
      true_and]
  case countInsufficient => rw [hs.countInsufficient, h.signals, h.insufficient]
  case countFull         => rw [hs.countFull, h.signals, h.full]

theorem timerExpiry_charged (s : State) :
    Charged s .timerExpiry (actionBatteryManagerTimerExpiry (expire s .timerExpiry)) := by
  have hs := timerExpiry_sameSignals s
  constructor
  case marked            => intro b; rw [timerExpiry_status]; rfl
  case capacity          => intro b; rw [State.capacity, hs.data]; rfl
  case threshold         => rw [hs.threshold]; rfl
  case insufficient      => rw [hs.insufficient]; simp
  case full              => rw [hs.full]; simp
  case countInsufficient => rw [hs.signals, hs.insufficient]; simp
  case countFull         => rw [hs.signals, hs.full]; simp

-- The specification of `step`, as far as the charge is concerned.
theorem step_charged (h : step s i = some s') : Charged s i s' := by
  have ⟨_, h⟩ := step_eq_some_iff.mp h
  cases i
  case data =>
    obtain ⟨s₁, hs, rfl⟩ := data_evaluated h
    exact hs.charged (by simp)
  case chargingPermitted =>
    obtain ⟨s₁, hs, rfl⟩ := chargingPermitted_evaluated h
    exact hs.charged (by simp)
  case timerExpiry =>
    obtain rfl := Option.some.inj h
    exact timerExpiry_charged s

namespace Charged

-- A flag is set when its event is sent, and not otherwise.
theorem sends_insufficientCharge_iff (h : Charged s i s') : Sends .insufficientCharge s s' ↔
    s.gAllInsufficientCharge = false ∧ s'.gAllInsufficientCharge = true := by
  rw [Sends, h.countInsufficient]
  cases s.gAllInsufficientCharge <;> cases s'.gAllInsufficientCharge <;> simp

theorem sends_fullyCharged_iff (h : Charged s i s') : Sends .fullyCharged s s' ↔
    s.gAllFullyCharged = false ∧ s'.gAllFullyCharged = true := by
  rw [Sends, h.countFull]
  cases s.gAllFullyCharged <;> cases s'.gAllFullyCharged <;> simp

end Charged

end RoboOne.BatteryManager
