import RoboOne.BatteryManager.Traffic

namespace RoboOne.BatteryManager

open Hardware Transition

def Event.signal? : Event → Option StateMachineEvent
  | .stateMachineServerSendReceive e => some e
  | _                                => none

namespace State

-- The events that have been sent to the state machine.
def signals (s : State) : List StateMachineEvent :=
  s.trace.filterMap Event.signal?

def capacity (s : State) (b : Battery) : Nat :=
  (s.data b).remainingCapacity.toNat

-- No battery is sufficiently charged, so `gAllInsufficientCharge` is not reset.
def AllLow (s : State) (threshold : Nat) : Prop :=
  ∀ b, s.capacity b ≤ threshold + chargeHysteresis

-- No battery is used, so `gAllFullyCharged` is not reset.
def NoneUsed (s : State) : Prop :=
  ∀ b, fullCharge - chargeHysteresis ≤ s.capacity b

end State

variable {s s' : State} {m : HardwareMsgType} {b b' : Battery} {i : Input}

theorem exists_battery_iff {p : Battery → Prop} :
    (∃ b, p b) ↔ p .rio ∨ p .o1 ∨ p .o2 ∨ p .o3 := by
  constructor
  case mp =>
    rintro ⟨b, h⟩
    cases b <;> simp [h]
  case mpr => rintro (h | h | h | h) <;> exact ⟨_, h⟩

theorem forall_battery_iff {p : Battery → Prop} :
    (∀ b, p b) ↔ p .rio ∧ p .o1 ∧ p .o2 ∧ p .o3 := by
  refine ⟨fun h => ⟨h _, h _, h _, h _⟩, ?_⟩
  rintro ⟨h₀, h₁, h₂, h₃⟩ b
  cases b <;> assumption

-- The specification of the half of `signalChargeStateAll` that is about `gAllInsufficientCharge`.
inductive SignalInsufficient (s s' : State) : Prop
  | same (eq : s' = s)
      (high : s.gAllInsufficientCharge = true → s.AllLow s.gInsufficientChargeThreshold.value.toNat)
      (low : s.gAllInsufficientCharge = false → ¬∃ b, (s.status b).insufficientCharge = true)
  | rises (low : s.gAllInsufficientCharge = false) (h : ∃ b, (s.status b).insufficientCharge = true)
      (eq : s' = stateMachineServerSendReceive .insufficientCharge
        { s with gAllInsufficientCharge := true })
  | falls (high : s.gAllInsufficientCharge = true) (eq : s' = { s with gAllInsufficientCharge := false })

theorem signalInsufficientCharge_spec (s : State) :
    SignalInsufficient s (signalInsufficientCharge s) := by
  rw [signalInsufficientCharge]
  cases hf : s.gAllInsufficientCharge
  case false =>
    simp only [Bool.not_false, ↓reduceIte]
    split
    case isTrue h  => exact .rises hf (exists_battery_iff.mpr (by simpa [or_assoc] using h)) rfl
    case isFalse h =>
      refine .same rfl (fun h => by simp [hf] at h) fun _ he => h ?_
      simpa [or_assoc] using exists_battery_iff.mp he
  case true =>
    simp only [Bool.not_true, Bool.false_eq_true, ↓reduceIte]
    split
    case isTrue h  => exact .falls hf rfl
    case isFalse h =>
      refine .same rfl (fun _ => forall_battery_iff.mpr ?_) fun h => by simp [hf] at h
      simpa [State.capacity, not_or, and_assoc] using h

-- The specification of the half that is about `gAllFullyCharged`.
inductive SignalFull (s s' : State) : Prop
  | same (eq : s' = s) (high : s.gAllFullyCharged = true → s.NoneUsed)
  | rises (low : s.gAllFullyCharged = false)
      (eq : s' = stateMachineServerSendReceive .fullyCharged { s with gAllFullyCharged := true })
  | falls (high : s.gAllFullyCharged = true) (eq : s' = { s with gAllFullyCharged := false })

theorem signalFullyCharged_spec (s : State) : SignalFull s (signalFullyCharged s) := by
  rw [signalFullyCharged]
  cases hf : s.gAllFullyCharged
  case false =>
    simp only [Bool.not_false, ↓reduceIte]
    split
    case isTrue h  => exact .rises hf rfl
    case isFalse h => exact .same rfl fun h => by simp [hf] at h
  case true =>
    simp only [Bool.not_true, Bool.false_eq_true, ↓reduceIte]
    split
    case isTrue h  => exact .falls hf rfl
    case isFalse h =>
      refine .same rfl fun _ => forall_battery_iff.mpr ?_
      simpa [State.capacity, not_or, and_assoc] using h

-- The specification of `signalChargeStateAll`: an event is sent when one of the flags rises.
structure Signalled (s s' : State) : Prop where
  stays     : s.gAllInsufficientCharge = true → s'.gAllInsufficientCharge = true →
    s.AllLow s.gInsufficientChargeThreshold.value.toNat
  rises     : s.gAllInsufficientCharge = false →
    (s'.gAllInsufficientCharge = true ↔ ∃ b, (s.status b).insufficientCharge = true)
  staysFull : s.gAllFullyCharged = true → s'.gAllFullyCharged = true → s.NoneUsed
  signals   : ∃ new, s'.signals = s.signals ++ new ∧
    (s.gAllInsufficientCharge = false → s'.gAllInsufficientCharge = true →
      .insufficientCharge ∈ new) ∧
    (s.gAllFullyCharged = false → s'.gAllFullyCharged = true → .fullyCharged ∈ new)

@[simp]
theorem signals_stateMachineServerSendReceive {e : StateMachineEvent} :
    (stateMachineServerSendReceive e s).signals = s.signals ++ [e] := by
  simp [stateMachineServerSendReceive, State.record, State.signals, Event.signal?]

-- What one half of `signalChargeStateAll` does to the signals and to the flag of the other half.
theorem SignalInsufficient.signals (h : SignalInsufficient s s') :
    ∃ new, s'.signals = s.signals ++ new ∧ (s.gAllInsufficientCharge = false →
      s'.gAllInsufficientCharge = true → .insufficientCharge ∈ new) := by
  cases h
  case same h _ _   => exact ⟨[], by simp [h], fun h₁ h₂ => by simp [h, h₁] at h₂⟩
  case rises _ _ h  => exact ⟨_, h ▸ signals_stateMachineServerSendReceive, by simp⟩
  case falls _ h    => exact ⟨[], by simp [h, State.signals], fun _ h₂ => by simp [h] at h₂⟩

theorem SignalInsufficient.same_full (h : SignalInsufficient s s') :
    s'.gAllFullyCharged = s.gAllFullyCharged ∧ s'.data = s.data := by
  cases h
  case same h _ _  => exact h ▸ ⟨rfl, rfl⟩
  case rises _ _ h => exact h ▸ ⟨rfl, rfl⟩
  case falls _ h   => exact h ▸ ⟨rfl, rfl⟩

theorem SignalFull.signals (h : SignalFull s s') :
    ∃ new, s'.signals = s.signals ++ new ∧ (s.gAllFullyCharged = false →
      s'.gAllFullyCharged = true → .fullyCharged ∈ new) := by
  cases h
  case same h _  => exact ⟨[], by simp [h], fun h₁ h₂ => by simp [h, h₁] at h₂⟩
  case rises _ h => exact ⟨_, h ▸ signals_stateMachineServerSendReceive, by simp⟩
  case falls _ h => exact ⟨[], by simp [h, State.signals], fun _ h₂ => by simp [h] at h₂⟩

theorem SignalFull.same_insufficient (h : SignalFull s s') :
    s'.gAllInsufficientCharge = s.gAllInsufficientCharge := by
  cases h
  case same h _  => exact h ▸ rfl
  case rises _ h => exact h ▸ rfl
  case falls _ h => exact h ▸ rfl

theorem signalChargeStateAll_spec (s : State) : Signalled s (signalChargeStateAll s) := by
  rw [signalChargeStateAll]
  have hi := signalInsufficientCharge_spec s
  have hf := signalFullyCharged_spec (signalInsufficientCharge s)
  generalize signalFullyCharged (signalInsufficientCharge s) = s' at hf
  generalize signalInsufficientCharge s = s₁ at hi hf
  obtain ⟨new, hn, hr⟩ := hi.signals
  obtain ⟨new', hn', hr'⟩ := hf.signals
  obtain ⟨hfull, hdata⟩ := hi.same_full
  have hlow := hf.same_insufficient
  constructor
  case stays =>
    intro h h'
    cases hi
    case same _ hh _  => exact hh h
    case rises hl _ _ => simp [hl] at h
    case falls _ he   => simp [hlow, he] at h'
  case rises =>
    intro h
    rw [hlow]
    cases hi
    case same he _ hl => exact iff_of_false (by simp [he, h]) (hl h)
    case rises _ hb he =>
      exact iff_of_true (by simp [he, stateMachineServerSendReceive, State.record]) hb
    case falls hh _    => simp [hh] at h
  case staysFull =>
    intro h h' b
    have hc : s₁.capacity b = s.capacity b := by rw [State.capacity, State.capacity, hdata]
    cases hf
    case same _ hh  => exact hc ▸ hh (hfull.trans h) b
    case rises hl _ => simp [hfull, h] at hl
    case falls _ he => simp [he] at h'
  case signals =>
    refine ⟨new ++ new', by rw [hn', hn, List.append_assoc], fun h h' => ?_, fun h h' => ?_⟩
    case refine_1 => exact List.mem_append_left _ <| hr h (hlow ▸ h')
    case refine_2 => exact List.mem_append_right _ <| hr' (hfull.trans h) h'

-- What decides about the signals is the same, but for the flags of the batteries.
structure SameSignals (s s' : State) : Prop where
  permitted    : s'.gChargingPermitted = s.gChargingPermitted
  insufficient : s'.gAllInsufficientCharge = s.gAllInsufficientCharge
  full         : s'.gAllFullyCharged = s.gAllFullyCharged
  threshold    : s'.gInsufficientChargeThreshold = s.gInsufficientChargeThreshold
  data         : s'.data = s.data
  signals      : s'.signals = s.signals

namespace SameSignals

theorem refl (s : State) : SameSignals s s :=
  ⟨rfl, rfl, rfl, rfl, rfl, rfl⟩

theorem trans {s₁ s₂ s₃ : State} (h₁ : SameSignals s₁ s₂) (h₂ : SameSignals s₂ s₃) :
    SameSignals s₁ s₃ where
  permitted    := h₂.permitted.trans h₁.permitted
  insufficient := h₂.insufficient.trans h₁.insufficient
  full         := h₂.full.trans h₁.full
  threshold    := h₂.threshold.trans h₁.threshold
  data         := h₂.data.trans h₁.data
  signals      := h₂.signals.trans h₁.signals

-- Only what goes to the state machine is a signal.
theorem record {e : Event} (he : e.signal? = none) : SameSignals s (s.record e) :=
  ⟨rfl, rfl, rfl, rfl, rfl, by simp [State.signals, State.record, he]⟩

theorem hardwareServerSendReceive :
    SameSignals s (BatteryManager.hardwareServerSendReceive m s) :=
  .record rfl

theorem sendStartTimer : SameSignals s (BatteryManager.sendStartTimer m s) := by
  have h : SameSignals s (s.record (.sendStartTimer sendMsgOffsetDurationDeciseconds m.toUInt8
      s.gThisServerPort s.gTimerExpiryMsg)) := .record rfl
  exact ⟨rfl, rfl, rfl, rfl, rfl, h.signals⟩

-- Neither the queue nor the timer has to do with the signals.
theorem offset {q : HardwareMsgQ} {running : Bool} {timers : Nat} : SameSignals s
    { s with gHardwareMsgQ := q, gTimerRunning := running, timers := timers } :=
  ⟨rfl, rfl, rfl, rfl, rfl, rfl⟩

end SameSignals

theorem sendMsgOffset_sameSignals (h : sendMsgOffset m s = some s') : SameSignals s s' := by
  have hr : SameSignals s (s.record (.sendMsgOffset m)) := .record rfl
  rw [sendMsgOffset] at h
  split at h
  case isTrue =>
    obtain rfl := Option.some.inj h
    exact hr.trans <| .trans .hardwareServerSendReceive <| .trans .sendStartTimer .offset
  case isFalse =>
    obtain ⟨q, _, rfl⟩ := Option.map_eq_some_iff.mp h
    exact hr.trans .offset

theorem setChargerStatus_sameSignals (b : Battery) (s : State) :
    SameSignals s (setChargerStatus b s) := by
  have ⟨_, h, hd⟩ := setChargerStatus_eqUpToStatus b s
  refine ⟨?_, ?_, ?_, ?_, funext hd, ?_⟩ <;> rw [h]
  rfl

theorem setStatus_sameSignals {force : Bool} (h : b.setStatus force s = some s') :
    SameSignals s s' := by
  have hs := setChargerStatus_sameSignals b s
  rcases Battery.setStatus_cases h with rfl | ⟨m, h⟩
  case inl => exact hs
  case inr => exact hs.trans (sendMsgOffset_sameSignals h)

theorem setAllChargerStatus_sameSignals {force : Bool} (h : setAllChargerStatus force s = some s') :
    SameSignals s s' := by
  rw [setAllChargerStatus_eq] at h
  exact run_related .refl .trans setStatus_sameSignals h

theorem sendChargersOff_sameSignals (h : sendChargersOff s = some s') : SameSignals s s' := by
  rw [sendChargersOff_eq] at h
  exact run_related .refl .trans sendMsgOffset_sameSignals h

-- The way to the end of a change of the permission: `s₁` is the state behind the loop over the
-- batteries, in which the charge is signalled.
theorem chargingPermitted_sameSignals {ok : Bool}
    (h : doAction (.chargingPermitted ok) s = some s') : ∃ s₁,
      SameSignals { s.setThreshold ok with gChargingPermitted := ok } s₁ ∧
        s' = signalChargeStateAll s₁ := by
  rw [doAction_chargingPermitted] at h
  have ⟨s₀, h₀, h⟩ := Option.bind_eq_some_iff.mp h
  obtain ⟨s₁, h₁, rfl⟩ := Option.map_eq_some_iff.mp h
  have hs₀ : SameSignals (s.setThreshold ok) s₀ := by
    split at h₀
    case isTrue  => exact sendChargersOff_sameSignals h₀
    case isFalse => exact Option.some.inj h₀ ▸ .refl _
  refine ⟨s₁, .trans ?_ (setAllChargerStatus_sameSignals h₁), rfl⟩
  exact ⟨rfl, hs₀.insufficient, hs₀.full, hs₀.threshold, hs₀.data, hs₀.signals⟩

theorem signalChargeStateAll_permitted :
    (signalChargeStateAll s).gChargingPermitted = s.gChargingPermitted :=
  (signalChargeStateAll_sameDecisions s).permitted

-- The flags that are set behind a step have been set before, or the step has sent their events.
structure Signals (s s' : State) (new : List StateMachineEvent) : Prop where
  signals      : s'.signals = s.signals ++ new
  insufficient : s'.gAllInsufficientCharge = true →
    s.gAllInsufficientCharge = true ∨ .insufficientCharge ∈ new
  full         : s'.gAllFullyCharged = true →
    s.gAllFullyCharged = true ∨ .fullyCharged ∈ new

theorem Signalled.of_same {s₁ : State} (hs : s₁.gAllInsufficientCharge = s.gAllInsufficientCharge)
    (hf : s₁.gAllFullyCharged = s.gAllFullyCharged) (hn : s₁.signals = s.signals)
    (h : Signalled s₁ s') : ∃ new, Signals s s' new := by
  have ⟨new, hn', hi, hf'⟩ := h.signals
  refine ⟨new, hn' ▸ hn ▸ rfl, fun h' => ?_, fun h' => ?_⟩
  case refine_1 =>
    cases hb : s.gAllInsufficientCharge
    case true  => exact .inl rfl
    case false => exact .inr <| hi (hs.trans hb) h'
  case refine_2 =>
    cases hb : s.gAllFullyCharged
    case true  => exact .inl rfl
    case false => exact .inr <| hf' (hf.trans hb) h'

theorem SameSignals.signals_nil (h : SameSignals s s') : Signals s s' [] where
  signals         := by rw [h.signals, List.append_nil]
  insufficient h' := .inl (h.insufficient ▸ h')
  full h'         := .inl (h.full ▸ h')

theorem timerExpiry_sameSignals (s : State) :
    SameSignals s (actionBatteryManagerTimerExpiry (expire s .timerExpiry)) := by
  have h₁ : SameSignals s { expire s .timerExpiry with gTimerRunning := false } := .offset
  rw [actionBatteryManagerTimerExpiry]
  split
  case h_1 => exact h₁
  case h_2 m _ =>
    have h₂ := h₁.trans <| .hardwareServerSendReceive (m := m)
    dsimp only
    split
    case h_1 => exact h₂.trans .offset
    case h_2 => exact (h₂.trans .offset).trans <| SameSignals.sendStartTimer.trans .offset

theorem data_sameSignals {d : BatteryData} (h : doAction (.data b d) s = some s') : ∃ s₁,
    SameSignals (s.setData b d) s₁ ∧ s' = signalChargeStateAll s₁ := by
  rw [doAction, actionBatteryManagerData_eq, Option.map_map] at h
  obtain ⟨s₁, h₁, rfl⟩ := Option.map_eq_some_iff.mp h
  exact ⟨s₁, setStatus_sameSignals h₁, rfl⟩

-- What a step of the server does about its signals.
theorem step_signals (h : step s i = some s') : ∃ new, Signals s s' new := by
  have ⟨_, h⟩ := step_eq_some_iff.mp h
  cases i
  case data =>
    obtain ⟨s₁, hs, rfl⟩ := data_sameSignals h
    exact (signalChargeStateAll_spec s₁).of_same hs.insufficient hs.full hs.signals
  case chargingPermitted =>
    obtain ⟨s₁, hs, rfl⟩ := chargingPermitted_sameSignals h
    exact (signalChargeStateAll_spec s₁).of_same hs.insufficient hs.full hs.signals
  case timerExpiry =>
    obtain rfl := Option.some.inj h
    exact ⟨[], (timerExpiry_sameSignals s).signals_nil⟩

-- The permission is what the last message about it says.
def Input.permission? : Input → Option Bool
  | .chargingPermitted ok => some ok
  | _                     => none

theorem step_permitted (h : step s i = some s') :
    s'.gChargingPermitted = i.permission?.getD s.gChargingPermitted := by
  have ⟨_, h⟩ := step_eq_some_iff.mp h
  cases i
  case data =>
    obtain ⟨s₁, hs, rfl⟩ := data_sameSignals h
    exact signalChargeStateAll_permitted.trans hs.permitted
  case chargingPermitted =>
    obtain ⟨s₁, hs, rfl⟩ := chargingPermitted_sameSignals h
    exact signalChargeStateAll_permitted.trans hs.permitted
  case timerExpiry =>
    obtain rfl := Option.some.inj h
    exact (timerExpiry_sameSignals s).permitted

-- `fullyCharged` has no influence on `insufficientCharge`.
theorem BatteryStatus.next_insufficientCharge {st : BatteryStatus} {full : Bool} {threshold : Nat}
    {d : BatteryData} :
    (BatteryStatus.next { st with fullyCharged := full } threshold d).insufficientCharge =
      (st.next threshold d).insufficientCharge := by
  have hc : BatteryStatus.Checked { st with fullyCharged := full } d ↔ st.Checked d := Iff.rfl
  simp only [BatteryStatus.next, hc]
  split_ifs <;> rfl

theorem setChargerStatus_status_of_ne (h : b' ≠ b) :
    ∃ full, (setChargerStatus b s).status b' = { s.status b' with fullyCharged := full } := by
  rw [setChargerStatus_eq]
  split
  case isTrue =>
    by_cases hr : b' = .rio
    case pos => exact ⟨false, by simp [hr, hr ▸ h]⟩
    case neg => exact ⟨(s.status b').fullyCharged, by simp [h, hr]⟩
  case isFalse => exact ⟨(s.status b').fullyCharged, by simp [h]⟩

-- Each battery of the loop gets its own `insufficientCharge`, whatever happens to the others.
theorem setStatuses_insufficientCharge {force : Bool} {bs : List Battery} (hd : bs.Nodup)
    (h : run (fun s (b : Battery) => b.setStatus force s) s bs = some s') :
    if b ∈ bs then
      (s'.status b).insufficientCharge = ((s.status b).next
        s.gInsufficientChargeThreshold.value.toNat (s.data b)).insufficientCharge
    else
      ∃ full, s'.status b = { s.status b with fullyCharged := full } := by
  induction bs generalizing s
  case nil => exact Option.some.inj h ▸ ⟨(s.status b).fullyCharged, rfl⟩
  case cons a bs hi =>
    have ⟨ha, hd⟩ := List.nodup_cons.mp hd
    have ⟨s₁, h₁, h⟩ := run_cons_iff.mp h
    have hs := setStatus_sameSignals h₁
    have hst := congrFun (Battery.setStatus_spec h₁).status b
    have hi := hi hd h
    by_cases hb : b = a
    case pos =>
      subst hb
      have ⟨full, hf⟩ := setChargerStatus_status_self (s := s) (b := b)
      rw [if_neg ha] at hi
      have ⟨full', hf'⟩ := hi
      rw [if_pos List.mem_cons_self, hf', hst, hf]
    case neg =>
      have ⟨full, hf⟩ := setChargerStatus_status_of_ne (s := s) hb
      by_cases hm : b ∈ bs
      case pos =>
        rw [if_pos hm, hst, hf, hs.threshold, hs.data, BatteryStatus.next_insufficientCharge] at hi
        rw [if_pos (List.mem_cons_of_mem a hm), hi]
      case neg =>
        rw [if_neg hm, hst, hf] at hi
        rw [if_neg (by simp [hb, hm])]
        exact hi

-- If the permission to charge is given, one of the flags remains set and no event is sent.
def State.Silent (s : State) : Prop :=
  s.gAllInsufficientCharge = true ∧ s.AllLow minimumChargeChargingPermitted.toNat ∨
    s.gAllFullyCharged = true ∧ s.NoneUsed ∧ (s.gAllInsufficientCharge = true ∨
      ∀ b, ((s.status b).next minimumChargeChargingPermitted.toNat
        (s.data b)).insufficientCharge = false)

theorem chargingPermitted_signals (h : step s (.chargingPermitted true) = some s') (hs : ¬s.Silent)
    (hf : s'.gAllInsufficientCharge = true ∨ s'.gAllFullyCharged = true) :
    ∃ e new, Signals s s' (e :: new) := by
  rw [step, if_pos (by rfl), doAction_chargingPermitted, if_neg (by simp)] at h
  obtain ⟨s₁, h₁, rfl⟩ := Option.map_eq_some_iff.mp h
  have hsame := setAllChargerStatus_sameSignals h₁
  have hst (b : Battery) : (s₁.status b).insufficientCharge =
      ((s.status b).next minimumChargeChargingPermitted.toNat (s.data b)).insufficientCharge := by
    rw [setAllChargerStatus_eq] at h₁
    have hi := setStatuses_insufficientCharge (b := b) (by decide) h₁
    rw [if_pos (by cases b <;> decide)] at hi
    exact hi
  have hc (b : Battery) : s₁.capacity b = s.capacity b := by
    rw [State.capacity, hsame.data]
    rfl
  have hg := signalChargeStateAll_spec s₁
  obtain ⟨new, hn⟩ : ∃ new, Signals s (signalChargeStateAll s₁) new :=
    hg.of_same hsame.insufficient hsame.full hsame.signals
  cases new
  case cons e new => exact ⟨e, new, hn⟩
  case nil =>
    -- Without an event, the flags have been set before.
    have hi h := (hn.insufficient h).resolve_right List.not_mem_nil
    have hfull h := (hn.full h).resolve_right List.not_mem_nil
    refine absurd ?_ hs
    cases hf
    case inl hf =>
      have hl := hg.stays (hsame.insufficient.trans (hi hf)) hf
      rw [hsame.threshold] at hl
      exact .inl ⟨hi hf, fun b => hc b ▸ hl b⟩
    case inr hf =>
      have hu := hg.staysFull (hsame.full.trans (hfull hf)) hf
      refine .inr ⟨hfull hf, fun b => hc b ▸ hu b, ?_⟩
      cases hb : s.gAllInsufficientCharge
      case true  => exact .inl rfl
      case false =>
        refine .inr fun b => ?_
        by_contra hn
        have hr : (signalChargeStateAll s₁).gAllInsufficientCharge = true :=
          (hg.rises (hsame.insufficient.trans hb)).mpr ⟨b, by rw [hst b]; simpa using hn⟩
        exact Bool.false_ne_true <| hb.symm.trans (hi hr)

end RoboOne.BatteryManager
