import RoboOne.BatteryManager.Commands

namespace RoboOne.BatteryManager

open Hardware Transition

variable {s s' : State} {m : HardwareMsgType} {b b' : Battery} {i : Input}

-- The parts of the state that decide about the order of the charger commands.
structure SameCommands (s s' : State) : Prop where
  issued  : ∀ b, s'.issued b = s.issued b
  sent    : ∀ b, s'.sent b = s.sent b
  queue   : s'.gHardwareMsgQ = s.gHardwareMsgQ
  running : s'.gTimerRunning = s.gTimerRunning

theorem SameCommands.trans {s₁ s₂ s₃ : State} (h₁ : SameCommands s₁ s₂)
    (h₂ : SameCommands s₂ s₃) : SameCommands s₁ s₃ where
  issued b := (h₂.issued b).trans (h₁.issued b)
  sent b   := (h₂.sent b).trans (h₁.sent b)
  queue    := h₂.queue.trans h₁.queue
  running  := h₂.running.trans h₁.running

theorem State.EqUpToStatus.sameCommands : State.EqUpToStatus s s' → SameCommands s s'
  | ⟨_, h, _⟩ => by subst h; exact ⟨fun _ => rfl, fun _ => rfl, rfl, rfl⟩

-- The charge state of the robot is no business of the hardware server.
theorem signalChargeStateAll_sameCommands (s : State) :
    SameCommands s (signalChargeStateAll s) := by
  have h₁ : SameCommands s (signalInsufficientCharge s) := by
    simp only [signalInsufficientCharge]
    split_ifs <;> refine ⟨fun b => ?_, fun b => ?_, rfl, rfl⟩ <;>
      simp [stateMachineServerSendReceive, State.record, State.issued, State.sent,
        List.filterMap_append, List.filterMap_cons, Event.issued?, Event.sent?]
  have h₂ (s : State) : SameCommands s (signalFullyCharged s) := by
    simp only [signalFullyCharged]
    split_ifs <;> refine ⟨fun b => ?_, fun b => ?_, rfl, rfl⟩ <;>
      simp [stateMachineServerSendReceive, State.record, State.issued, State.sent,
        List.filterMap_append, List.filterMap_cons, Event.issued?, Event.sent?]
  exact h₁.trans (h₂ _)

-- In addition to the commands, the permission and the flags of the batteries are the same.
structure SameDecisions (s s' : State) : Prop extends SameCommands s s' where
  permitted : s'.gChargingPermitted = s.gChargingPermitted
  status    : s'.status = s.status

theorem signalChargeStateAll_sameDecisions (s : State) :
    SameDecisions s (signalChargeStateAll s) where
  toSameCommands := signalChargeStateAll_sameCommands s
  permitted      := by
    simp only [signalChargeStateAll, signalFullyCharged, signalInsufficientCharge,
      stateMachineServerSendReceive, State.record]
    split_ifs <;> rfl
  status         := by
    simp only [signalChargeStateAll, signalFullyCharged, signalInsufficientCharge,
      stateMachineServerSendReceive, State.record]
    split_ifs <;> rfl

theorem setData_sameDecisions {d : BatteryData} : SameDecisions s (s.setData b d) :=
  ⟨⟨fun _ => rfl, fun _ => rfl, rfl, rfl⟩, rfl, funext fun _ => State.setData_status⟩

theorem threshold_sameDecisions {t : InsufficientChargeThreshold} :
    SameDecisions s { s with gInsufficientChargeThreshold := t } :=
  ⟨⟨fun _ => rfl, fun _ => rfl, rfl, rfl⟩, rfl, rfl⟩

theorem expire_sameDecisions : SameDecisions s (expire s i) := by
  cases i <;> exact ⟨⟨fun _ => rfl, fun _ => rfl, rfl, rfl⟩, rfl, rfl⟩

-- What has to keep an invariant, for the steps of the server to keep it when the inputs satisfy `P`.
-- The permission is withdrawn behind the commands that switch the chargers off.
structure Kept (P : State → Input → Prop) (I : State → Prop) : Prop where
  same      : ∀ {s s'}, SameDecisions s s' → I s → I s'
  setStatus : ∀ {b s s'}, SetStatus b s s' → I s → I s'
  permitted : ∀ {s} {ok : Bool}, (s.gChargingPermitted → ok) → I s →
    I { s with gChargingPermitted := ok }
  withdrawn : Takes I (fun s => I { s with gChargingPermitted := false }) sendChargersOff
  expired   : ∀ {s s'}, Expired s s' → P s .timerExpiry → I s → I s'

namespace Kept

variable {P : State → Input → Prop} {I : State → Prop}

theorem battery_setStatus (k : Kept P I) {force : Bool} : Takes I I (b.setStatus force) :=
  fun _ _ hI h => k.setStatus (Battery.setStatus_spec h) hI

theorem setAllChargerStatus (k : Kept P I) {force : Bool} :
    Takes I I (setAllChargerStatus force) :=
  (k.battery_setStatus (b := .rio)).bind <| (k.battery_setStatus (b := .o1)).bind <|
    (k.battery_setStatus (b := .o2)).bind <| k.battery_setStatus (b := .o3)

theorem data (k : Kept P I) {d : BatteryData} : Takes I I (doAction (.data b d)) := by
  intro s s' hI h
  rw [doAction, actionBatteryManagerData_eq, Option.map_map] at h
  obtain ⟨m, hm, rfl⟩ := Option.map_eq_some_iff.mp h
  have hd : I (s.setData b d) := k.same setData_sameDecisions hI
  exact k.same (signalChargeStateAll_sameDecisions m) <| k.battery_setStatus.apply hm hd

theorem chargingPermitted (k : Kept P I) {ok : Bool} :
    Takes I I (doAction (.chargingPermitted ok)) := by
  intro s s' hI h
  have ⟨s₁, s₂, p⟩ := actionBatteryManagerChargingPermitted_spec h
  have h₁ : I { s₁ with gChargingPermitted := ok } := by
    by_cases hk : s.gChargingPermitted → ok = true
    case pos =>
      obtain ⟨_, h⟩ := p.kept hk
      subst h
      exact k.permitted hk <| k.same threshold_sameDecisions hI
    case neg =>
      simp only [Classical.not_imp, Bool.not_eq_true] at hk
      obtain ⟨_, h⟩ := p.withdrawn hk.left hk.right
      exact hk.right ▸ k.withdrawn.apply h (k.same threshold_sameDecisions hI)
  have h₂ : I s₂ := k.setAllChargerStatus.apply p.setAll h₁
  exact p.eq ▸ k.same (signalChargeStateAll_sameDecisions s₂) h₂

theorem step (k : Kept P I) : Preserves step P I where
  step {s i s'} hI hp h := by
    have ⟨_, h⟩ := step_eq_some_iff.mp h
    have he : I (expire s i) := k.same expire_sameDecisions hI
    cases i
    case data              => exact k.data.apply h he
    case chargingPermitted => exact k.chargingPermitted.apply h he
    case timerExpiry =>
      injection h with h
      have hx := actionBatteryManagerTimerExpiry_spec (expire s .timerExpiry)
      have hx : Expired s s' :=
        h ▸ ⟨hx.permitted, hx.containers, hx.issued, hx.queue, hx.sent, hx.running⟩
      exact k.expired hx hp hI

end Kept

end RoboOne.BatteryManager
