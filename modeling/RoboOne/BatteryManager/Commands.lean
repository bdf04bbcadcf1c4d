import RoboOne.BatteryManager.Charger

namespace RoboOne.BatteryManager

open Hardware Transition

-- The command that switches the charger of a battery on, as `setRioChargerStatus` and its three
-- siblings send it.
def Battery.onMsg : Battery → HardwareMsgType
  | .rio => .setRioBatteryChargerOn
  | .o1  => .setO1BatteryChargerOn
  | .o2  => .setO2BatteryChargerOn
  | .o3  => .setO3BatteryChargerOn

def Battery.offMsg : Battery → HardwareMsgType
  | .rio => .setRioBatteryChargerOff
  | .o1  => .setO1BatteryChargerOff
  | .o2  => .setO2BatteryChargerOff
  | .o3  => .setO3BatteryChargerOff

-- `m` is a charger command for battery `b`.
def Commands (m : HardwareMsgType) (b : Battery) : Prop :=
  m = b.onMsg ∨ m = b.offMsg

instance (m : HardwareMsgType) (b : Battery) : Decidable (Commands m b) :=
  inferInstanceAs (Decidable (_ ∨ _))

theorem Commands.unique {m : HardwareMsgType} {b b' : Battery} (h : Commands m b)
    (h' : Commands m b') : b = b' := by
  cases b <;> cases b' <;>
    first | rfl | (rcases h with rfl | rfl <;> rcases h' with h | h <;> cases h)

theorem onMsg_commands (b : Battery) : Commands b.onMsg b :=
  .inl rfl

theorem offMsg_commands (b : Battery) : Commands b.offMsg b :=
  .inr rfl

theorem offMsg_ne_onMsg (b : Battery) : b.offMsg ≠ b.onMsg := by
  cases b <;> decide

namespace Event

def issued? : Event → Option HardwareMsgType
  | .sendMsgOffset m => some m
  | _                => none

def sent? : Event → Option HardwareMsgType
  | .hardwareServerSendReceive m => some m
  | _                            => none

end Event

namespace State

-- The charger commands for a battery that `sendMsgOffset` was called with, oldest first.
def issued (s : State) (b : Battery) : List HardwareMsgType :=
  s.trace.filterMap Event.issued? |>.filter (Commands · b)

-- The charger commands for a battery that were sent to the hardware server, oldest first.
def sent (s : State) (b : Battery) : List HardwareMsgType :=
  s.trace.filterMap Event.sent? |>.filter (Commands · b)

-- The charger commands for a battery that wait in the queue, in the order they were put there.
def queued (s : State) (b : Battery) : List HardwareMsgType :=
  s.gHardwareMsgQ.msgs.filter (Commands · b)

end State

variable {s s' : State} {m : HardwareMsgType} {b b' : Battery}

-- What `sendMsgOffset` does to the commands of a battery.
def appendCommand (m : HardwareMsgType) (b : Battery) (ms : List HardwareMsgType) :
    List HardwareMsgType :=
  ms ++ [m].filter (Commands · b)

-- Without a running timer a command is sent at once, otherwise it is queued.
inductive Offset (m : HardwareMsgType) (s s' : State) : Prop
  | sent (running : s.gTimerRunning = false) (running' : s'.gTimerRunning = true)
      (queue : s'.gHardwareMsgQ = s.gHardwareMsgQ)
      (sent : ∀ b, s'.sent b = appendCommand m b (s.sent b))
  | queued (running : s.gTimerRunning = true) (running' : s'.gTimerRunning = true)
      (queue : s'.gHardwareMsgQ.msgs = s.gHardwareMsgQ.msgs ++ [m])
      (sent : ∀ b, s'.sent b = s.sent b)

-- The specification of `sendMsgOffset`.
structure SentOffset (m : HardwareMsgType) (s s' : State) : Prop where
  permitted  : s'.gChargingPermitted = s.gChargingPermitted
  containers : s'.gBatteryDataContainer = s.gBatteryDataContainer
  issued     : ∀ b, s'.issued b = appendCommand m b (s.issued b)
  offset     : Offset m s s'

theorem sendMsgOffset_spec (h : sendMsgOffset m s = some s') : SentOffset m s s' := by
  simp only [sendMsgOffset, State.record] at h
  cases hr : s.gTimerRunning <;> simp only [hr] at h
  case false =>
    simp only [Bool.not_false, ↓reduceIte, Option.some.injEq] at h
    subst h
    refine ⟨rfl, rfl, ?_, .sent hr rfl rfl ?_⟩
    all_goals
      intro b
      simp [State.issued, State.sent, sendStartTimer, hardwareServerSendReceive, State.record,
        appendCommand, List.filterMap_append, List.filterMap_cons, Event.issued?, Event.sent?]
  case true =>
    simp only [Bool.not_true, Bool.false_eq_true, ↓reduceIte, Option.map_eq_some_iff] at h
    obtain ⟨q, hq, rfl⟩ := h
    have hq : q.msgs = s.gHardwareMsgQ.msgs ++ [m] := by
      simp only [HardwareMsgQ.push] at hq
      split at hq <;> cases hq
      rfl
    refine ⟨rfl, rfl, ?_, .queued hr rfl hq ?_⟩
    all_goals
      intro b
      simp [State.issued, State.sent, appendCommand, List.filterMap_append, List.filterMap_cons,
        Event.issued?, Event.sent?]

-- What `setChargerStatus` and a call to `sendMsgOffset` that may follow do. A charger that goes off does
-- not do so quietly.
inductive SetStatus (b : Battery) (s s' : State) : Prop
  | quiet (eq : s' = setChargerStatus b s)
      (kept : (s.status b).chargerOn → (s'.status b).chargerOn)
  | on (on : ((setChargerStatus b s).status b).chargerOn) (permitted : s.gChargingPermitted)
      (sent : SentOffset b.onMsg (setChargerStatus b s) s')
  | off (off : ((setChargerStatus b s).status b).chargerOn = false)
      (sent : SentOffset b.offMsg (setChargerStatus b s) s')

theorem setChargerStatus_permitted :
    (setChargerStatus b s).gChargingPermitted = s.gChargingPermitted := by
  have ⟨_, h, _⟩ := setChargerStatus_eqUpToStatus b s
  rw [h]

theorem setBatteryChargerStatus_spec {force : Bool}
    (h : setBatteryChargerStatus b b.onMsg b.offMsg force s = some s') : SetStatus b s s' := by
  simp only [setBatteryChargerStatus, setChargerStatus_permitted] at h
  cases hc : ((setChargerStatus b s).status b).chargerOn <;> simp only [hc] at h
  case false =>
    split at h
    case isTrue => contradiction
    case isFalse =>
      split at h
      case isTrue => exact .off hc (sendMsgOffset_spec h)
      case isFalse hf =>
        injection h with h
        exact .quiet h.symm fun ho => by simp [ho] at hf
  case true =>
    cases hp : s.gChargingPermitted <;> simp only [hp, ↓reduceIte, Bool.false_eq_true] at h
    case false =>
      injection h with h
      exact .quiet h.symm fun _ => h ▸ hc
    case true =>
      split at h
      case isTrue => exact .on hc hp (sendMsgOffset_spec h)
      case isFalse =>
        injection h with h
        exact .quiet h.symm fun _ => h ▸ hc

-- The family of `set*ChargerStatus` functions.
def Battery.setStatus : Battery → Bool → State → Option State
  | .rio => setRioChargerStatus
  | .o1  => setO1ChargerStatus
  | .o2  => setO2ChargerStatus
  | .o3  => setO3ChargerStatus

theorem Battery.setStatus_spec {force : Bool} (h : b.setStatus force s = some s') :
    SetStatus b s s' := by
  cases b <;> exact setBatteryChargerStatus_spec h

-- Behind `setChargerStatus` there is at most one call to `sendMsgOffset`.
theorem Battery.setStatus_cases {force : Bool} (h : b.setStatus force s = some s') :
    s' = setChargerStatus b s ∨ ∃ m, sendMsgOffset m (setChargerStatus b s) = some s' := by
  have h : setBatteryChargerStatus b b.onMsg b.offMsg force s = some s' := by
    cases b <;> exact h
  simp only [setBatteryChargerStatus] at h
  split_ifs at h
  all_goals
    first
      | exact .inr ⟨_, h⟩
      | exact .inl (Option.some.inj h).symm

-- The way of `actionBatteryManagerChargingPermitted` through its calls: `s₁` is the state behind the
-- withdrawal of the permission, if any, and `s₂` the state in which the charge is signalled.
structure SetPermitted (ok : Bool) (s s₁ s₂ s' : State) : Prop where
  withdrawn : s.gChargingPermitted → ok = false →
    ∃ t, sendChargersOff { s with gInsufficientChargeThreshold := t } = some s₁
  kept      : (s.gChargingPermitted → ok = true) →
    ∃ t, s₁ = { s with gInsufficientChargeThreshold := t }
  setAll    : setAllChargerStatus (!s.gChargingPermitted && ok)
    { s₁ with gChargingPermitted := ok } = some s₂
  eq        : s' = signalChargeStateAll s₂

theorem actionBatteryManagerChargingPermitted_spec {ok : Bool}
    (h : actionBatteryManagerChargingPermitted ok s = some s') :
    ∃ s₁ s₂, SetPermitted ok s s₁ s₂ s' := by
  simp only [actionBatteryManagerChargingPermitted, Option.bind_eq_bind, Option.pure_def,
    Option.bind_eq_some_iff, Option.some.injEq] at h
  obtain ⟨s₁, hw, s₂, hs, rfl⟩ := h
  refine ⟨s₁, s₂, fun hp hk => ?withdrawn, fun hk => ?kept, hs, rfl⟩
  case withdrawn =>
    rw [if_pos (by simp [hp, hk])] at hw
    exact ⟨_, hw⟩
  case kept =>
    have hk : (s.gChargingPermitted && !ok) = false := by
      cases hp : s.gChargingPermitted
      case false => rfl
      case true  => simp [hk hp]
    rw [if_neg (by simp [hk])] at hw
    injection hw with hw
    exact ⟨_, hw.symm⟩

theorem chargingPermitted_either : minimumChargeChargingPermitted = minimumChargeChargingPermitted ∨
    minimumChargeChargingPermitted = minimumChargeChargingNotPermitted :=
  .inl rfl

theorem chargingNotPermitted_either :
    minimumChargeChargingNotPermitted = minimumChargeChargingPermitted ∨
      minimumChargeChargingNotPermitted = minimumChargeChargingNotPermitted :=
  .inr rfl

-- The threshold that goes with the permission.
def State.setThreshold (s : State) (ok : Bool) : State :=
  { s with
    gInsufficientChargeThreshold :=
      if ok then
        ⟨minimumChargeChargingPermitted, chargingPermitted_either⟩
      else
        ⟨minimumChargeChargingNotPermitted, chargingNotPermitted_either⟩ }

theorem doAction_chargingPermitted {ok : Bool} : doAction (.chargingPermitted ok) s =
    (if s.gChargingPermitted && !ok then
      sendChargersOff (s.setThreshold ok)
    else
      some (s.setThreshold ok) : Option State).bind fun s₁ =>
        (setAllChargerStatus (!s.gChargingPermitted && ok) { s₁ with gChargingPermitted := ok }).map
          signalChargeStateAll := by
  simp only [Option.map_eq_bind, Function.comp_def]
  rfl

-- The specification of `actionBatteryManagerTimerExpiry`: the command that was queued last is sent.
structure Expired (s s' : State) : Prop where
  permitted  : s'.gChargingPermitted = s.gChargingPermitted
  containers : s'.gBatteryDataContainer = s.gBatteryDataContainer
  issued     : ∀ b, s'.issued b = s.issued b
  queue      : s'.gHardwareMsgQ.msgs = s.gHardwareMsgQ.msgs.dropLast
  sent       : ∀ b, s'.sent b = s.sent b ++ s.gHardwareMsgQ.msgs.getLast?.toList.filter (Commands · b)
  running    : s'.gTimerRunning = !s'.gHardwareMsgQ.msgs.isEmpty

theorem actionBatteryManagerTimerExpiry_spec (s : State) :
    Expired s (actionBatteryManagerTimerExpiry s) := by
  unfold actionBatteryManagerTimerExpiry
  dsimp only
  split
  case h_1 hq =>
    have hn := List.getLast?_eq_none_iff.mp hq
    exact ⟨rfl, rfl, fun _ => rfl, by simp [hn], fun b => by simp [hn, State.sent], by simp [hn]⟩
  case h_2 m hq =>
    have hs (l : List Event) : (s.trace ++ .hardwareServerSendReceive m :: l).filterMap Event.sent? =
        s.trace.filterMap Event.sent? ++ m :: l.filterMap Event.sent? := by
      simp [Event.sent?]
    split
    case h_1 hq' =>
      have hn : s.gHardwareMsgQ.dropLast.msgs = [] := List.getLast?_eq_none_iff.mp hq'
      refine ⟨rfl, rfl, fun b => ?_, rfl, fun b => ?_, by
        simp [hardwareServerSendReceive, State.record, hn]⟩
      all_goals
        simp [State.issued, State.sent, hardwareServerSendReceive, State.record, Event.issued?, hs, hq]
    case h_2 m' hq' =>
      refine ⟨rfl, rfl, fun b => ?_, rfl, fun b => ?_, ?_⟩
      case refine_3 =>
        simp only [Bool.true_eq, Bool.not_eq_eq_eq_not, Bool.not_true, List.isEmpty_eq_false_iff]
        intro hn
        exact absurd (hn ▸ hq') (by simp)
      all_goals
        simp [State.issued, State.sent, hardwareServerSendReceive, sendStartTimer, State.record,
          List.filterMap_cons, Event.issued?, Event.sent?, hs, hq]

theorem actionBatteryManagerData_eq {d : BatteryData} : actionBatteryManagerData b d s =
    (b.setStatus false (s.setData b d)).map fun s => (signalChargeStateAll s, s.status b) := by
  cases b <;> simp only [actionBatteryManagerData, batteryManagerData, Battery.setStatus,
    Option.bind_eq_bind, Option.map_eq_bind, Function.comp_def, Option.pure_def]

end RoboOne.BatteryManager
