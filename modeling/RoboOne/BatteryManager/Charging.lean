import RoboOne.BatteryManager.Order

namespace RoboOne.BatteryManager

open Hardware Transition

variable {s s' : State} {m : HardwareMsgType} {b b' : Battery} {i : Input}

-- The last command that was issued for a battery switches its charger on only with the permission to
-- charge, and while the server takes the charger to be on.
def Decided (s : State) : Prop :=
  ∀ b, (s.issued b).getLast? = some b.onMsg → s.gChargingPermitted ∧ (s.status b).chargerOn

-- The last command that was issued for a battery switches its charger off.
def OffIssued (b : Battery) (s : State) : Prop :=
  (s.issued b).getLast? = some b.offMsg

theorem SentOffset.getLast?_issued_of_commands (h : SentOffset m s s') (hc : Commands m b) :
    (s'.issued b).getLast? = some m := by
  simp [h.issued, appendCommand, hc]

theorem SentOffset.issued_of_not_commands (h : SentOffset m s s') (hc : ¬Commands m b) :
    s'.issued b = s.issued b := by
  simp [h.issued, appendCommand, hc]

theorem SentOffset.status (h : SentOffset m s s') : s'.status b = s.status b := by
  rw [State.status, State.status, h.containers]

theorem sendMsgOffset_offIssued (b' : Battery) {bs : List Battery} :
    Takes (fun s => ∀ b ∈ bs, OffIssued b s) (fun s => ∀ b ∈ bs ++ [b'], OffIssued b s)
      (sendMsgOffset b'.offMsg) := by
  intro s s' ho h b hb
  have h := sendMsgOffset_spec h
  by_cases he : b = b'
  case pos => exact he ▸ h.getLast?_issued_of_commands (offMsg_commands b')
  case neg =>
    have hc : ¬Commands b'.offMsg b := fun hc => he <| hc.unique (offMsg_commands b')
    rw [OffIssued, h.issued_of_not_commands hc]
    exact ho b (by simpa [he] using hb)

-- When the permission is withdrawn, the last command of each battery switches its charger off.
theorem sendChargersOff_offIssued :
    Takes (fun _ => True) (fun s => ∀ b, OffIssued b s) sendChargersOff := by
  have h : Takes (fun s => ∀ b ∈ [], OffIssued b s)
      (fun s => ∀ b ∈ [Battery.rio, .o1, .o2, .o3], OffIssued b s) sendChargersOff :=
    (sendMsgOffset_offIssued .rio).bind <| (sendMsgOffset_offIssued .o1).bind <|
      (sendMsgOffset_offIssued .o2).bind <| sendMsgOffset_offIssued .o3
  exact h.mono (by simp) fun s h b => h b (by cases b <;> simp)

theorem SetStatus.permitted (h : SetStatus b s s') :
    s'.gChargingPermitted = s.gChargingPermitted := by
  cases h
  case quiet h _ => rw [h, setChargerStatus_permitted]
  case on _ _ h  => rw [h.permitted, setChargerStatus_permitted]
  case off _ h   => rw [h.permitted, setChargerStatus_permitted]

theorem setChargerStatus_issued : (setChargerStatus b s).issued b' = s.issued b' :=
  (setChargerStatus_eqUpToStatus b s).sameCommands.issued b'

-- Nothing happens to the decision about another battery.
theorem SetStatus.of_ne (h : SetStatus b s s') (hn : b' ≠ b) :
    s'.issued b' = s.issued b' ∧ (s'.status b').chargerOn = (s.status b').chargerOn := by
  cases h
  case quiet h _ =>
    rw [h]
    exact ⟨setChargerStatus_issued, setChargerStatus_chargerOn_of_ne hn⟩
  case on _ _ h =>
    have hc : ¬Commands b.onMsg b' := fun hc => hn <| hc.unique (onMsg_commands b)
    rw [h.issued_of_not_commands hc, h.status]
    exact ⟨setChargerStatus_issued, setChargerStatus_chargerOn_of_ne hn⟩
  case off _ h =>
    have hc : ¬Commands b.offMsg b' := fun hc => hn <| hc.unique (offMsg_commands b)
    rw [h.issued_of_not_commands hc, h.status]
    exact ⟨setChargerStatus_issued, setChargerStatus_chargerOn_of_ne hn⟩

theorem SetStatus.decided (h : SetStatus b s s') (hd : Decided s) : Decided s' := by
  intro b' hl
  rw [h.permitted]
  by_cases hn : b' = b
  case neg =>
    have ⟨hi, hc⟩ := h.of_ne hn
    rw [hc]
    exact hd b' (hi ▸ hl)
  case pos =>
    subst hn
    cases h
    case quiet h hk =>
      rw [h, setChargerStatus_issued] at hl
      have ⟨hp, hc⟩ := hd b' hl
      exact ⟨hp, hk hc⟩
    case on hc hp h =>
      rw [h.status]
      exact ⟨hp, hc⟩
    case off hc h =>
      rw [h.getLast?_issued_of_commands (offMsg_commands b')] at hl
      injection hl with hl
      exact absurd hl (offMsg_ne_onMsg b')

theorem sendChargersOff_decided :
    Takes Decided (fun s => Decided { s with gChargingPermitted := false }) sendChargersOff := by
  intro s s' _ h b hl
  have hl := (sendChargersOff_offIssued.apply h trivial b).symm.trans hl
  injection hl with hl
  exact absurd hl (offMsg_ne_onMsg b)

theorem SameDecisions.decided (h : SameDecisions s s') (hd : Decided s) : Decided s' := by
  intro b hl
  rw [h.permitted, h.status]
  exact hd b (h.issued b ▸ hl)

theorem Expired.decided (h : Expired s s') (hd : Decided s) : Decided s' := by
  intro b hl
  rw [h.permitted, State.status, h.containers]
  exact hd b (h.issued b ▸ hl)

-- The decisions are right whatever arrives, and whenever.
theorem decided_kept : Kept (fun _ _ => True) Decided where
  same h hd      := h.decided hd
  setStatus h hd := h.decided hd
  permitted h hd := fun b hl => ⟨h (hd b hl).left, (hd b hl).right⟩
  withdrawn      := sendChargersOff_decided
  expired h _ hd := h.decided hd

theorem started_decided (s : State) : Decided (started s) :=
  fun _ hl => by cases hl

-- In every run in which the offset timer takes the commands in turn, a charger is not left on unless
-- charging is permitted and the server takes the charger to be on.
theorem charger_on_permitted {s₀ : State} {is : List Input} (h : run step (started s₀) is = some s)
    (hi : Along step InTurn (started s₀) is) (hq : s.gHardwareMsgQ.msgs = []) (b : Battery)
    (hl : (s.sent b).getLast? = some b.onMsg) :
    s.gChargingPermitted ∧ (s.status b).chargerOn := by
  have ho := (inOrder_kept.step.run (started_inOrder s₀) hi h).order b
  rw [State.queued, hq, List.filter_nil, List.append_nil] at ho
  exact decided_kept.step.run_all (started_decided s₀) h b (ho ▸ hl)

theorem charger_on_permitted_chargeAll :
    ∃ s, run step (started boot) chargeAll = some s ∧ s.gHardwareMsgQ.msgs = [] ∧
      (s.sent .o3).getLast? = some .setO3BatteryChargerOn ∧
      s.gChargingPermitted ∧ (s.status .o3).chargerOn := by
  have ⟨s, h, hq, hl⟩ : ∃ s ∈ run step (started boot) chargeAll, s.gHardwareMsgQ.msgs = [] ∧
      (s.sent .o3).getLast? = some .setO3BatteryChargerOn := by decide
  have hp := charger_on_permitted h (by decide) hq .o3 hl
  exact ⟨s, h, hq, hl, hp⟩

-- The battery that overheated is left charging.
theorem charger_on_not_decided :
    ¬∀ (s₀ : State) (is : List Input) (s : State), run step (started s₀) is = some s →
      s.gHardwareMsgQ.msgs = [] → ∀ b, (s.sent b).getLast? = some b.onMsg →
        s.gChargingPermitted ∧ (s.status b).chargerOn := by
  intro h
  have ⟨s, hr, hq, hl, hn⟩ : ∃ s ∈ run step (started boot) overheat, s.gHardwareMsgQ.msgs = [] ∧
      (s.sent .o1).getLast? = some (Battery.onMsg .o1) ∧ ¬(s.status .o1).chargerOn := by decide
  exact hn <| h boot overheat s hr hq .o1 hl |>.right

end RoboOne.BatteryManager
