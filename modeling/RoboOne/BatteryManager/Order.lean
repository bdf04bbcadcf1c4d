import RoboOne.BatteryManager.Steps

namespace RoboOne.BatteryManager

open Hardware Transition

variable {s s' : State} {m : HardwareMsgType} {b : Battery} {i : Input}

-- The commands of a battery are sent in the order in which they were issued: the sent ones followed
-- by the queued ones are the issued ones. Commands are queued only while the offset timer is running.
structure InOrder (s : State) : Prop where
  order : ∀ b, s.issued b = s.sent b ++ s.queued b
  idle  : s.gTimerRunning = false → s.gHardwareMsgQ.msgs = []

theorem SameCommands.inOrder (h : SameCommands s s') (ho : InOrder s) : InOrder s' where
  order b := by rw [h.issued, h.sent, ho.order, State.queued, State.queued, h.queue]
  idle hr := by rw [h.queue]; exact ho.idle (h.running ▸ hr)

theorem SentOffset.inOrder (h : SentOffset m s s') (ho : InOrder s) : InOrder s' := by
  cases h.offset
  case sent hr hr' hq hs =>
    refine ⟨fun b => ?_, fun hn => absurd (hr' ▸ hn) (by decide)⟩
    have he : s.queued b = [] := by rw [State.queued, ho.idle hr]; rfl
    have he' : s'.queued b = [] := by rw [State.queued, hq]; exact he
    rw [h.issued, hs, ho.order, he, he', List.append_nil, List.append_nil]
  case queued hr hr' hq hs =>
    refine ⟨fun b => ?_, fun hn => absurd (hr' ▸ hn) (by decide)⟩
    rw [h.issued, hs, ho.order, State.queued, State.queued, hq, appendCommand, List.filter_append,
      List.append_assoc]

theorem sendMsgOffset_inOrder : Takes InOrder InOrder (sendMsgOffset m) :=
  fun _ _ ho h => (sendMsgOffset_spec h).inOrder ho

theorem SetStatus.inOrder (h : SetStatus b s s') (ho : InOrder s) : InOrder s' := by
  have hs := (setChargerStatus_eqUpToStatus b s).sameCommands.inOrder ho
  cases h
  case quiet h _  => exact h ▸ hs
  case on _ _ h   => exact h.inOrder hs
  case off _ h    => exact h.inOrder hs

theorem sendChargersOff_inOrder : Takes InOrder InOrder sendChargersOff :=
  sendMsgOffset_inOrder.bind <| sendMsgOffset_inOrder.bind <| sendMsgOffset_inOrder.bind <|
    sendMsgOffset_inOrder

-- The offset timer sends what was queued last. This is the turn of that command only if the commands
-- which were queued before it for the same battery are the same command.
def InTurn (s : State) : Input → Prop
  | .timerExpiry =>
    ∀ m ∈ s.gHardwareMsgQ.msgs.getLast?, ∀ m' ∈ s.gHardwareMsgQ.msgs, ∀ b,
      Commands m b → Commands m' b → m' = m
  | _            => True

instance (s : State) : (i : Input) → Decidable (InTurn s i)
  | .timerExpiry         => inferInstanceAs (Decidable (∀ m ∈ _, ∀ m' ∈ _, ∀ _, _ → _ → _))
  | .data ..             => inferInstanceAs (Decidable True)
  | .chargingPermitted _ => inferInstanceAs (Decidable True)

-- A last element can be taken from the end as well as from the front, if all elements are the same.
theorem cons_dropLast_of_forall_eq {α : Type*} {a : α} {l : List α} (h : l.getLast? = some a)
    (he : ∀ x ∈ l, x = a) : a :: l.dropLast = l := by
  have hr := List.eq_replicate_of_mem he
  have hl : l.length ≠ 0 := by
    cases l
    case nil => simp at h
    case cons => simp
  obtain ⟨n, hn⟩ := Nat.exists_eq_succ_of_ne_zero hl
  rw [hn] at hr
  rw [hr]
  simp [List.replicate_succ]

-- The last of the commands for a battery can be sent first, if all of them are the same.
theorem filter_dropLast_in_turn {l : List HardwareMsgType}
    (h : ∀ m ∈ l.getLast?, ∀ m' ∈ l, Commands m b → Commands m' b → m' = m) :
    l.getLast?.toList.filter (Commands · b) ++ l.dropLast.filter (Commands · b) =
      l.filter (Commands · b) := by
  rcases List.eq_nil_or_concat l with rfl | ⟨l, m, rfl⟩
  case inl => rfl
  case inr =>
    by_cases hm : Commands m b
    case neg => simp [hm]
    case pos =>
      have ha : ∀ x ∈ (l ++ [m]).filter (Commands · b), x = m := by
        intro x hx
        obtain ⟨hx, hc⟩ := List.mem_filter.mp hx
        exact h m (by simp) x (by simpa using hx) hm (by simpa using hc)
      have hl : ((l ++ [m]).filter (Commands · b)).getLast? = some m := by simp [hm]
      simpa [hm] using cons_dropLast_of_forall_eq hl ha

theorem Expired.inOrder (h : Expired s s') (ho : InOrder s) (hi : InTurn s .timerExpiry) :
    InOrder s' where
  order b := by
    rw [h.issued, h.sent, ho.order, State.queued, State.queued, h.queue, List.append_assoc]
    congr 1
    exact (filter_dropLast_in_turn fun m hm m' hm' => hi m hm m' hm' b).symm
  idle hr := by
    simpa [h.running] using hr

-- Every step that takes the commands in turn keeps them in order.
theorem inOrder_kept : Kept InTurn InOrder where
  same h ho         := h.toSameCommands.inOrder ho
  setStatus h ho    := h.inOrder ho
  permitted _ ho    := ⟨ho.order, ho.idle⟩
  withdrawn         := sendChargersOff_inOrder.mono (fun _ => id) fun _ h => ⟨h.order, h.idle⟩
  expired h hi ho   := h.inOrder ho hi

theorem started_inOrder (s : State) : InOrder (started s) where
  order _ := rfl
  idle _  := rfl

-- In every run in which the offset timer takes the commands in turn, the commands for a battery are
-- sent in the order in which they were issued.
theorem charger_commands_sent_in_order {s₀ : State} {is : List Input}
    (h : run step (started s₀) is = some s) (hi : Along step InTurn (started s₀) is) (b : Battery) :
    s.sent b <+: s.issued b ∧
      (s.gHardwareMsgQ.msgs = [] → (s.sent b).getLast? = (s.issued b).getLast?) := by
  have ho := (inOrder_kept.step.run (started_inOrder s₀) hi h).order b
  constructor
  case left  => exact ⟨_, ho.symm⟩
  case right =>
    intro hq
    rw [ho, State.queued, hq, List.filter_nil, List.append_nil]

-- Charging is permitted while all batteries are empty.
def chargeAll : List Input :=
  [.chargingPermitted true, .timerExpiry, .timerExpiry, .timerExpiry]

theorem charger_commands_sent_in_order_chargeAll :
    ∃ s, run step (started boot) chargeAll = some s ∧ s.sent .o3 = [.setO3BatteryChargerOn] ∧
      s.sent .o3 <+: s.issued .o3 ∧
      (s.gHardwareMsgQ.msgs = [] → (s.sent .o3).getLast? = (s.issued .o3).getLast?) := by
  have ⟨s, h, ho⟩ : ∃ s ∈ run step (started boot) chargeAll,
      s.sent .o3 = [.setO3BatteryChargerOn] := by decide
  exact ⟨s, h, ho, charger_commands_sent_in_order h (by decide) .o3⟩

-- A battery overheats while its switch-on command is still queued.
def overheat : List Input :=
  [.chargingPermitted true, .data .o1 ⟨0, 0, 0, ⟨0, 0⟩, 70⟩, .timerExpiry, .timerExpiry, .timerExpiry,
    .timerExpiry]

theorem charger_commands_not_sent_in_order :
    ¬∀ (s₀ : State) (is : List Input) (s : State), run step (started s₀) is = some s → ∀ b,
      s.sent b <+: s.issued b ∧
        (s.gHardwareMsgQ.msgs = [] → (s.sent b).getLast? = (s.issued b).getLast?) := by
  intro h
  have ⟨s, hr, hq, hn⟩ : ∃ s ∈ run step (started boot) overheat, s.gHardwareMsgQ.msgs = [] ∧
      (s.sent .o1).getLast? ≠ (s.issued .o1).getLast? := by decide
  exact hn <| h boot overheat s hr .o1 |>.right hq

end RoboOne.BatteryManager
