import RoboOne.BatteryManager.Conservation

namespace RoboOne.BatteryManager

open Hardware Transition

variable {s : State} {t : Traffic} {m : HardwareMsgType} {ms : List HardwareMsgType} {i : Input}

namespace Traffic

theorem issue_of_running (hr : t.running = true) :
    t.issue m = (t.queue.push m).map fun q => { t with issued := t.issued ++ [m], queue := q } := by
  rw [issue, if_pos hr]

-- While the offset timer is running, all messages have to fit into the queue.
theorem issueAll_isSome_of_running (hr : t.running = true) :
    (t.issueAll ms).isSome ↔ t.queue.msgs.length + ms.length ≤ maxLenHardwareMsgQ := by
  induction ms generalizing t
  case nil => exact iff_of_true rfl t.queue.length_msgs
  case cons m ms hi =>
    have hrun : t.issueAll (m :: ms) = (t.issue m).bind (issueAll ms) := rfl
    rw [hrun, issue_of_running hr, HardwareMsgQ.push]
    split
    case isTrue hl =>
      rw [Option.map_some, Option.bind_some]
      refine (hi (t := ⟨_, _, ⟨t.queue.msgs ++ [m], _⟩, t.running, _⟩) hr).trans ?_
      simp only [List.length_append, List.length_cons, List.length_nil]
      omega
    case isFalse hl =>
      refine iff_of_false (by simp) ?_
      rw [List.length_cons]
      omega

-- If it is not running then the first message is sent.
theorem issueAll_isSome_of_idle (hc : t.Conserved) (hr : t.running = false)
    (hl : ms.length ≤ maxLenHardwareMsgQ) : (t.issueAll ms).isSome := by
  cases ms
  case nil => rfl
  case cons m ms =>
    have hq : t.queue.msgs = [] := by
      by_contra hn
      exact absurd (hr.symm.trans (hc.idle hn)) (by decide)
    have hrun : t.issueAll (m :: ms) = (t.issue m).bind (issueAll ms) := rfl
    rw [hrun, issue, if_neg (by simp [hr]), Option.bind_some, issueAll_isSome_of_running rfl, hq,
      List.length_nil]
    rw [List.length_cons] at hl
    omega

end Traffic

-- A message calls for two commands for each battery at most.
theorem length_commands_le (s : State) (i : Input) : (commands s i).length ≤ 8 := by
  cases i
  case data b d     => exact (Option.length_toList_le).trans (by decide)
  case timerExpiry  => exact Nat.zero_le 8
  case chargingPermitted ok =>
    rw [commands, List.length_append]
    have hf : batteries.length = 4 := rfl
    refine (Nat.add_le_add (b := 4) ?_ (List.length_filterMap_le _ _)).trans (by rw [hf])
    split <;> decide

-- The message is handled, and the queue does not get longer than it may be.
def Handled (s : State) (i : Input) : Prop :=
  Arrives s i → ∃ s', step s i = some s' ∧ s'.gHardwareMsgQ.msgs.length ≤ maxLenHardwareMsgQ

-- If the offset timer is running, there is room in the queue for all commands that the message calls
-- for.
def Room (s : State) (i : Input) : Prop :=
  s.gTimerRunning = true →
    s.gHardwareMsgQ.msgs.length + (commands s i).length ≤ maxLenHardwareMsgQ

theorem handled_iff (hc : s.traffic.Conserved) : Handled s i ↔ Room s i := by
  have hh : Handled s i ↔ (Arrives s i → (step s i).isSome) := by
    refine imp_congr_right fun _ => ?_
    rw [Option.isSome_iff_exists]
    exact exists_congr fun s' => and_iff_left s'.gHardwareMsgQ.length_msgs
  rw [hh]
  cases hr : s.gTimerRunning
  case false =>
    refine iff_of_true (fun ha => ?_) fun h => by simp [hr] at h
    rw [step_isSome_iff ha]
    exact Traffic.issueAll_isSome_of_idle hc hr ((length_commands_le s i).trans (by decide))
  case true =>
    have hi : (s.traffic.issueAll (commands s i)).isSome ↔ Room s i :=
      (Traffic.issueAll_isSome_of_running hr).trans (imp_iff_right hr).symm
    by_cases ha : Arrives s i = true
    case pos => rw [imp_iff_right ha, step_isSome_iff ha, hi]
    case neg =>
      -- Only an expiry can be missing, which calls for no command.
      refine iff_of_true (fun h => absurd h ha) fun _ => ?_
      cases i
      case timerExpiry => exact s.gHardwareMsgQ.length_msgs
      all_goals exact absurd rfl ha

-- No ASSERT of `sendMsgOffset` fails in a run, if and only if there is always room in the queue for the
-- commands that a message calls for.
theorem queue_bounded_iff (s₀ : State) (is : List Input) :
    Along step Handled (started s₀) is ↔ Along step Room (started s₀) is :=
  conserved_preserved.along_congr (started_conserved s₀) fun _ _ hc => handled_iff hc

-- The permission is given and withdrawn, while the offset timer does not expire.
def toggles : List Input :=
  [.chargingPermitted true, .chargingPermitted false, .chargingPermitted true,
    .chargingPermitted false, .chargingPermitted true]

theorem queue_not_bounded : ¬∀ (s₀ : State) (is : List Input) (s : State) (i : Input),
    run step (started s₀) is = some s → Handled s i := by
  intro h
  have ⟨s, hr, hn⟩ : ∃ s ∈ run step (started boot) toggles,
      (step s (.chargingPermitted false)).isSome = false := by decide +kernel
  have ⟨s', hs', _⟩ := h boot toggles s (.chargingPermitted false) hr rfl
  simp [hs'] at hn

end RoboOne.BatteryManager
