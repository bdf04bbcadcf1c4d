import Mathlib.Algebra.Order.Group.Multiset
import RoboOne.BatteryManager.Traffic

namespace RoboOne.BatteryManager

open Hardware Transition

variable {s s' : State} {t t' : Traffic} {m : HardwareMsgType} {ms : List HardwareMsgType} {i : Input}

-- No message gets lost or is sent twice, there is one offset timer at most, and messages are queued
-- only while it is running.
structure Traffic.Conserved (t : Traffic) : Prop where
  messages : t.issued.Perm (t.sent ++ t.queue.msgs)
  timers   : t.timers = if t.running then 1 else 0
  idle     : t.queue.msgs ≠ [] → t.running = true

namespace Traffic

theorem push_msgs {q q' : HardwareMsgQ} (h : q.push m = some q') : q'.msgs = q.msgs ++ [m] := by
  simp only [HardwareMsgQ.push] at h
  split at h <;> cases h
  rfl

theorem issue_issued (h : t.issue m = some t') : t'.issued = t.issued ++ [m] := by
  simp only [issue] at h
  split at h
  case isTrue =>
    obtain ⟨q, _, rfl⟩ := Option.map_eq_some_iff.mp h
    rfl
  case isFalse =>
    obtain rfl := Option.some.inj h
    rfl

theorem issueAll_issued (h : t.issueAll ms = some t') : t'.issued = t.issued ++ ms := by
  induction ms generalizing t
  case nil =>
    obtain rfl := Option.some.inj h
    rw [List.append_nil]
  case cons m ms hi =>
    have ⟨t₁, h₁, h⟩ := run_cons_iff.mp h
    rw [hi h, issue_issued h₁, List.append_assoc, List.singleton_append]

theorem expire_issued (t : Traffic) : t.expire.issued = t.issued := by
  rw [expire]
  split
  case h_1 => rfl
  case h_2 => split <;> rfl

theorem expire_queue (t : Traffic) : t.expire.queue.msgs = t.queue.msgs.dropLast := by
  rw [expire]
  split
  case h_1 hq => rw [List.getLast?_eq_none_iff.mp hq]; rfl
  case h_2    => split <;> rfl

theorem Conserved.issue (hc : t.Conserved) (h : t.issue m = some t') : t'.Conserved := by
  have htimers := hc.timers
  simp only [Traffic.issue] at h
  split at h
  case isTrue hr =>
    obtain ⟨q, hq, rfl⟩ := Option.map_eq_some_iff.mp h
    refine ⟨?_, htimers, fun _ => hr⟩
    show (t.issued ++ [m]).Perm (t.sent ++ q.msgs)
    rw [push_msgs hq, ← List.append_assoc]
    exact hc.messages.append_right [m]
  case isFalse hr =>
    obtain rfl := Option.some.inj h
    have hq : t.queue.msgs = [] := by
      by_contra hn
      exact hr (hc.idle hn)
    have hm : t.issued.Perm t.sent := by simpa [hq] using hc.messages
    refine ⟨?_, by simp [htimers, hr], fun _ => rfl⟩
    simpa [sent, hq] using hm.append_right [m]

theorem Conserved.issueAll (hc : t.Conserved) (h : t.issueAll ms = some t') : t'.Conserved := by
  induction ms generalizing t
  case nil => exact Option.some.inj h ▸ hc
  case cons m ms hi =>
    have ⟨t₁, h₁, h⟩ := run_cons_iff.mp h
    exact hi (hc.issue h₁) h

theorem Conserved.expire (hc : t.Conserved) (ht : 0 < t.timers) : t.expire.Conserved := by
  have hr : t.running = true := by
    by_contra hr
    simp [hc.timers, hr] at ht
  have h₁ : t.timers = 1 := by rw [hc.timers, if_pos hr]
  rw [Traffic.expire]
  split
  case h_1 hq =>
    have hq := List.getLast?_eq_none_iff.mp hq
    exact ⟨hc.messages, by simp [h₁], fun hn => absurd hq hn⟩
  case h_2 m hq =>
    have hl : t.queue.msgs = t.queue.dropLast.msgs ++ [m] :=
      (List.dropLast_append_getLast? m hq).symm
    have hm : t.issued.Perm ((t.sent ++ [m]) ++ t.queue.dropLast.msgs) := by
      refine hc.messages.trans ?_
      rw [hl, List.append_assoc]
      exact List.perm_append_comm.append_left _
    split
    case isTrue hn  => exact ⟨by simpa [sent] using hm, by simp [h₁], fun h => absurd hn h⟩
    case isFalse hn => exact ⟨by simpa [sent] using hm, by simp [h₁], fun _ => rfl⟩

end Traffic

theorem conserved_preserved : Preserves step (fun _ _ => True) (fun s => s.traffic.Conserved) where
  step {s i s'} hc _ h := by
    rcases step_traffic h with ⟨_, ht, h⟩ | ⟨_, h⟩
    case inl => exact h ▸ hc.expire ht
    case inr => exact hc.issueAll h

theorem started_conserved (s : State) : (started s).traffic.Conserved :=
  ⟨.nil, rfl, fun h => absurd rfl h⟩

theorem step_issued (h : step s i = some s') :
    s'.traffic.issued = s.traffic.issued ++ commands s i := by
  rcases step_traffic h with ⟨rfl, _, h⟩ | ⟨_, h⟩
  case inl => rw [h, Traffic.expire_issued, commands, List.append_nil]
  case inr => rw [Traffic.issueAll_issued h]

-- The calls of `sendMsgOffset` are never taken back.
theorem run_issued_le {is : List Input} (h : run step s is = some s') :
    s.traffic.issued.length ≤ s'.traffic.issued.length := by
  have p : Preserves step (fun _ _ => True)
      (fun m => s.traffic.issued.length ≤ m.traffic.issued.length) :=
    ⟨fun hi _ h => by rw [step_issued h, List.length_append]; omega⟩
  exact p.run_all le_rfl h

-- While nothing is issued the queue gets shorter with each expiry, and only then.
theorem step_queue_of_quiet (h : step s i = some s')
    (hq : s'.traffic.issued.length = s.traffic.issued.length) :
    s'.gHardwareMsgQ.msgs.length = s.gHardwareMsgQ.msgs.length - [i].count .timerExpiry := by
  have hn := step_issued h
  rcases step_traffic h with ⟨rfl, _, h⟩ | ⟨hi, h⟩
  case inl =>
    have hl : s'.gHardwareMsgQ.msgs = s.gHardwareMsgQ.msgs.dropLast :=
      (congrArg (·.queue.msgs) h).trans (Traffic.expire_queue _)
    simp [hl]
  case inr =>
    have hc : commands s i = [] := by
      rw [hn, List.length_append] at hq
      exact List.length_eq_zero_iff.mp (by omega)
    rw [hc] at h
    have h : s.traffic = s'.traffic := Option.some.inj h
    have hl : s.gHardwareMsgQ = s'.gHardwareMsgQ := congrArg Traffic.queue h
    rw [hl, List.count_singleton, if_neg (by simpa using hi), Nat.sub_zero]

theorem run_queue_of_quiet {is : List Input} (h : run step s is = some s')
    (hq : s'.traffic.issued = s.traffic.issued) :
    s'.gHardwareMsgQ.msgs.length = s.gHardwareMsgQ.msgs.length - is.count .timerExpiry := by
  replace hq := congrArg List.length hq
  induction is generalizing s
  case nil =>
    obtain rfl := Option.some.inj h
    rfl
  case cons i is hi =>
    have ⟨m, hm, h⟩ := run_cons_iff.mp h
    have h₁ : s.traffic.issued.length ≤ m.traffic.issued.length :=
      run_issued_le (run_singleton.trans hm)
    have h₂ := run_issued_le h
    rw [hi h (by omega), step_queue_of_quiet hm (by omega)]
    simp only [List.count_cons, List.count_nil]
    omega

-- As long as there are messages in the queue, the offset timer expires.
theorem run_expiries (hc : s.traffic.Conserved) :
    ∃ s', run step s (List.replicate s.gHardwareMsgQ.msgs.length .timerExpiry) = some s' ∧
      s'.traffic.issued = s.traffic.issued := by
  generalize hn : s.gHardwareMsgQ.msgs.length = n
  induction n generalizing s
  case zero => exact ⟨s, rfl, rfl⟩
  case succ n hi =>
    have hq : s.gHardwareMsgQ.msgs ≠ [] := fun hq => by simp [hq] at hn
    have ht : s.timers = 1 := by
      have hr : s.gTimerRunning = true := hc.idle hq
      have ht : s.timers = if s.gTimerRunning then 1 else 0 := hc.timers
      rw [ht, if_pos hr]
    have h : step s .timerExpiry = some (actionBatteryManagerTimerExpiry (expire s .timerExpiry)) := by
      rw [step, if_pos (by simp [Arrives, ht])]
      rfl
    have hl : s.traffic.expire.queue.msgs = s.gHardwareMsgQ.msgs.dropLast := Traffic.expire_queue _
    obtain ⟨s', hs', hs⟩ := hi (conserved_preserved.step hc trivial h) (by
      rw [← Nat.add_sub_cancel n 1, ← hn, ← List.length_dropLast, ← hl]
      exact congrArg (·.queue.msgs.length) (timerExpiry_traffic s))
    refine ⟨s', run_cons_iff.mpr ⟨_, h, hs'⟩, hs.trans ?_⟩
    rw [timerExpiry_traffic, Traffic.expire_issued]

-- After every run the messages that were issued are those that were sent and those in the queue, the
-- flag tells if the one offset timer is running, and it is while there is a message in the queue. So
-- all messages in the queue are sent by as many expiries, if no new one is issued.
theorem commands_conserved {s₀ : State} {is : List Input} (h : run step (started s₀) is = some s) :
    (s.traffic.issued : Multiset HardwareMsgType) = s.traffic.sent + s.gHardwareMsgQ.msgs ∧
      s.timers ≤ 1 ∧ (s.gTimerRunning = true ↔ s.timers = 1) ∧
      (0 < s.gHardwareMsgQ.msgs.length → s.gTimerRunning = true) ∧
      (∃ s', run step s (List.replicate s.gHardwareMsgQ.msgs.length .timerExpiry) = some s' ∧
        s'.traffic.issued = s.traffic.issued) ∧
      ∀ js s', run step s js = some s' → s'.traffic.issued = s.traffic.issued →
        s.gHardwareMsgQ.msgs.length ≤ js.count .timerExpiry →
          s'.gHardwareMsgQ.msgs = [] ∧ s'.traffic.sent.Perm s.traffic.issued := by
  have hc := conserved_preserved.run_all (started_conserved s₀) h
  have ht : s.timers = if s.gTimerRunning then 1 else 0 := hc.timers
  refine ⟨?messages, ?one, ?running, ?idle, run_expiries hc, fun js s' hr hq hn => ?drained⟩
  case messages =>
    rw [Multiset.coe_add]
    exact Multiset.coe_eq_coe.mpr hc.messages
  case one     => rw [ht]; split <;> omega
  case running => rw [ht]; split <;> simp_all
  case idle    => exact fun hn => hc.idle (List.ne_nil_of_length_pos hn)
  case drained =>
    have hl : s'.gHardwareMsgQ.msgs = [] := by
      refine List.length_eq_zero_iff.mp ?_
      rw [run_queue_of_quiet hr hq]
      omega
    have hc' := conserved_preserved.run_all hc hr
    have hm : s'.traffic.issued.Perm (s'.traffic.sent ++ s'.gHardwareMsgQ.msgs) := hc'.messages
    rw [hl, List.append_nil, hq] at hm
    exact ⟨hl, hm.symm⟩

theorem commands_conserved_chargeAll : ∃ s, run step (started boot) chargeAll = some s ∧
    (s.traffic.issued : Multiset HardwareMsgType) = s.traffic.sent + s.gHardwareMsgQ.msgs ∧
      s.timers ≤ 1 ∧ (s.gTimerRunning = true ↔ s.timers = 1) ∧
      (0 < s.gHardwareMsgQ.msgs.length → s.gTimerRunning = true) := by
  have ⟨_, h, _⟩ : ∃ s ∈ run step (started boot) chargeAll, True := by decide
  have ⟨hm, h₁, hr, hi, _⟩ := commands_conserved h
  exact ⟨_, h, hm, h₁, hr, hi⟩

end RoboOne.BatteryManager
