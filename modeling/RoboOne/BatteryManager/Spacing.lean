import RoboOne.BatteryManager.Capacity

namespace RoboOne.BatteryManager

open Hardware Transition

variable {s s' : State} {t t' : Traffic} {m : HardwareMsgType} {ms : List HardwareMsgType}
  {i : Input}

-- The moments that the input of a step adds, in the order in which they come: an expiry is processed
-- before the messages that it causes.
def momentsOf (s : State) (i : Input) (s' : State) : List Moment :=
  (if i = .timerExpiry then [.expired] else []) ++
    s'.traffic.moments.drop s.traffic.moments.length

-- The moments of a run.
def timeline : State → List Input → List Moment
  | _, []      => []
  | s, i :: is =>
    match step s i with
    | none    => []
    | some s' => momentsOf s i s' ++ timeline s' is

-- What may come next: a message, the start of its offset timer, or the expiry of the timer.
inductive Phase
  | free
  | sent
  | waiting
deriving DecidableEq

def Phase.next : Phase → Moment → Option Phase
  | free,    .sent _    => some sent
  | sent,    .started d => if d = sendMsgOffsetDurationDeciseconds then some waiting else none
  | waiting, .expired   => some free
  | _,       _          => none

@[simp]
theorem Phase.next_free : Phase.next .free (.sent m) = some .sent :=
  rfl

@[simp]
theorem Phase.next_sent :
    Phase.next .sent (.started sendMsgOffsetDurationDeciseconds) = some .waiting :=
  rfl

@[simp]
theorem Phase.next_sent_sent : Phase.next .sent (.sent m) = none :=
  rfl

@[simp]
theorem Phase.next_waiting : Phase.next .waiting .expired = some .free :=
  rfl

-- Every message is followed by the start of an offset timer, and the timer expires before the next
-- message.
def Spaced (ms : List Moment) : Prop :=
  ∃ p, run Phase.next .free ms = some p ∧ p ≠ .sent

-- The phase of the server between two inputs.
def State.phase (s : State) : Phase :=
  if s.gTimerRunning then .waiting else .free

theorem phase_ne_sent : s.phase ≠ .sent := by
  rw [State.phase]
  split <;> decide

namespace Traffic

-- If messages are issued then the first one is sent, unless the offset timer is running.
theorem issueAll_moments (h : t.issueAll ms = some t') :
    t'.moments = t.moments ++ (if t.running then [] else
      ms.head?.toList.flatMap fun m => [.sent m, .started sendMsgOffsetDurationDeciseconds]) ∧
    t'.running = (t.running || !ms.isEmpty) := by
  have hrunning {t t' : Traffic} {ms : List HardwareMsgType} (hr : t.running = true)
      (h : t.issueAll ms = some t') : t'.moments = t.moments ∧ t'.running = true := by
    induction ms generalizing t
    case nil => exact Option.some.inj h ▸ ⟨rfl, hr⟩
    case cons m ms hi =>
      have ⟨t₁, h₁, h⟩ := run_cons_iff.mp h
      rw [issue_of_running hr] at h₁
      obtain ⟨q, _, rfl⟩ := Option.map_eq_some_iff.mp h₁
      exact hi (t := ⟨_, _, q, _, _⟩) hr h
  cases hr : t.running
  case true => simpa using hrunning hr h
  case false =>
    cases ms
    case nil => exact Option.some.inj h ▸ by simp [hr]
    case cons m ms =>
      have ⟨t₁, h₁, h⟩ := run_cons_iff.mp h
      rw [issue, if_neg (by simp [hr])] at h₁
      obtain rfl := Option.some.inj h₁
      simpa using hrunning rfl h

theorem expire_moments_of_length_ne (hl : t.queue.msgs.length ≠ 1) :
    t.expire.moments = t.moments ++ t.queue.msgs.getLast?.toList.flatMap
      (fun m => [.sent m, .started sendMsgOffsetDurationDeciseconds]) ∧
    t.expire.running = !t.queue.msgs.isEmpty := by
  rw [expire]
  split
  case h_1 hq => simp [List.getLast?_eq_none_iff.mp hq]
  case h_2 m hq =>
    have hq' : t.queue.msgs ≠ [] := fun hn => by simp [hn] at hq
    have hn : t.queue.dropLast.msgs ≠ [] := by
      intro hn
      have h := congrArg List.length hn
      have hp := List.length_pos_of_ne_nil hq'
      rw [HardwareMsgQ.dropLast, List.length_dropLast, List.length_nil] at h
      omega
    simp [hn, hq, hq']

-- No offset timer is started for the last message of the queue.
theorem expire_moments_of_length_eq (hl : t.queue.msgs.length = 1) :
    ∃ m, t.expire.moments = t.moments ++ [.sent m] ∧ t.expire.running = false ∧
      t.expire.timers = t.timers - 1 := by
  have ⟨m, hm⟩ := List.length_eq_one_iff.mp hl
  refine ⟨m, ?_⟩
  simp [expire, hm, HardwareMsgQ.dropLast]

end Traffic

-- An expiry does not find exactly one message in the queue.
def Refills (s : State) (i : Input) : Prop :=
  i = .timerExpiry → s.gHardwareMsgQ.msgs.length ≠ 1

instance (s : State) (i : Input) : Decidable (Refills s i) :=
  inferInstanceAs (Decidable (_ → _))

theorem run_next_send (m : HardwareMsgType) :
    run Phase.next .free [.sent m, .started sendMsgOffsetDurationDeciseconds] = some .waiting := by
  simp [run]

-- A step that leaves a message in the queue, or finds none in it, is in order.
theorem phase_of_refills (hc : s.traffic.Conserved) (h : step s i = some s') (hi : Refills s i) :
    run Phase.next s.phase (momentsOf s i s') = some s'.phase := by
  rcases step_traffic h with ⟨rfl, ht, h⟩ | ⟨hn, h⟩
  case inl =>
    have hr : s.gTimerRunning = true := by
      by_contra hr
      have hc : s.timers = if s.gTimerRunning then 1 else 0 := hc.timers
      simp [hc, hr] at ht
    obtain ⟨hm, hr'⟩ := Traffic.expire_moments_of_length_ne (t := s.traffic) (hi rfl)
    have hs' : s'.gTimerRunning = !s.gHardwareMsgQ.msgs.isEmpty := (congrArg (·.running) h).trans hr'
    have hm : s'.traffic.moments = s.traffic.moments ++ s.gHardwareMsgQ.msgs.getLast?.toList.flatMap
        fun m => [.sent m, .started sendMsgOffsetDurationDeciseconds] :=
      (congrArg (·.moments) h).trans hm
    rw [momentsOf, if_pos rfl, hm, List.drop_left, State.phase, if_pos hr, State.phase, hs',
      List.singleton_append, run, Phase.next_waiting, Option.bind_some]
    cases hq : s.gHardwareMsgQ.msgs.getLast?
    case none => simp [List.getLast?_eq_none_iff.mp hq]
    case some m =>
      have hn : s.gHardwareMsgQ.msgs ≠ [] := fun hn => by simp [hn] at hq
      simpa [hn] using run_next_send m
  case inr =>
    obtain ⟨hm, hr⟩ := Traffic.issueAll_moments h
    have hr : s'.gTimerRunning = (s.gTimerRunning || !(commands s i).isEmpty) := hr
    have ht : s.traffic.running = s.gTimerRunning := rfl
    rw [momentsOf, if_neg hn, hm, List.drop_left, List.nil_append, State.phase, State.phase, hr, ht]
    cases s.gTimerRunning
    case true => rfl
    case false =>
      cases commands s i
      case nil       => rfl
      case cons m ms => exact run_next_send m

-- Behind the last message of the queue there is no offset timer.
theorem phase_of_not_refills (hc : s.traffic.Conserved) (h : step s i = some s')
    (hi : ¬Refills s i) : run Phase.next s.phase (momentsOf s i s') = some .sent ∧
      s'.gTimerRunning = false ∧ s'.timers = 0 := by
  simp only [Refills, ne_eq, not_forall, not_not] at hi
  obtain ⟨rfl, hl⟩ := hi
  rcases step_traffic h with ⟨_, ht, h⟩ | ⟨hn, _⟩
  case inr => exact absurd rfl hn
  case inl =>
    have hr : s.gTimerRunning = true :=
      hc.idle (List.ne_nil_of_length_pos (by rw [show s.traffic.queue = s.gHardwareMsgQ from rfl, hl]
                                             decide))
    have ht : s.timers = if s.gTimerRunning then 1 else 0 := hc.timers
    have ⟨m, hm, hr', ht'⟩ := Traffic.expire_moments_of_length_eq (t := s.traffic) hl
    have hm : s'.traffic.moments = _ := (congrArg (·.moments) h).trans hm
    refine ⟨?_, (congrArg (·.running) h).trans hr', (congrArg (·.timers) h).trans ?_⟩
    case refine_1 =>
      rw [momentsOf, if_pos rfl, hm, List.drop_left, State.phase, if_pos hr]
      rfl
    case refine_2 =>
      rw [ht', show s.traffic.timers = s.timers from rfl, ht, if_pos hr]

-- Without a running timer, the next message comes without an offset.
theorem sent_of_idle {is : List Input} {p : Phase} (hr : s.gTimerRunning = false)
    (ht : s.timers = 0) (h : run Phase.next .sent (timeline s is) = some p) : p = .sent := by
  induction is generalizing s
  case nil => exact (Option.some.inj h).symm
  case cons i is hi =>
    rw [timeline] at h
    cases hs : step s i
    case none =>
      rw [hs] at h
      exact (Option.some.inj h).symm
    case some s' =>
      rw [hs] at h
      rcases step_traffic hs with ⟨_, ht', _⟩ | ⟨hn, hi'⟩
      case inl => exact absurd ht (Nat.ne_of_gt ht')
      case inr =>
        have ⟨hm, _⟩ := Traffic.issueAll_moments hi'
        have hr' : s.traffic.running = false := hr
        simp only [momentsOf, if_neg hn, hm, hr', List.drop_left, List.nil_append] at h
        cases hc : commands s i
        case nil =>
          rw [hc] at hi' h
          have he : s.traffic = s'.traffic := Option.some.inj hi'
          have hr₁ : s'.gTimerRunning = false := (congrArg (·.running) he).symm.trans hr
          have ht₁ : s'.timers = 0 := (congrArg (·.timers) he).symm.trans ht
          exact hi hr₁ ht₁ h
        case cons m ms =>
          rw [hc] at h
          simp [run] at h

theorem spaced_from_iff {is : List Input} (hc : s.traffic.Conserved) :
    (∃ p, run Phase.next s.phase (timeline s is) = some p ∧ p ≠ .sent) ↔
      Along step Refills s is := by
  induction is generalizing s
  case nil => exact iff_of_true ⟨_, rfl, phase_ne_sent⟩ trivial
  case cons i is hi =>
    rw [timeline, Along]
    cases hs : step s i
    case none =>
      -- An expiry which does not arrive would find an empty queue.
      refine iff_of_true ⟨_, rfl, phase_ne_sent⟩ ⟨?_, fun _ hm => by cases hm⟩
      rintro rfl hl
      have hr : s.gTimerRunning = true := hc.idle (List.ne_nil_of_length_pos (by
        rw [show s.traffic.queue = s.gHardwareMsgQ from rfl, hl]; decide))
      have ht : s.timers = if s.gTimerRunning then 1 else 0 := hc.timers
      have ha : Arrives s .timerExpiry = true := by simp [Arrives, ht, hr]
      rw [step, if_pos ha] at hs
      cases hs
    case some s' =>
      have hc' := conserved_preserved.step hc trivial hs
      simp only [run_append, Option.mem_def, Option.some.injEq, forall_eq']
      by_cases hb : Refills s i
      case pos =>
        rw [phase_of_refills hc hs hb, Option.bind_some, hi hc', and_iff_right hb]
      case neg =>
        obtain ⟨hp, hr, ht⟩ := phase_of_not_refills hc hs hb
        rw [hp, Option.bind_some]
        refine iff_of_false ?_ fun h => hb h.left
        rintro ⟨p, h, hn⟩
        exact hn (sent_of_idle hr ht h)

-- The messages of a run are spaced out by the offset timer, if and only if no expiry finds exactly one
-- message in the queue.
theorem messages_spaced_iff (s₀ : State) (is : List Input) :
    Spaced (timeline (started s₀) is) ↔ Along step Refills (started s₀) is :=
  spaced_from_iff (started_conserved s₀)

-- The queue has just been emptied when the next command is issued.
def drained : List Input :=
  chargeAll ++ [.chargingPermitted false]

theorem messages_not_spaced : ¬∀ (s₀ : State) (is : List Input),
    Spaced (timeline (started s₀) is) := by
  intro h
  have ⟨p, hp, _⟩ := h boot drained
  have hn : run Phase.next .free (timeline (started boot) drained) = none := by decide +kernel
  cases hp.symm.trans hn

end RoboOne.BatteryManager
