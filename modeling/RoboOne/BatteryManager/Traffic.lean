import RoboOne.BatteryManager.Overcharge

namespace RoboOne.BatteryManager

open Hardware Transition

-- What can be seen of the messages to the hardware server and their offset: a message is sent, and an
-- offset timer is started or expires.
inductive Moment
  | sent (m : HardwareMsgType)
  | started (expiryDeciSeconds : UInt32)
  | expired
deriving DecidableEq

def Event.moment? : Event → Option Moment
  | .hardwareServerSendReceive m => some (.sent m)
  | .sendStartTimer d _ _ _      => some (.started d)
  | _                            => none

-- The part of the server that spaces out the messages to the hardware.
@[ext]
structure Traffic where
  issued  : List HardwareMsgType -- the calls of `sendMsgOffset`
  moments : List Moment
  queue   : HardwareMsgQ
  running : Bool
  timers  : Nat

namespace Traffic

-- A message is issued. It is sent right away if the offset timer is not running.
def issue (t : Traffic) (m : HardwareMsgType) : Option Traffic :=
  if t.running then
    (t.queue.push m).map fun q => { t with issued := t.issued ++ [m], queue := q }
  else
    some { t with
      issued  := t.issued ++ [m]
      moments := t.moments ++ [.sent m, .started sendMsgOffsetDurationDeciseconds]
      running := true
      timers  := t.timers + 1 }

-- The offset timer expires.
def expire (t : Traffic) : Traffic :=
  match t.queue.msgs.getLast? with
  | none   => { t with running := false, timers := t.timers - 1 }
  | some m =>
    if t.queue.dropLast.msgs = [] then
      { t with
        moments := t.moments ++ [.sent m]
        queue   := t.queue.dropLast
        running := false
        timers  := t.timers - 1 }
    else
      { t with
        moments := t.moments ++ [.sent m, .started sendMsgOffsetDurationDeciseconds]
        queue   := t.queue.dropLast
        running := true
        timers  := t.timers - 1 + 1 }

-- The messages that have been sent, oldest first.
def sent (t : Traffic) : List HardwareMsgType :=
  t.moments.filterMap fun
    | .sent m => some m
    | _       => none

end Traffic

def State.traffic (s : State) : Traffic where
  issued  := s.trace.filterMap Event.issued?
  moments := s.trace.filterMap Event.moment?
  queue   := s.gHardwareMsgQ
  running := s.gTimerRunning
  timers  := s.timers

-- The command that `setRioChargerStatus` and its siblings issue, if any.
def Battery.command (b : Battery) (permitted previouslyOn on force : Bool) :
    Option HardwareMsgType :=
  if on then
    if permitted && (!previouslyOn || force) then some b.onMsg else none
  else
    if previouslyOn || force then some b.offMsg else none

-- The command that follows from the flags and the data of the battery.
def State.command (s : State) (permitted : Bool) (threshold : UInt16) (force : Bool) (b : Battery)
    (d : BatteryData) : Option HardwareMsgType :=
  b.command permitted (s.status b).chargerOn ((s.status b).next threshold.toNat d).chargerOn force

def batteries : List Battery :=
  [.rio, .o1, .o2, .o3]

-- The commands that a message calls for.
def commands (s : State) : Input → List HardwareMsgType
  | .data b d              =>
    (s.command s.gChargingPermitted s.gInsufficientChargeThreshold.value false b d).toList
  | .chargingPermitted ok  =>
    let threshold := if ok then minimumChargeChargingPermitted else minimumChargeChargingNotPermitted
    (if s.gChargingPermitted && !ok then batteries.map Battery.offMsg else []) ++
      batteries.filterMap fun b =>
        s.command ok threshold (!s.gChargingPermitted && ok) b (s.data b)
  | .timerExpiry           => []

variable {s s' : State} {m : HardwareMsgType} {ms : List HardwareMsgType} {b b' : Battery}
  {force : Bool} {i : Input}

theorem sendMsgOffset_traffic (m : HardwareMsgType) (s : State) :
    (sendMsgOffset m s).map State.traffic = s.traffic.issue m := by
  cases hr : s.gTimerRunning
  case false =>
    simp [sendMsgOffset, State.record, hr, State.traffic, Traffic.issue, sendStartTimer,
      hardwareServerSendReceive, Event.issued?, Event.moment?, List.filterMap_cons]
  case true =>
    simp [sendMsgOffset, State.record, hr, State.traffic, Traffic.issue, Event.issued?,
      Event.moment?, List.filterMap_cons, Function.comp_def]

theorem timerExpiry_traffic (s : State) :
    (actionBatteryManagerTimerExpiry (expire s .timerExpiry)).traffic = s.traffic.expire := by
  have hq₀ : s.traffic.queue = s.gHardwareMsgQ := rfl
  rw [actionBatteryManagerTimerExpiry, Traffic.expire, hq₀]
  cases hq : s.gHardwareMsgQ.msgs.getLast?
  case none   => simp [BatteryManager.expire, State.traffic, hq]
  case some m =>
    cases hq' : s.gHardwareMsgQ.dropLast.msgs.getLast?
    case none =>
      have hn : s.gHardwareMsgQ.dropLast.msgs = [] := List.getLast?_eq_none_iff.mp hq'
      simp [BatteryManager.expire, State.traffic, hardwareServerSendReceive, State.record, hq, hn,
        Event.issued?, Event.moment?, List.filterMap_cons]
    case some m' =>
      have hn : s.gHardwareMsgQ.dropLast.msgs ≠ [] := by
        intro hn
        rw [hn] at hq'
        cases hq'
      simp [BatteryManager.expire, State.traffic, hardwareServerSendReceive, sendStartTimer,
        State.record, hq, hq', hn, Event.issued?, Event.moment?, List.filterMap_cons]

-- A list of messages is issued, one after the other.
def Traffic.issueAll (ms : List HardwareMsgType) (t : Traffic) : Option Traffic :=
  run Traffic.issue t ms

theorem setChargerStatus_traffic (b : Battery) (s : State) :
    (setChargerStatus b s).traffic = s.traffic := by
  have ⟨_, h, _⟩ := setChargerStatus_eqUpToStatus b s
  rw [h]
  rfl

theorem setBatteryChargerStatus_traffic : (setBatteryChargerStatus b b.onMsg b.offMsg force s).map
    State.traffic = s.traffic.issueAll (s.command s.gChargingPermitted
      s.gInsufficientChargeThreshold.value force b (s.data b)).toList := by
  have hs (m : HardwareMsgType) : (sendMsgOffset m (setChargerStatus b s)).map State.traffic =
      s.traffic.issueAll [m] := by
    rw [sendMsgOffset_traffic, setChargerStatus_traffic, Traffic.issueAll, run_singleton]
  have hn : (some (setChargerStatus b s)).map State.traffic = s.traffic.issueAll [] := by
    rw [Option.map_some, setChargerStatus_traffic]
    rfl
  simp only [setBatteryChargerStatus, setChargerStatus_permitted, State.command, Battery.command,
    setChargerStatus_chargerOn_self]
  generalize ((s.status b).next _ _).chargerOn = on
  cases on <;> cases s.gChargingPermitted <;> cases (s.status b).chargerOn <;> cases force <;>
    first | exact hs _ | exact hn

theorem Battery.setStatus_traffic (b : Battery) (force : Bool) (s : State) :
    (b.setStatus force s).map State.traffic = s.traffic.issueAll (s.command s.gChargingPermitted
      s.gInsufficientChargeThreshold.value force b (s.data b)).toList := by
  cases b <;> exact setBatteryChargerStatus_traffic

theorem signalChargeStateAll_traffic (s : State) : (signalChargeStateAll s).traffic = s.traffic := by
  have h₁ : (signalInsufficientCharge s).traffic = s.traffic := by
    simp only [signalInsufficientCharge]
    split_ifs <;> simp [stateMachineServerSendReceive, State.record, State.traffic, Event.issued?,
      Event.moment?, List.filterMap_cons]
  have h₂ (s : State) : (signalFullyCharged s).traffic = s.traffic := by
    simp only [signalFullyCharged]
    split_ifs <;> simp [stateMachineServerSendReceive, State.record, State.traffic, Event.issued?,
      Event.moment?, List.filterMap_cons]
  exact (h₂ _).trans h₁

theorem issueAll_append {ms' : List HardwareMsgType} {t : Traffic} :
    t.issueAll (ms ++ ms') = (t.issueAll ms).bind (Traffic.issueAll ms') :=
  run_append

-- Data issue the commands that they call for.
theorem data_traffic {d : BatteryData} : (doAction (.data b d) s).map State.traffic =
    s.traffic.issueAll (commands s (.data b d)) := by
  rw [doAction, actionBatteryManagerData_eq, Option.map_map, Option.map_map]
  have hf : (State.traffic ∘ Prod.fst) ∘ (fun s => (signalChargeStateAll s, s.status b)) =
      State.traffic := funext fun s => signalChargeStateAll_traffic s
  rw [hf, Battery.setStatus_traffic, State.command, State.setData_status, State.setData_data_self]
  rfl

-- What decides about the commands for the given batteries is the same.
structure SameSettings (bs : List Battery) (s s' : State) : Prop where
  permitted : s'.gChargingPermitted = s.gChargingPermitted
  threshold : s'.gInsufficientChargeThreshold = s.gInsufficientChargeThreshold
  data      : s'.data = s.data
  status    : ∀ b ∈ bs, s'.status b = s.status b

theorem SameSettings.trans {bs : List Battery} {s₁ s₂ s₃ : State} (h₁ : SameSettings bs s₁ s₂)
    (h₂ : SameSettings bs s₂ s₃) : SameSettings bs s₁ s₃ where
  permitted   := h₂.permitted.trans h₁.permitted
  threshold   := h₂.threshold.trans h₁.threshold
  data        := h₂.data.trans h₁.data
  status b hb := (h₂.status b hb).trans (h₁.status b hb)

theorem SameSettings.command {bs : List Battery} {permitted : Bool} {t : UInt16}
    (h : SameSettings bs s s') (hb : b ∈ bs) :
    s'.command permitted t force b (s'.data b) = s.command permitted t force b (s.data b) := by
  rw [State.command, State.command, h.status b hb, h.data]

theorem sendMsgOffset_sameSettings {bs : List Battery} (h : sendMsgOffset m s = some s') :
    SameSettings bs s s' := by
  cases hr : s.gTimerRunning <;> simp only [sendMsgOffset, State.record, hr] at h
  case false =>
    obtain rfl := Option.some.inj h
    exact ⟨rfl, rfl, rfl, fun _ _ => rfl⟩
  case true =>
    obtain ⟨q, _, rfl⟩ := Option.map_eq_some_iff.mp h
    exact ⟨rfl, rfl, rfl, fun _ _ => rfl⟩

-- A battery has no influence on the others, apart from that of the Pi/RIO.
theorem setStatus_sameSettings {bs : List Battery} (hb : b ∉ bs) (hr : .rio ∉ bs)
    (h : b.setStatus force s = some s') : SameSettings bs s s' := by
  have hs : SameSettings bs s (setChargerStatus b s) := by
    have ⟨_, he, hd⟩ := setChargerStatus_eqUpToStatus b s
    refine ⟨by rw [he], by rw [he], funext hd, fun b' hb' => ?_⟩
    have hn : b' ≠ b := fun he => hb (he ▸ hb')
    have hn' : b' ≠ .rio := fun he => hr (he ▸ hb')
    rw [setChargerStatus_eq]
    split
    case isTrue  => simp [hn, hn']
    case isFalse => simp [hn]
  rcases Battery.setStatus_cases h with rfl | ⟨m, h⟩
  case inl => exact hs
  case inr => exact hs.trans (sendMsgOffset_sameSettings h)

theorem toList_append_filterMap {α β : Type*} {f : α → Option β} {a : α} {l : List α} :
    (f a).toList ++ l.filterMap f = (a :: l).filterMap f := by
  rw [List.filterMap_cons]
  cases f a <;> rfl

-- The batteries issue their commands one after the other, each as its flags were before.
theorem setStatuses_traffic {bs : List Battery} (hd : bs.Nodup) (hr : .rio ∉ bs.tail) :
    (run (fun s b => b.setStatus force s) s bs).map State.traffic = s.traffic.issueAll
      (bs.filterMap fun b => s.command s.gChargingPermitted s.gInsufficientChargeThreshold.value
        force b (s.data b)) := by
  induction bs generalizing s
  case nil => rfl
  case cons b bs hi =>
    have ⟨hb, hd⟩ := List.nodup_cons.mp hd
    have ht := b.setStatus_traffic force s
    rw [← toList_append_filterMap, issueAll_append, ← ht, run]
    cases hs : b.setStatus force s
    case none => rfl
    case some s₁ =>
      have h₁ : SameSettings bs s s₁ := setStatus_sameSettings hb hr hs
      have hr' : .rio ∉ bs.tail := fun hm => hr (List.mem_of_mem_tail hm)
      rw [Option.bind_some, hi hd hr', Option.map_some, Option.bind_some]
      refine congrArg (Traffic.issueAll · _) ?_
      rw [h₁.permitted, h₁.threshold]
      exact List.filterMap_congr fun b' hb' => h₁.command hb'

theorem setAllChargerStatus_eq : setAllChargerStatus force s =
    run (fun s (b : Battery) => b.setStatus force s) s batteries := by
  simp [setAllChargerStatus, batteries, run, Battery.setStatus]

theorem sendChargersOff_eq : sendChargersOff s =
    run (fun s m => sendMsgOffset m s) s (batteries.map Battery.offMsg) := by
  simp [sendChargersOff, batteries, run, Battery.offMsg]

theorem sendChargersOff_traffic : (sendChargersOff s).map State.traffic =
    s.traffic.issueAll (batteries.map Battery.offMsg) := by
  rw [sendChargersOff_eq]
  exact run_map fun s m => sendMsgOffset_traffic m s

theorem sendChargersOff_sameSettings {bs : List Battery} (h : sendChargersOff s = some s') :
    SameSettings bs s s' := by
  rw [sendChargersOff_eq] at h
  exact run_related (fun _ => ⟨rfl, rfl, rfl, fun _ _ => rfl⟩) .trans sendMsgOffset_sameSettings h

-- A change of the permission issues the commands that it calls for.
theorem chargingPermitted_traffic (ok : Bool) (s : State) :
    (doAction (.chargingPermitted ok) s).map State.traffic =
      s.traffic.issueAll (commands s (.chargingPermitted ok)) := by
  let s₀ := s.setThreshold ok
  let force := !s.gChargingPermitted && ok
  let decided := batteries.filterMap fun b =>
    s.command ok s₀.gInsufficientChargeThreshold.value force b (s.data b)
  -- The second part, in which the batteries issue their commands.
  have hall (s₁ : State) (h : SameSettings batteries s₀ s₁) :
      (setAllChargerStatus force { s₁ with gChargingPermitted := ok }).map
        (State.traffic ∘ signalChargeStateAll) = s₁.traffic.issueAll decided := by
    have hf : State.traffic ∘ signalChargeStateAll = State.traffic :=
      funext signalChargeStateAll_traffic
    rw [setAllChargerStatus_eq, hf, setStatuses_traffic (by decide) (by decide)]
    refine congrArg (Traffic.issueAll · _) ?_
    refine List.filterMap_congr fun b hb => ?_
    exact h.threshold ▸ h.command hb
  have hc : commands s (.chargingPermitted ok) =
      (if s.gChargingPermitted && !ok then batteries.map Battery.offMsg else []) ++ decided := by
    cases ok <;> rfl
  rw [hc, issueAll_append, doAction_chargingPermitted]
  cases hw : s.gChargingPermitted && !ok
  case false =>
    have h := hall s₀ ⟨rfl, rfl, rfl, fun _ _ => rfl⟩
    rw [show s₀.traffic = s.traffic from rfl] at h
    simpa [Traffic.issueAll] using h
  case true =>
    have ht := @sendChargersOff_traffic s₀
    simp only [↓reduceIte]
    rw [show s.traffic = s₀.traffic from rfl, ← ht]
    cases hs : sendChargersOff s₀
    case none    => rfl
    case some s₁ =>
      simpa using hall s₁ (sendChargersOff_sameSettings hs)

-- The messages of the server to the hardware take the way that `Traffic` describes.
theorem step_traffic (h : step s i = some s') :
    (i = .timerExpiry ∧ 0 < s.timers ∧ s'.traffic = s.traffic.expire) ∨
      (i ≠ .timerExpiry ∧ s.traffic.issueAll (commands s i) = some s'.traffic) := by
  rw [step_eq_some_iff] at h
  obtain ⟨ha, h⟩ := h
  cases i
  case data b d =>
    refine .inr ⟨by simp, ?_⟩
    rw [← data_traffic, show s = expire s (.data b d) from rfl, h]
    rfl
  case chargingPermitted ok =>
    refine .inr ⟨by simp, ?_⟩
    rw [← chargingPermitted_traffic, show s = expire s (.chargingPermitted ok) from rfl, h]
    rfl
  case timerExpiry =>
    obtain rfl := Option.some.inj h
    exact .inl ⟨rfl, by simpa [Arrives] using ha, timerExpiry_traffic s⟩

-- A step fails if and only if a command cannot be issued.
theorem step_isSome_iff (ha : Arrives s i) :
    (step s i).isSome ↔ (s.traffic.issueAll (commands s i)).isSome := by
  rw [step, if_pos ha]
  cases i
  case data b d             => rw [← data_traffic, Option.isSome_map]; rfl
  case chargingPermitted ok => rw [← chargingPermitted_traffic, Option.isSome_map]; rfl
  case timerExpiry          => exact iff_of_true rfl rfl

end RoboOne.BatteryManager
