import RoboOne.BatteryManager.Signals
import RoboOne.StateMachine.Dispatch

namespace RoboOne.Robot

open Interaction StateMachine Transition

-- The state machine server, the Battery Manager, and the events that are on their way to the state
-- machine.
structure State where
  machine  : ServerWorld
  manager  : BatteryManager.State
  inFlight : List Event

def event : BatteryManager.StateMachineEvent → Event
  | .insufficientCharge => .insufficientCharge
  | .fullyCharged       => .fullyCharged

namespace State

-- The Battery Manager handles a message. The events that it sends are on their way then.
def manage (s : State) (i : BatteryManager.Input) : Option State :=
  (BatteryManager.step s.manager i).map fun manager =>
    { s with
      manager  := manager
      inFlight := s.inFlight ++ (manager.signals.drop s.manager.signals.length).map event }

-- A call of the state machine arrives where it is addressed to. The Battery Manager handles its message
-- before the state machine goes on, whatever the state machine hears about that.
def deliver (s : State) : (c : Call) × c.Answer → Option State
  | ⟨.batteryManagerServerSendReceive ok, _⟩ => s.manage (.chargingPermitted ok)
  | ⟨.stateMachineServerSendReceive e, true⟩ => some { s with inFlight := s.inFlight ++ [e] }
  | _                                        => some s

-- The state machine handles a message, with all the calls that it makes.
def handle (env : Environment Call.Answer) (s : State) (m : StateMachineMsg) : Option State :=
  (StateMachine.step env s.machine m).bind fun machine =>
    run deliver { s with machine := machine } (machine.history.drop s.machine.history.length)

end State

-- The events arrive in any order. Nobody but the state machine sends CHARGING_PERMITTED.
inductive Input
  | start                                                             -- of the state machine
  | handle (place : Nat)                                              -- an event that is in flight
  | send (e : Event)                                                  -- by any other server
  | data (b : BatteryManager.Battery) (d : BatteryManager.BatteryData) -- to the Battery Manager
  | timerExpiry                                                       -- to the Battery Manager

def step (env : Environment Call.Answer) (s : State) : Input → Option State
  | .start        => if s.machine.memory.isNone then s.handle env .serverStart else none
  | .handle place => s.inFlight[place]?.bind fun e =>
    { s with inFlight := s.inFlight.eraseIdx place }.handle env (.event e)
  | .send e       => some { s with inFlight := s.inFlight ++ [e] }
  | .data b d     => s.manage (.data b d)
  | .timerExpiry  => s.manage .timerExpiry

-- The Battery Manager has been started, and the state machine has not.
def boot (h : History Call.Answer) (m : BatteryManager.State) : State where
  machine  := ⟨none, h⟩
  manager  := BatteryManager.started m
  inFlight := []

-- The permission to charge that a call of the state machine gives or withdraws.
def permission? : (c : Call) × c.Answer → Option Bool
  | ⟨.batteryManagerServerSendReceive ok, _⟩ => some ok
  | _                                        => none

variable {s s' : State} {i : BatteryManager.Input} {c : (c : Call) × c.Answer}
  {calls : List ((c : Call) × c.Answer)} {ok : Option Bool}

-- What the calls of the state machine do, if they make the given statement about the permission.
structure Delivered (ok : Option Bool) (s s' : State) : Prop where
  machine  : s'.machine = s.machine
  inFlight : ∀ e ∈ s.inFlight, e ∈ s'.inFlight
  manager  : ok = none → s'.manager = s.manager
  managed  : ∀ b, ok = some b →
    BatteryManager.step s.manager (.chargingPermitted b) = some s'.manager
  events   : ∀ new, s'.manager.signals = s.manager.signals ++ new → ∀ e ∈ new, event e ∈ s'.inFlight

theorem manage_delivered {b : Bool} (h : s.manage (.chargingPermitted b) = some s') :
    Delivered (some b) s s' := by
  obtain ⟨m, hm, rfl⟩ := Option.map_eq_some_iff.mp h
  constructor
  case machine  => rfl
  case inFlight => exact fun e he => List.mem_append_left _ he
  case manager  => intro h; cases h
  case managed  => intro b' h; cases h; exact hm
  case events   =>
    intro new hn e he
    simp only [hn, List.drop_left]
    exact List.mem_append_right _ <| List.mem_map_of_mem he

theorem Delivered.of_same (hm : s'.machine = s.machine) (hb : s'.manager = s.manager)
    (hf : ∀ e ∈ s.inFlight, e ∈ s'.inFlight) : Delivered none s s' where
  machine           := hm
  inFlight          := hf
  manager _         := hb
  managed _ h       := by cases h
  events new hn e h := by
    have hn : s'.manager.signals ++ [] = s'.manager.signals ++ new := by
      rw [List.append_nil]
      exact hn.trans (by rw [hb])
    exact absurd (List.append_cancel_left hn ▸ h) List.not_mem_nil

theorem deliver_delivered (h : s.deliver c = some s') : Delivered (permission? c) s s' := by
  obtain ⟨c, a⟩ := c
  cases c
  case batteryManagerServerSendReceive => exact manage_delivered h
  case stateMachineServerSendReceive e =>
    cases a
    case false =>
      obtain rfl := Option.some.inj h
      exact .of_same rfl rfl fun _ he => he
    case true =>
      obtain rfl := Option.some.inj h
      exact .of_same rfl rfl fun _ he => List.mem_append_left _ he
  all_goals
    obtain rfl := Option.some.inj h
    exact .of_same rfl rfl fun _ he => he

theorem Delivered.none_trans {s₁ : State} (h₁ : Delivered none s s₁) (h₂ : Delivered ok s₁ s') :
    Delivered ok s s' where
  machine           := h₂.machine.trans h₁.machine
  inFlight e he     := h₂.inFlight e (h₁.inFlight e he)
  manager h         := (h₂.manager h).trans (h₁.manager rfl)
  managed b h       := h₁.manager rfl ▸ h₂.managed b h
  events new hn e h := h₂.events new (h₁.manager rfl ▸ hn) e h

theorem Delivered.trans_none {s₁ : State} (h₁ : Delivered ok s s₁) (h₂ : Delivered none s₁ s') :
    Delivered ok s s' where
  machine           := h₂.machine.trans h₁.machine
  inFlight e he     := h₂.inFlight e (h₁.inFlight e he)
  manager h         := (h₂.manager rfl).trans (h₁.manager h)
  managed b h       := h₂.manager rfl ▸ h₁.managed b h
  events new hn e h := h₂.inFlight _ <| h₁.events new (h₂.manager rfl ▸ hn) e h

-- Calls with one statement about the permission at most.
theorem run_delivered (h : run State.deliver s calls = some s')
    (hp : calls.filterMap permission? = ok.toList) : Delivered ok s s' := by
  induction calls generalizing s ok
  case nil =>
    obtain rfl := Option.some.inj h
    cases ok
    case none   => exact .of_same rfl rfl fun _ he => he
    case some b => cases hp
  case cons c calls hi =>
    have ⟨s₁, h₁, h⟩ := run_cons_iff.mp h
    have h₁ := deliver_delivered h₁
    cases hc : permission? c
    case none =>
      rw [List.filterMap_cons_none hc] at hp
      exact (hc ▸ h₁).none_trans (hi h hp)
    case some b =>
      rw [List.filterMap_cons_some hc] at hp
      cases ok
      case none    => cases hp
      case some b' =>
        obtain ⟨rfl, hp'⟩ := List.cons.inj hp
        have hp' : calls.filterMap permission? = (none : Option Bool).toList := hp'
        exact (hc ▸ h₁).trans_none (hi h hp')

-- The calls behind a history say the given about the permission.
def Said (h₀ : History Call.Answer) (ok : Option Bool) (w : ServerWorld) : Prop :=
  ∃ calls, w.history = h₀ ++ calls ∧ calls.filterMap permission? = ok.toList

variable {env : Environment Call.Answer} {h₀ : History Call.Answer} {C : Call → Prop}

-- The calls that say nothing about the permission.
def Quiet (c : Call) : Prop :=
  ∀ ok, c ≠ .batteryManagerServerSendReceive ok

theorem Said.record {c : Call} {a : c.Answer} {w : ServerWorld} (h : Said h₀ ok w) (hc : Quiet c) :
    Said h₀ ok (w.record c a) := by
  obtain ⟨calls, hw, hp⟩ := h
  have hn : permission? ⟨c, a⟩ = none := by
    cases c
    case batteryManagerServerSendReceive ok => exact absurd rfl (hc ok)
    all_goals rfl
  refine ⟨calls ++ [⟨c, a⟩], ?_, ?_⟩
  case refine_1 => rw [World.record, hw, List.append_assoc]
  case refine_2 => rw [List.filterMap_append, hp, List.filterMap_cons_none hn, List.filterMap_nil,
    List.append_nil]

theorem keeps_said {α : Type} {p : Program α} (hp : Makes C p) (hc : ∀ c, C c → Quiet c) :
    Keeps env (Said h₀ ok) p :=
  hp.keeps fun c h _ _ hw => hw.record (hc c h)

theorem ensures_said_permission (b : Bool) : Ensures env (Said h₀ none)
    (batteryManagerServerSendReceive b) fun _ => Said h₀ (some b) := by
  refine ensures_call fun w ⟨calls, hw, hp⟩ => ?_
  let a := env w.history (.batteryManagerServerSendReceive b)
  refine ⟨calls ++ [⟨.batteryManagerServerSendReceive b, a⟩], ?_, ?_⟩
  case refine_1 => rw [World.record, ← List.append_assoc, ← hw]
  case refine_2 =>
    rw [List.filterMap_append, hp]
    rfl

theorem quiet_of_switches {ms : List Hardware.HardwareMsgType} (c : Call) (hc : c.Switches ms) :
    Quiet c := by
  rintro ok rfl
  exact hc

theorem quiet_of_powersHindbrain (c : Call) (hc : c.PowersHindbrain) : Quiet c := by
  rintro ok rfl
  exact hc

theorem quiet_of_remains (c : Call) (hc : c.Remains) : Quiet c := by
  rintro ok rfl
  exact hc

theorem keeps_said_ask {c : Call} (hc : Quiet c) : Keeps env (Said h₀ ok) (ask c) :=
  keeps_said (makes_ask (C := (· = c)) rfl) fun _ h => h ▸ hc

theorem keeps_said_enter {pState : RoboOneState} : Keeps env (Said h₀ ok) (enter pState) :=
  .bind (ensures_store fun _ hw => hw) fun _ => keeps_said_ask fun _ => by simp

theorem ensures_said_transition (n : StateName) (pTaskReq : RoboOneTaskReq) :
    Ensures env (Said h₀ none) (n.transition pTaskReq) fun _ => Said h₀ (permissionOf n) := by
  have hsupply {onText offText : String} {on off : Hardware.HardwareMsgType} {ok : Option Bool} :
      Keeps env (Said h₀ ok) (switchSupply onText on offText off) :=
    keeps_said makes_switchSupply quiet_of_switches
  have h : EntryActions env (Said h₀) := by
    constructor
    case toBattery    => exact fun _ => ⟨hsupply, hsupply⟩
    case to12VMains   => exact fun _ => ⟨hsupply, hsupply⟩
    case switchRelays => exact fun _ _ _ _ => keeps_said makes_switchRelays quiet_of_switches
    case switchOn     =>
      exact fun _ => keeps_said makes_actionSwitchOnHindbrain quiet_of_powersHindbrain
    case switchOff    =>
      exact fun _ => keeps_said makes_actionSwitchOffHindbrain quiet_of_powersHindbrain
    case tasks        => exact fun _ _ => keeps_said makes_eventTasksAvailable quiet_of_remains
    case failure      => exact fun _ => keeps_said_ask fun _ => by simp
    case permits      => exact ensures_said_permission
  exact h.transition keeps_said_enter pTaskReq

theorem said_handles : Handles env (Said h₀ none) fun t => Said h₀ (t.bind permissionOf) where
  keeps c hc  := keeps_said_ask (quiet_of_remains c hc)
  remains _ h := h
  transition  := ensures_said_transition

theorem said_start : Ensures env (Said h₀ none) (doAction .serverStart) fun _ w =>
    (w.memory = none ∨ w.memory = some .init) ∧ Said h₀ none w := by
  have hinit : Ensures env (Said h₀ none) transitionToInit fun _ w =>
      (w.memory = none ∨ w.memory = some .init) ∧ Said h₀ none w :=
    (transition_spec .init ⟨[]⟩).and (ensures_said_transition .init ⟨[]⟩) |>.mono
      (fun _ hw => ⟨hw, hw⟩) fun _ _ hw => ⟨.inr hw.left, hw.right⟩
  rw [doAction, actionStateMachineServerStart]
  refine .bind ?_ fun _ => ensures_pure fun _ hw => hw
  refine .bind (keeps_said_ask fun _ => by simp) fun _ => .ite (fun _ => ?_) fun _ => ?_
  case refine_1 => exact .bind hinit fun _ => ensures_pure fun _ hw => hw
  case refine_2 =>
    refine .bind (Q := fun _ w => (w.memory = none ∨ w.memory = some .init) ∧ Said h₀ none w)
      (ensures_store fun _ hw => ⟨.inl rfl, hw⟩) fun _ => ensures_pure fun _ hw => hw

variable {n : StateName} {e : Event}

theorem said_refl (w : ServerWorld) : Said w.history none w :=
  ⟨[], (List.append_nil _).symm, rfl⟩

theorem Said.delivered {w : ServerWorld} (h : Said s.machine.history ok w)
    (hr : run State.deliver { s with machine := w } (w.history.drop s.machine.history.length) =
      some s') : Delivered ok { s with machine := w } s' := by
  obtain ⟨calls, hw, hp⟩ := h
  rw [hw, List.drop_left] at hr
  exact run_delivered hr hp

-- No event is handled before the start.
theorem handle_event_eq_none (h : s.machine.memory = none) : s.handle env (.event e) = none := by
  have he : StateMachine.step env s.machine (.event e) = none := eventStep_eq_none h
  rw [State.handle, he]
  rfl

-- What an event does to the state machine, and to the others.
theorem handle_event_spec (hn : s.machine.memory = some n.state)
    (h : s.handle env (.event e) = some s') :
    ∃ w : ServerWorld, w.memory = some (n.next e.dispatched).state ∧
      Delivered ((n.state.target e.dispatched).bind permissionOf) { s with machine := w } s' := by
  have ⟨w, hw, hr⟩ := Option.bind_eq_some_iff.mp h
  have hh : Handles env (Said s.machine.history none) _ := said_handles
  have ⟨w', hw', hm, hs⟩ := hh.eventStep (e := e) hn (said_refl s.machine)
  obtain rfl := Option.some.inj <| hw.symm.trans hw'
  exact ⟨w, hm, hs.delivered hr⟩

theorem handle_start_spec (h : s.handle env .serverStart = some s') : ∃ w : ServerWorld,
    (w.memory = none ∨ w.memory = some .init) ∧ Delivered none { s with machine := w } s' := by
  have ⟨w, hw, hr⟩ := Option.bind_eq_some_iff.mp h
  have hh : Ensures env (Said s.machine.history none) (doAction .serverStart) _ := said_start
  have ⟨w', hw', _, hm, hs⟩ := hh.exec (said_refl s.machine)
  obtain rfl := Option.some.inj <| hw.symm.trans hw'
  exact ⟨w, hm, hs.delivered hr⟩

end RoboOne.Robot
