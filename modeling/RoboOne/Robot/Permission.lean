import RoboOne.Robot.Composition

namespace RoboOne.Robot

open Interaction StateMachine Transition

-- The state machine is in Docked or in one of its sub-states.
def OnDock (s : State) : Prop :=
  ∃ n ∈ StateName.dock, s.machine.memory = some n.state

-- The Battery Manager takes charging to be permitted if and only if the robot is docked.
structure Agrees (s : State) : Prop where
  known     : s.machine.memory = none ∨ ∃ n : StateName, s.machine.memory = some n.state
  permitted : s.manager.gChargingPermitted = true ↔ OnDock s

variable {env : Environment Call.Answer} {s s' : State} {n : StateName} {e : Event}

theorem onDock_iff (h : s.machine.memory = some n.state) : OnDock s ↔ n ∈ StateName.dock := by
  refine ⟨fun ⟨n', hn', h'⟩ => ?_, fun hn => ⟨n, hn, h⟩⟩
  obtain rfl : n' = n := StateName.state_injective <| Option.some.inj <| h'.symm.trans h
  exact hn'

theorem not_onDock (h : s.machine.memory = none ∨ s.machine.memory = some .init) : ¬OnDock s := by
  rintro ⟨n, hn, hs⟩
  cases h
  case inl h => cases h.symm.trans hs
  case inr h =>
    obtain rfl : StateName.init = n := StateName.state_injective <| Option.some.inj <| h.symm.trans hs
    exact absurd hn (by decide)

-- The entry actions give and withdraw the permission as it has to be, although most of them say nothing
-- about it.
theorem permission_next {b : Bool} (h : b = true ↔ n ∈ StateName.dock) :
    ((n.state.target e).bind permissionOf).getD b = true ↔ n.next e ∈ StateName.dock := by
  cases n <;> cases e <;>
    first
      | exact h
      | exact iff_of_true rfl (by decide)
      | exact h.trans (iff_of_true (by decide) (by decide))
      | exact h.trans (iff_of_false (by decide) (by decide))
      | exact iff_of_false Bool.false_ne_true (by simp [StateName.next, StateName.dock])

theorem Agrees.manage {i : BatteryManager.Input} (h : Agrees s) (hi : i.permission? = none)
    (hs : s.manage i = some s') : Agrees s' := by
  obtain ⟨m, hm, rfl⟩ := Option.map_eq_some_iff.mp hs
  have hp := BatteryManager.step_permitted hm
  rw [hi] at hp
  exact ⟨h.known, (iff_of_eq (congrArg (· = true) hp)).trans h.permitted⟩

theorem Delivered.permitted {ok : Option Bool} (h : Delivered ok s s') :
    s'.manager.gChargingPermitted = ok.getD s.manager.gChargingPermitted := by
  cases ok
  case none   => exact congrArg _ (h.manager rfl)
  case some b => exact BatteryManager.step_permitted (h.managed b rfl)

theorem Agrees.start (h : Agrees s) (hn : s.machine.memory = none)
    (hs : s.handle env .serverStart = some s') : Agrees s' := by
  have ⟨w, hw, hd⟩ := handle_start_spec hs
  have hw : s'.machine.memory = none ∨ s'.machine.memory = some .init := hd.machine ▸ hw
  refine ⟨hw.imp_right fun hw => ⟨.init, hw⟩, ?_⟩
  rw [hd.permitted]
  exact iff_of_false (h.permitted.not.mpr (not_onDock (.inl hn))) (not_onDock hw)

theorem Agrees.handle {es : List Event} (h : Agrees s)
    (hs : { s with inFlight := es }.handle env (.event e) = some s') : Agrees s' := by
  rcases h.known with hn | ⟨n, hn⟩
  case inl => cases hs.symm.trans (handle_event_eq_none hn)
  case inr =>
    have ⟨w, hw, hd⟩ := handle_event_spec (s := { s with inFlight := es }) hn hs
    have hw : s'.machine.memory = some (n.next e.dispatched).state := hd.machine ▸ hw
    refine ⟨.inr ⟨_, hw⟩, ?_⟩
    rw [hd.permitted, onDock_iff hw]
    exact permission_next (h.permitted.trans (onDock_iff hn))

theorem agrees_preserved : Preserves (step env) (fun _ _ => True) Agrees where
  step {s i s'} h _ hs := by
    cases i
    case data        => exact h.manage rfl hs
    case timerExpiry => exact h.manage rfl hs
    case send =>
      obtain rfl := Option.some.inj hs
      exact ⟨h.known, h.permitted⟩
    case start =>
      rw [step] at hs
      split at hs
      case isFalse   => contradiction
      case isTrue hn => exact h.start (Option.isNone_iff_eq_none.mp hn) hs
    case handle place =>
      have ⟨_, _, hs⟩ := Option.bind_eq_some_iff.mp hs
      exact h.handle hs

theorem boot_agrees (h : History Call.Answer) (m : BatteryManager.State) : Agrees (boot h m) where
  known     := .inl rfl
  permitted := iff_of_false Bool.false_ne_true (not_onDock (.inl rfl))

-- In all states that the robot gets into, charging is permitted if and only if the state machine is in
-- Docked or in one of its sub-states.
theorem charging_permitted_iff_docked (env : Environment Call.Answer) (h : History Call.Answer)
    (m : BatteryManager.State) (is : List Input) (s : State)
    (hr : run (step env) (boot h m) is = some s) :
    s.manager.gChargingPermitted = true ↔ OnDock s :=
  agrees_preserved.run_all (boot_agrees h m) hr |>.permitted

-- The robot docks when there is mains power.
theorem charging_permitted_iff_docked_mains : ∃ s, run (step workingEnvironment)
    (boot [] BatteryManager.boot) [.start, .send .mainsPowerAvailable, .handle 0] = some s ∧
      (s.manager.gChargingPermitted = true ↔ OnDock s) := by
  have hr : run (step workingEnvironment) (boot [] BatteryManager.boot)
      [.start, .send .mainsPowerAvailable, .handle 0] = some _ :=
    (Option.some_get (by decide +kernel)).symm
  exact ⟨_, hr, charging_permitted_iff_docked _ _ _ _ _ hr⟩

end RoboOne.Robot
