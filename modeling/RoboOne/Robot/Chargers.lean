import RoboOne.BatteryManager.Charging
import RoboOne.Robot.Permission
import RoboOne.Robot.Supplies

namespace RoboOne.Robot

open Hardware Interaction StateMachine Transition OneWire

-- The relay of the charger of a battery.
def chargerRelay : BatteryManager.Battery → Relay
  | .rio => .rioBatteryCharger
  | .o1  => .o1BatteryCharger
  | .o2  => .o2BatteryCharger
  | .o3  => .o3BatteryCharger

-- The offset timer of the Battery Manager takes the commands in turn.
def InTurn (s : State) : Input → Prop
  | .timerExpiry => BatteryManager.InTurn s.manager .timerExpiry
  | _            => True

instance (s : State) : (i : Input) → Decidable (InTurn s i)
  | .timerExpiry => inferInstanceAs (Decidable (BatteryManager.InTurn s.manager .timerExpiry))
  | .start       => inferInstanceAs (Decidable True)
  | .handle _    => inferInstanceAs (Decidable True)
  | .send _      => inferInstanceAs (Decidable True)
  | .data _ _    => inferInstanceAs (Decidable True)

-- The Battery Manager has its commands in order, and decides by the permission, which agrees with the
-- state machine.
structure Managed (s : State) : Prop where
  agrees  : Agrees s
  inOrder : BatteryManager.InOrder s.manager
  decided : BatteryManager.Decided s.manager

variable {env : Environment Call.Answer} {s s' : State} {i : BatteryManager.Input} {is : List Input}
  {ok : Option Bool} {b : BatteryManager.Battery} {m : BatteryManager.State} {h : History Call.Answer}
  {ms msgs : List HardwareMsgType} {on : Bool} {chips : Pio → Ds2408} {voltage : Option UInt16}
  {uninitialised : History OwCall.Answer → UInt8}

theorem Managed.manage (hm : Managed s) (ha : Agrees s') (hi : BatteryManager.InTurn s.manager i)
    (hs : s.manage i = some s') : Managed s' := by
  obtain ⟨m, hm', rfl⟩ := Option.map_eq_some_iff.mp hs
  exact ⟨ha, BatteryManager.inOrder_kept.step.step hm.inOrder hi hm',
    BatteryManager.decided_kept.step.step hm.decided trivial hm'⟩

theorem Managed.delivered (hm : Managed s) (ha : Agrees s') {w : ServerWorld} {es : List Event}
    (hd : Delivered ok { s with machine := w, inFlight := es } s') : Managed s' := by
  cases ok
  case none   => exact ⟨ha, hd.manager rfl ▸ hm.inOrder, hd.manager rfl ▸ hm.decided⟩
  case some b =>
    have hi : BatteryManager.InTurn s.manager (.chargingPermitted b) := trivial
    have hs := hd.managed b rfl
    exact ⟨ha, BatteryManager.inOrder_kept.step.step hm.inOrder hi hs,
      BatteryManager.decided_kept.step.step hm.decided trivial hs⟩

theorem managed_preserved : Preserves (step env) InTurn Managed where
  step {s i s'} hm hi hs := by
    have ha : Agrees s' := agrees_preserved.step hm.agrees trivial hs
    cases i
    case data b d    => exact hm.manage (i := .data b d) ha trivial hs
    case timerExpiry => exact hm.manage (i := .timerExpiry) ha hi hs
    case send =>
      obtain rfl := Option.some.inj hs
      exact ⟨ha, hm.inOrder, hm.decided⟩
    case start =>
      have ⟨_, hs⟩ := Option.ite_none_right_eq_some.mp hs
      have ⟨w, _, hd⟩ := handle_start_spec hs
      exact hm.delivered ha hd
    case handle place =>
      have ⟨e, _, hs⟩ := Option.bind_eq_some_iff.mp hs
      rcases hm.agrees.known with hn | ⟨n, hn⟩
      case inl => cases hs.symm.trans (handle_event_eq_none hn)
      case inr =>
        have ⟨w, _, hd⟩ := handle_event_spec (s := { s with inFlight := s.inFlight.eraseIdx place }) hn hs
        exact hm.delivered ha hd

theorem boot_managed : Managed (boot h m) where
  agrees  := boot_agrees h m
  inOrder := BatteryManager.started_inOrder m
  decided := BatteryManager.started_decided m

theorem request?_onMsg : b.onMsg.request? (chargerRelay b) = some true := by
  cases b <;> rfl

theorem request?_offMsg : b.offMsg.request? (chargerRelay b) = some false := by
  cases b <;> rfl

-- The last command decides about the charger.
theorem getLast?_eq_onMsg (hc : ∀ m ∈ ms, BatteryManager.Commands m b) (hn : ms ≠ [])
    (ho : ms.foldl (fun on m => (m.request? (chargerRelay b)).getD on) on = true) :
    ms.getLast? = some b.onMsg := by
  rcases List.eq_nil_or_concat ms with rfl | ⟨ms, m, rfl⟩
  case inl => exact absurd rfl hn
  case inr =>
    rw [List.concat_eq_append, List.getLast?_concat]
    rcases hc m (by simp) with rfl | rfl
    case inl => rfl
    case inr =>
      rw [List.concat_eq_append, List.foldl_append, List.foldl_cons, request?_offMsg] at ho
      cases ho

-- When all commands have been sent, a charger that has been commanded at all is switched on by the
-- devices only while the robot is docked, and the Battery Manager takes the charger to be on.
theorem chargers_on_docked_on_chips (hu : Unloaded chips)
    (hr : run (step env) (boot h m) is = some s) (hi : Along (step env) InTurn (boot h m) is)
    (hq : s.manager.gHardwareMsgQ.msgs = [])
    (hs : ∀ b, requesting (chargerRelay b) msgs = s.manager.sent b) : ∃ w₁ w₂ w₃,
      setupPio .darlington true true (pioBus voltage chips) ⟨Pio.initialState, []⟩ = some (true, w₁) ∧
      setupPio .relay true true (pioBus voltage chips) w₁ = some (true, w₂) ∧
      run (serveStep (pioBus voltage chips) uninitialised) w₂ msgs = some w₃ ∧
      ∀ b, s.manager.sent b ≠ [] → SwitchedOn (reached voltage chips w₃.history) (chargerRelay b) →
        OnDock s ∧ (s.manager.status b).chargerOn := by
  have hm := managed_preserved.run boot_managed hi hr
  obtain ⟨w₁, w₂, hd, hr, hw⟩ := @setupPio_on_chips voltage chips hu Pio.initialState
  obtain ⟨w₃, hw₃, hl⟩ := @serveStep_on_chips uninitialised w₂ voltage chips _ hu msgs hw
  refine ⟨w₁, w₂, w₃, hd, hr, hw₃, fun b hn ho => ?_⟩
  rw [SwitchedOn, hl, hs] at ho
  have hlast := getLast?_eq_onMsg (by simp [BatteryManager.State.sent]) hn ho
  have hsent := hm.inOrder.order b
  rw [BatteryManager.State.queued, hq, List.filter_nil, List.append_nil] at hsent
  obtain ⟨hp, hc⟩ := hm.decided b (hsent ▸ hlast)
  exact ⟨hm.agrees.permitted.mp hp, hc⟩

-- The robot docks, and all batteries are charged.
def dockAll : List Input :=
  [.start, .send .mainsPowerAvailable, .handle 0, .timerExpiry, .timerExpiry, .timerExpiry]

theorem chargers_on_docked_on_chips_dockAll : ∃ s,
    run (step workingEnvironment) (boot [] BatteryManager.boot) dockAll = some s ∧
    ∃ w₁ w₂ w₃,
      setupPio .darlington true true (pioBus none chargingChips) ⟨Pio.initialState, []⟩ =
        some (true, w₁) ∧
      setupPio .relay true true (pioBus none chargingChips) w₁ = some (true, w₂) ∧
      run (serveStep (pioBus none chargingChips) fun _ => 0) w₂
        [.setRioBatteryChargerOn, .setO3BatteryChargerOn, .enableExternalRelays,
          .setO2BatteryChargerOn, .setO1BatteryChargerOn] = some w₃ ∧
      ∀ b, s.manager.sent b ≠ [] → SwitchedOn (reached none chargingChips w₃.history) (chargerRelay b) →
        OnDock s ∧ (s.manager.status b).chargerOn := by
  have ⟨s, hr, hq, hs⟩ : ∃ s ∈ run (step workingEnvironment) (boot [] BatteryManager.boot) dockAll,
      s.manager.gHardwareMsgQ.msgs = [] ∧ ∀ b ∈ [BatteryManager.Battery.rio, .o1, .o2, .o3],
        requesting (chargerRelay b) [.setRioBatteryChargerOn, .setO3BatteryChargerOn,
          .enableExternalRelays, .setO2BatteryChargerOn, .setO1BatteryChargerOn] =
            s.manager.sent b := by
    decide +kernel
  exact ⟨s, hr, chargers_on_docked_on_chips unloaded_chargingChips hr (by decide +kernel) hq
    fun b => hs b (by cases b <;> decide)⟩

end RoboOne.Robot
