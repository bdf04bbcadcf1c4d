import RoboOne.StateMachine.Relays

namespace RoboOne.StateMachine

open Hardware Interaction Transition

-- All requests to the hardware server succeed.
def Served (env : Environment Call.Answer) : Prop :=
  ∀ h m b, (env h (.hardwareServerSendReceive m b)).fst = true

namespace Relays

-- Both loads are supplied by the batteries only.
def toBattery (r : Relays) : Relays :=
  { r with rioPwr12V := false, rioPwrBatt := true, oPwr12V := false, oPwrBatt := true }

-- Both loads are supplied by the 12 V of the mains only.
def to12VMains (r : Relays) : Relays :=
  { r with rioPwr12V := true, rioPwrBatt := false, oPwr12V := true, oPwrBatt := false }

-- What the entry actions of a state do to the relays, if all of them succeed.
def enter (r : Relays) : StateName → Relays
  | .init            => r.toBattery
  | .batteryIdle     => r
  | .docked          => { r.to12VMains with externalRelaysEnabled := true }
  | .dockedCharging  => r
  | .dockedMainsIdle => r
  | .mobile          => r.toBattery
  | .shutdown        => { r with externalRelaysEnabled := false }

-- The relays are as they were before the robot docked.
def Undocked (r : Relays) : Prop :=
  r.rioPwrBatt ∧ r.oPwrBatt ∧ ¬r.rioPwr12V ∧ ¬r.oPwr12V ∧ ¬r.externalRelaysEnabled

end Relays

variable {env : Environment Call.Answer} {r x : Relays} {w w' : ServerWorld} {e : Event}
  {m on off : HardwareMsgType} {text onText offText : String} {C : Call → Prop}

-- The relays are `x` now.
def RelaysAre (r x : Relays) (w : ServerWorld) : Prop :=
  relays r w.history = x

theorem keeps_relays {α : Type} {p : Program α} (hp : Makes C p)
    (hc : ∀ c, C c → ∀ a, x.after ⟨c, a⟩ = x) : Keeps env (RelaysAre r x) p := by
  refine hp.keeps fun c h w a hx => relays_append.trans ?_
  rw [show relays r w.history = x from hx, hc c h]

theorem keeps_relays_ask {c : Call} (hc : ∀ a, x.after ⟨c, a⟩ = x) :
    Keeps env (RelaysAre r x) (ask c) :=
  keeps_relays (makes_ask (C := (· = c)) rfl) fun _ h => h ▸ hc

theorem keeps_relays_printDebug : Keeps env (RelaysAre r x) (printDebug text) :=
  keeps_relays_ask fun _ => rfl

theorem ensures_relays_hardwareServerSendReceive (hs : Served env) :
    Ensures env (RelaysAre r x) (hardwareServerSendReceive m) fun success w =>
      success = true ∧ RelaysAre r (x.switch m) w := by
  refine ensures_hardwareServerSendReceive fun w success response hx he => ?_
  obtain rfl : success = true := (congrArg Prod.fst he).symm.trans (hs _ _ _)
  exact ⟨rfl, relays_append.trans <| by rw [show relays r w.history = x from hx]; rfl⟩

theorem ensures_relays_switchRelays (hs : Served env) :
    Ensures env (RelaysAre r x) (printDebug text >>= fun _ => hardwareServerSendReceive m)
      fun success w => success = true ∧ RelaysAre r (x.switch m) w :=
  .bind keeps_relays_printDebug fun _ => ensures_relays_hardwareServerSendReceive hs

theorem ensures_relays_switchSupply (hs : Served env) :
    Ensures env (RelaysAre r x) (switchSupply onText on offText off) fun success w =>
      success = true ∧ RelaysAre r ((x.switch on).switch off) w := by
  refine .bind keeps_relays_printDebug fun _ => ?_
  refine .bind_ite (ensures_relays_hardwareServerSendReceive hs) ?_
  exact .bind keeps_relays_printDebug fun _ => ensures_relays_hardwareServerSendReceive hs

-- What succeeds wherever the relays are known succeeds anyway.
theorem succeeds_of_relays {f : Relays → Relays} {p : Program Bool}
    (h : ∀ x, Ensures env (RelaysAre r x) p fun success w => success = true ∧ RelaysAre r (f x) w) :
    Ensures env (fun _ => True) p fun success _ => success = true := by
  intro w _
  have ⟨success, w', hw', hs, _⟩ := h (relays r w.history) w rfl
  exact ⟨success, w', hw', hs⟩

-- It does not matter how the relays were at first.
def noRelays : Relays where
  rioPwr12V             := false
  rioPwrBatt            := false
  oPwr12V               := false
  oPwrBatt              := false
  externalRelaysEnabled := false

theorem switchRelays_succeeds (hs : Served env) : Ensures env (fun _ => True)
    (printDebug text >>= fun _ => hardwareServerSendReceive m) fun success _ => success = true :=
  succeeds_of_relays (r := noRelays) fun _ => ensures_relays_switchRelays hs

theorem switchSupply_succeeds (hs : Served env) : Ensures env (fun _ => True)
    (switchSupply onText on offText off) fun success _ => success = true :=
  succeeds_of_relays (r := noRelays) fun _ => ensures_relays_switchSupply hs

theorem keeps_relays_powersHindbrain {α : Type} {p : Program α}
    (hp : Makes Call.PowersHindbrain p) : Keeps env (RelaysAre r x) p :=
  keeps_relays hp fun _ hc _ => Relays.after_of_powersHindbrain hc

theorem keeps_relays_enter {pState : RoboOneState} : Keeps env (RelaysAre r x) (enter pState) :=
  .bind (ensures_store fun _ hw => hw) fun _ => keeps_relays_printDebug

theorem ensures_relays_transition (hs : Served env) (n : StateName) (pTaskReq : RoboOneTaskReq) :
    Ensures env (RelaysAre r x) (n.transition pTaskReq) fun _ => RelaysAre r (x.enter n) := by
  have hon {x : Relays} : Keeps env (RelaysAre r x) actionSwitchOnHindbrain :=
    keeps_relays_powersHindbrain makes_actionSwitchOnHindbrain
  have hoff {x : Relays} : Keeps env (RelaysAre r x) actionSwitchOffHindbrain :=
    keeps_relays_powersHindbrain makes_actionSwitchOffHindbrain
  have hreport {x : Relays} :
      Keeps env (RelaysAre r x) (stateMachineServerSendReceive .initFailure) :=
    keeps_relays_ask fun _ => rfl
  cases n
  case init =>
    refine .bind keeps_relays_enter fun _ => ?_
    refine .bind (ensures_relays_switchSupply hs) fun _ => .pull fun _ => ?_
    refine .bind (ensures_relays_switchSupply hs) fun _ => .pull fun _ => ?_
    refine .bind (ensures_relays_switchRelays hs) fun _ => .pull fun _ => ?_
    refine Keeps.ite ?_ (keeps_reportFailure hreport)
    exact .bind hon fun _ => keeps_reportFailure hreport
  case batteryIdle     => exact Keeps.bind keeps_relays_enter fun _ => .bind hoff fun _ => .pure
  case dockedCharging  => exact keeps_relays_enter
  case dockedMainsIdle => exact keeps_relays_enter
  case docked =>
    refine .bind keeps_relays_enter fun _ => ?_
    refine .bind_ite (ensures_relays_switchRelays hs) ?_
    refine .bind (ensures_relays_switchSupply hs) fun _ => .pull fun _ => ?_
    refine .bind (ensures_relays_switchSupply hs) fun _ => .pull fun _ => ?_
    refine .bind hoff fun _ => ?_
    exact Keeps.bind (keeps_relays_ask fun _ => rfl) fun _ => .pure
  case mobile =>
    refine .bind keeps_relays_enter fun _ => .bind (keeps_relays_ask fun _ => rfl) fun _ => ?_
    refine .bind_ite (ensures_relays_switchSupply hs) ?_
    refine .bind_ite (ensures_relays_switchSupply hs) ?_
    refine Keeps.bind hon fun _ => .ite (.bind ?_ fun _ => keeps_reportFailure hreport)
      (keeps_reportFailure hreport)
    exact keeps_relays makes_eventTasksAvailable fun _ hc _ => Relays.after_of_remains hc
  case shutdown =>
    refine .bind keeps_relays_enter fun _ => .bind (keeps_relays_ask fun _ => rfl) fun _ => ?_
    refine .bind hoff fun _ => .bind (ensures_relays_switchRelays hs) fun _ => .pull fun _ => ?_
    refine .bind (ensures_relays_switchRelays hs) fun _ => .pull fun _ => ?_
    exact Keeps.pure

theorem relays_handles (hs : Served env) :
    Handles env (RelaysAre r x) fun t => RelaysAre r (t.elim x x.enter) where
  keeps _ hc  := keeps_relays_ask fun _ => Relays.after_of_remains hc
  remains _ h := h
  transition  := ensures_relays_transition hs

theorem relays_eventStep {n : StateName} (hs : Served env) (h : w.memory = some n.state) :
    ∃ w', eventStep env w e = some w' ∧ w'.memory = some (n.next e.dispatched).state ∧
      relays r w'.history = (n.state.target e.dispatched).elim (relays r w.history)
        (relays r w.history).enter :=
  (relays_handles hs).eventStep h rfl

-- The states in which the robot is not docked, but for Shutdown.
def offDock : List StateName :=
  [.init, .batteryIdle, .mobile]

-- Off the dock the relays are as they were before the robot docked.
def OffDock (r : Relays) (w : ServerWorld) : Prop :=
  ∀ n ∈ offDock, w.memory = some n.state → (relays r w.history).Undocked

-- It is not the case that a task makes the robot leave the dock.
def RemainsDocked (w : ServerWorld) (e : Event) : Prop :=
  ∀ pTaskReq, e = .tasksAvailable pTaskReq →
    w.memory ≠ some .docked ∧ w.memory ≠ some .dockedMainsIdle

-- On the dock the external relays are enabled.
def OnDock (r : Relays) (w : ServerWorld) : Prop :=
  ∃ n : StateName, w.memory = some n.state ∧
    (n ∈ StateName.dock → (relays r w.history).externalRelaysEnabled = true)

variable {n : StateName}

theorem offDock_iff (h : w.memory = some n.state) :
    OffDock r w ↔ (n ∈ offDock → (relays r w.history).Undocked) := by
  refine ⟨fun ho hn => ho n hn h, fun ho n' hn' h' => ho ?_⟩
  obtain rfl : n' = n := StateName.state_injective <| Option.some.inj <| h'.symm.trans h
  exact hn'

theorem next_onDock (hx : n ∈ StateName.dock → x.externalRelaysEnabled = true) :
    n.next e ∈ StateName.dock → ((n.state.target e).elim x x.enter).externalRelaysEnabled = true := by
  cases n <;> cases e <;>
    first
      | exact fun _ => hx (by decide)
      | exact fun _ => rfl
      | exact fun h => absurd h (by simp [StateName.next, StateName.dock])

theorem onDock_preserved (hs : Served env) :
    Preserves (eventStep env) (fun _ _ => True) (OnDock r) where
  step {w e w'} := by
    intro ⟨n, hn, hx⟩ _ h
    have ⟨m, hm, hn, hx'⟩ := relays_eventStep (r := r) (e := e) hs hn
    obtain rfl : m = w' := Option.some.inj <| hm.symm.trans h
    exact ⟨_, hn, hx' ▸ next_onDock hx⟩

theorem Relays.Undocked.toBattery (h : x.Undocked) : x.toBattery.Undocked :=
  ⟨rfl, rfl, Bool.false_ne_true, Bool.false_ne_true, h.right.right.right.right⟩

-- The external relays remain enabled when a task makes the robot leave the dock, and in no other case
-- are the relays wrong.
theorem next_offDock_iff (hx : n ∈ StateName.dock → x.externalRelaysEnabled = true)
    (ho : n ∈ offDock → x.Undocked) :
    (∀ pTaskReq, e = .tasksAvailable pTaskReq → n ≠ .docked ∧ n ≠ .dockedMainsIdle) ↔
      (n.next e.dispatched ∈ offDock →
        ((n.state.target e.dispatched).elim x x.enter).Undocked) := by
  constructor
  case mp =>
    intro h
    cases n <;> cases e <;>
      first
        | exact fun _ => ho (by decide)
        | exact fun _ => (ho (by decide)).toBattery
        | exact absurd rfl (h _ rfl).left
        | exact absurd rfl (h _ rfl).right
        | exact fun h => absurd h (by simp [StateName.next, Event.dispatched, offDock])
  case mpr =>
    rintro h _ rfl
    constructor <;> rintro rfl
    all_goals
      have hu : x.toBattery.Undocked := h (show StateName.mobile ∈ offDock by decide)
      exact hu.right.right.right.right <| hx (by decide)

theorem throughout_offDock_iff (hs : Served env) (hn : w.memory = some .init)
    (hu : (relays r w.history).Undocked) (es : List Event) :
    Throughout (eventStep env) (OffDock r) w es ↔ Along (eventStep env) RemainsDocked w es := by
  have h₀ : OnDock r w := ⟨.init, hn, fun h => absurd h (by decide)⟩
  refine (onDock_preserved hs).throughout_iff_along h₀ ?_ fun w e ⟨n, hn, hx⟩ ho => ?_
  case refine_1 => exact (offDock_iff (n := .init) hn).mpr fun _ => hu
  case refine_2 =>
    have ⟨w', hw', hn', hx'⟩ := relays_eventStep (r := r) (e := e) hs hn
    have hne (n' : StateName) : w.memory ≠ some n'.state ↔ n ≠ n' := by
      rw [hn, ne_eq, Option.some_inj, StateName.state_injective.eq_iff]
    simp only [hw', Option.mem_def, Option.some.injEq, forall_eq', offDock_iff hn', hx']
    rw [← next_offDock_iff hx ((offDock_iff hn).mp ho), RemainsDocked]
    exact forall₂_congr fun _ _ => and_congr (hne .docked) (hne .dockedMainsIdle)

theorem start_undocked {w₀ : ServerWorld} (hs : Served env)
    (he : (relays r w₀.history).externalRelaysEnabled = false)
    (h : doAction .serverStart env w₀ =
      some ((.successKeepRunning, some (.serverStart true)), w)) :
    (relays r w.history).Undocked := by
  have hw : RelaysAre r ((relays r w₀.history).enter .init) w :=
    start_ensures (P := RelaysAre r (relays r w₀.history)) (fun _ hw => relays_append.trans hw)
      (ensures_relays_transition hs .init ⟨[]⟩) rfl h
  rw [show relays r w.history = _ from hw]
  exact ⟨rfl, rfl, Bool.false_ne_true, Bool.false_ne_true, by simp [Relays.enter, Relays.toBattery, he]⟩

-- Off the dock the relays are always as they were before the robot docked, if and only if there is no
-- task that makes the robot leave the dock.
theorem offDock_throughout_iff (env : Environment Call.Answer) (r : Relays) (w₀ w : ServerWorld)
    (es : List Event) (hs : Served env)
    (he : (relays r w₀.history).externalRelaysEnabled = false)
    (h : doAction .serverStart env w₀ =
      some ((.successKeepRunning, some (.serverStart true)), w)) :
    Throughout (eventStep env) (OffDock r) w es ↔ Along (eventStep env) RemainsDocked w es :=
  throughout_offDock_iff hs (start_memory h) (start_undocked hs he h) es

theorem workingEnvironment_served : Served workingEnvironment :=
  fun _ _ _ => rfl

theorem offDock_throughout_iff_working :
    Throughout (eventStep workingEnvironment) (OffDock ⟨false, true, false, true, false⟩) startedWorld
      [.mainsPowerAvailable, .shutdown] ↔
    Along (eventStep workingEnvironment) RemainsDocked startedWorld
      [.mainsPowerAvailable, .shutdown] :=
  offDock_throughout_iff workingEnvironment _ ⟨none, []⟩ startedWorld _ workingEnvironment_served rfl
    start_workingEnvironment

-- The robot docks, and is sent off again.
theorem offDock_not_throughout : ¬∀ (env : Environment Call.Answer) (r : Relays)
    (w₀ w : ServerWorld) (es : List Event), Served env →
      (relays r w₀.history).externalRelaysEnabled = false →
      doAction .serverStart env w₀ =
        some ((.successKeepRunning, some (.serverStart true)), w) →
      Throughout (eventStep env) (OffDock r) w es := by
  intro h
  let r : Relays := ⟨false, true, false, true, false⟩
  have hm := start_memory start_workingEnvironment
  have ht := h workingEnvironment r ⟨none, []⟩ startedWorld [.mainsPowerAvailable, .tasksAvailable ⟨[]⟩]
    workingEnvironment_served rfl start_workingEnvironment
  have hu := start_undocked workingEnvironment_served (r := r) rfl start_workingEnvironment
  have ha := (throughout_offDock_iff workingEnvironment_served hm hu _).mp ht
  have ⟨w', hw', hn⟩ := eventStep_spec workingEnvironment .mainsPowerAvailable (n := .init) hm
  exact (ha.right w' hw').left _ rfl |>.left hn

end RoboOne.StateMachine
