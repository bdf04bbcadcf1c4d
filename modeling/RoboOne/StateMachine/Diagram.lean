import RoboOne.StateMachine.Calls

namespace RoboOne.StateMachine

open Interaction Hardware

inductive StateName
  | init
  | batteryIdle
  | docked
  | dockedCharging
  | dockedMainsIdle
  | mobile
  | shutdown
deriving DecidableEq

namespace StateName

def state : StateName → RoboOneState
  | init            => .init
  | batteryIdle     => .batteryIdle
  | docked          => .docked
  | dockedCharging  => .dockedCharging
  | dockedMainsIdle => .dockedMainsIdle
  | mobile          => .mobile
  | shutdown        => .shutdown

-- Docked and its two sub-states.
def dock : List StateName :=
  [docked, dockedCharging, dockedMainsIdle]

-- The state diagram of the robot. Whatever is not mentioned leaves the state as it is.
def next : StateName → Event → StateName
  | shutdown,        _                    => shutdown
  | _,               .shutdown            => shutdown
  | mobile,          .insufficientPower   => mobile
  | _,               .insufficientPower   => shutdown
  | init,            .initFailure         => shutdown
  | init,            .timerExpiry         => batteryIdle
  | init,            .tasksAvailable _    => mobile
  | init,            .mainsPowerAvailable => docked
  | batteryIdle,     .tasksAvailable _    => mobile
  | batteryIdle,     .mainsPowerAvailable => docked
  | docked,          .tasksAvailable _    => mobile
  | docked,          .fullyCharged        => dockedMainsIdle
  | docked,          .insufficientCharge  => dockedCharging
  | dockedCharging,  .fullyCharged        => dockedMainsIdle
  | dockedMainsIdle, .tasksAvailable _    => mobile
  | dockedMainsIdle, .insufficientCharge  => dockedCharging
  | mobile,          .initFailure         => init
  | mobile,          .noTasksAvailable    => batteryIdle
  | mobile,          .mainsPowerAvailable => docked
  | s,               _                    => s

variable {s s' : StateName} {e : Event}

theorem state_injective : Function.Injective state := by
  intro s s' h
  cases s <;> cases s' <;> first | rfl | exact absurd (congrArg RoboOneState.name h) (by decide)

theorem next_eq_docked (h : s.next e = docked) : s = docked ∨ e = .mainsPowerAvailable := by
  cases s <;> cases e <;> simp_all [next]

end StateName

-- The handler that the state has registered for an event.
def RoboOneState.handler (s : RoboOneState) : Event → Program Unit
  | .init                    => s.pEventInit.call s
  | .initFailure             => s.pEventInitFailure.call s
  | .timerExpiry             => s.pEventTimerExpiry.call s
  | .tasksAvailable pTaskReq => s.pEventTasksAvailable.call s pTaskReq
  | .noTasksAvailable        => s.pEventNoTasksAvailable.call s
  | .mainsPowerAvailable     => s.pEventMainsPowerAvailable.call s
  | .insufficientPower       => s.pEventInsufficientPower.call s
  | .fullyCharged            => s.pEventFullyCharged.call s
  | .insufficientCharge      => s.pEventInsufficientCharge.call s
  | .shutdown                => s.pEventShutdown.call s

-- The transition to a state. Only that to Mobile has a task.
def StateName.transition (pTaskReq : RoboOneTaskReq) : StateName → Program Unit
  | init            => transitionToInit
  | batteryIdle     => transitionToBatteryIdle
  | docked          => transitionToDocked
  | dockedCharging  => transitionToDocked_Charging
  | dockedMainsIdle => transitionToDocked_MainsIdle
  | mobile          => transitionToMobile pTaskReq
  | shutdown        => transitionToShutdown

-- Where a handler leads to, if it leaves the state at all.
def Handler.target : Handler → Option StateName
  | transitionToInit             => some .init
  | transitionToBatteryIdle      => some .batteryIdle
  | transitionToDocked           => some .docked
  | transitionToDocked_Charging  => some .dockedCharging
  | transitionToDocked_MainsIdle => some .dockedMainsIdle
  | transitionToShutdown         => some .shutdown
  | _                            => none

def TasksHandler.target : TasksHandler → Option StateName
  | transitionToMobile => some .mobile
  | _                  => none

def RoboOneState.target (s : RoboOneState) : Event → Option StateName
  | .init                => s.pEventInit.target
  | .initFailure         => s.pEventInitFailure.target
  | .timerExpiry         => s.pEventTimerExpiry.target
  | .tasksAvailable _    => s.pEventTasksAvailable.target
  | .noTasksAvailable    => s.pEventNoTasksAvailable.target
  | .mainsPowerAvailable => s.pEventMainsPowerAvailable.target
  | .insufficientPower   => s.pEventInsufficientPower.target
  | .fullyCharged        => s.pEventFullyCharged.target
  | .insufficientCharge  => s.pEventInsufficientCharge.target
  | .shutdown            => s.pEventShutdown.target

variable {env : Environment Call.Answer} {P : World Call.Answer (Option RoboOneState) → Prop}
  {Q : Option StateName → World Call.Answer (Option RoboOneState) → Prop} {p : Program Unit}
  {pState : RoboOneState} {pTaskReq : RoboOneTaskReq} {e : Event}

-- A handler that starts with `P` makes one of the transitions, or it remains in the state. `Q` is what
-- it ends with, depending on where it leads to.
structure Handles (env : Environment Call.Answer)
    (P : World Call.Answer (Option RoboOneState) → Prop)
    (Q : Option StateName → World Call.Answer (Option RoboOneState) → Prop) : Prop where
  keeps      : ∀ c : Call, c.Remains → Keeps env P (ask c)
  remains    : ∀ w, P w → Q none w
  transition : ∀ (n : StateName) pTaskReq, Ensures env P (n.transition pTaskReq) fun _ => Q (some n)

namespace Handles

theorem defaultEvent (h : Handles env P Q) {event : String} :
    Ensures env P (defaultEvent event pState) fun _ => Q none :=
  (h.keeps (.printDebug _) trivial).mono (fun _ hw => hw) fun _ => h.remains

theorem call (h : Handles env P Q) (p : Handler) :
    Ensures env P (p.call pState) fun _ => Q p.target := by
  cases p
  case transitionToInit             => exact h.transition .init ⟨[]⟩
  case transitionToBatteryIdle      => exact h.transition .batteryIdle ⟨[]⟩
  case transitionToDocked           => exact h.transition .docked ⟨[]⟩
  case transitionToDocked_Charging  => exact h.transition .dockedCharging ⟨[]⟩
  case transitionToDocked_MainsIdle => exact h.transition .dockedMainsIdle ⟨[]⟩
  case transitionToShutdown         => exact h.transition .shutdown ⟨[]⟩
  all_goals exact h.defaultEvent

theorem callTasks (h : Handles env P Q) (p : TasksHandler) :
    Ensures env P (p.call pState pTaskReq) fun _ => Q p.target := by
  cases p
  case defaultEventTasksAvailable => exact h.defaultEvent
  case transitionToMobile         => exact h.transition .mobile pTaskReq
  case eventTasksAvailable        =>
    exact (makes_eventTasksAvailable env P h.keeps).mono (fun _ hw => hw) fun _ => h.remains

theorem handler (h : Handles env P Q) :
    Ensures env P (pState.handler e) fun _ => Q (pState.target e) := by
  cases e
  case tasksAvailable => exact h.callTasks _
  all_goals exact h.call _

end Handles

theorem enter_spec : Ensures env P (enter pState) fun _ w => w.memory = some pState := by
  have hp (text : String) : KeepsMemory env (printDebug text) :=
    (makes_printDebug (C := fun _ => True) trivial).keepsMemory
  exact .bind (ensures_store fun _ _ => rfl) fun _ => hp _ _

-- Both Init and Mobile report a failure of their entry actions.
theorem keeps_reportFailure {success : Bool}
    (h : Keeps env P (stateMachineServerSendReceive .initFailure)) : Keeps env P (if !success then
      stateMachineServerSendReceive .initFailure >>= fun _ => pure ()
    else
      pure () : Program Unit) :=
  .ite (.bind h fun _ => .pure) .pure

-- The permission that the entry actions of a state give or withdraw.
def permissionOf : StateName → Option Bool
  | .docked   => some true
  | .mobile   => some false
  | .shutdown => some false
  | _         => none

-- The messages to the external relays, and to those on the PCB.
def relayMsgs : List HardwareMsgType :=
  [.enableExternalRelays, .disableExternalRelays, .enableOnPCBRelays, .disableOnPCBRelays]

-- Every entry action keeps `I`, whether it succeeds or not, but for those that give or withdraw the
-- permission to charge.
structure EntryActions (env : Environment Call.Answer)
    (I : Option Bool → World Call.Answer (Option RoboOneState) → Prop) : Prop where
  toBattery    : ∀ ok, Keeps env (I ok) actionSwitchPiRioToBatteryPower ∧
    Keeps env (I ok) actionSwitchHindbrainToBatteryPower
  to12VMains   : ∀ ok, Keeps env (I ok) actionSwitchPiRioTo12VMainsPower ∧
    Keeps env (I ok) actionSwitchHindbrainTo12VMainsPower
  switchRelays : ∀ ok text, ∀ m ∈ relayMsgs,
    Keeps env (I ok) (printDebug text >>= fun _ => hardwareServerSendReceive m)
  switchOn     : ∀ ok, Keeps env (I ok) actionSwitchOnHindbrain
  switchOff    : ∀ ok, Keeps env (I ok) actionSwitchOffHindbrain
  tasks        : ∀ ok pTaskReq, Keeps env (I ok) (eventTasksAvailable pTaskReq)
  failure      : ∀ ok, Keeps env (I ok) (stateMachineServerSendReceive .initFailure)
  permits      : ∀ b, Ensures env (I none) (batteryManagerServerSendReceive b) fun _ => I (some b)

-- So whatever comes of the entry actions, a transition keeps what its first step leads to.
theorem EntryActions.transition {I : Option Bool → World Call.Answer (Option RoboOneState) → Prop}
    {n : StateName} (h : EntryActions env I) (he : Ensures env P (enter n.state) fun _ => I none)
    (pTaskReq : RoboOneTaskReq) :
    Ensures env P (n.transition pTaskReq) fun _ => I (permissionOf n) := by
  cases n
  case init =>
    refine he.bind fun _ => Keeps.bind (h.toBattery none).left fun _ => ?_
    refine .bind (h.toBattery none).right fun _ => .bind (h.switchRelays _ _ _ (by decide)) fun _ => ?_
    refine .ite ?_ (keeps_reportFailure (h.failure _))
    exact .bind (h.switchOn _) fun _ => keeps_reportFailure (h.failure _)
  case batteryIdle     => exact he.bind fun _ => Keeps.bind (h.switchOff none) fun _ => .pure
  case dockedCharging  => exact he
  case dockedMainsIdle => exact he
  case docked =>
    have hpermit : Ensures env (I none)
        (batteryManagerServerSendReceive true >>= fun _ => (pure () : Program Unit))
          fun _ => I (some true) :=
      .bind (h.permits true) fun _ => Keeps.pure
    refine he.bind fun _ => .bind (h.switchRelays _ _ _ (by decide)) fun _ => ?_
    refine .ite (fun _ => ?_) fun _ => hpermit
    refine .bind (h.to12VMains none).left fun _ => .bind (h.to12VMains none).right fun _ => ?_
    exact .bind (h.switchOff none) fun _ => hpermit
  case mobile =>
    refine he.bind fun _ => .bind (h.permits false) fun _ => ?_
    refine Keeps.bind (h.toBattery _).left fun _ => .ite ?_ (keeps_reportFailure (h.failure _))
    refine .bind (h.toBattery _).right fun _ => .ite ?_ (keeps_reportFailure (h.failure _))
    refine .bind (h.switchOn _) fun _ => .ite ?_ (keeps_reportFailure (h.failure _))
    exact .bind (h.tasks _ _) fun _ => keeps_reportFailure (h.failure _)
  case shutdown =>
    refine he.bind fun _ => .bind (h.permits false) fun _ => Keeps.bind (h.switchOff _) fun _ => ?_
    refine .bind (h.switchRelays _ _ _ (by decide)) fun _ => ?_
    exact .bind (h.switchRelays _ _ _ (by decide)) fun _ => .pure

-- A transition leads to its state, whatever comes of the entry actions.
theorem transition_spec (n : StateName) (pTaskReq : RoboOneTaskReq) :
    Ensures env P (n.transition pTaskReq) fun _ w => w.memory = some n.state := by
  have h : EntryActions env fun _ w => w.memory = some n.state := by
    constructor
    case toBattery    =>
      exact fun _ => ⟨makes_switchSupply.keepsMemory _, makes_switchSupply.keepsMemory _⟩
    case to12VMains   =>
      exact fun _ => ⟨makes_switchSupply.keepsMemory _, makes_switchSupply.keepsMemory _⟩
    case switchRelays => exact fun _ _ _ _ => makes_switchRelays.keepsMemory _
    case switchOn     => exact fun _ => makes_actionSwitchOnHindbrain.keepsMemory _
    case switchOff    => exact fun _ => makes_actionSwitchOffHindbrain.keepsMemory _
    case tasks        => exact fun _ _ => makes_eventTasksAvailable.keepsMemory _
    case failure      => exact fun _ => (makes_ask (C := fun _ => True) trivial).keepsMemory _
    case permits      => exact fun _ => (makes_ask (C := fun _ => True) trivial).keepsMemory _
  exact h.transition enter_spec pTaskReq

variable {s : StateName}

-- The handlers that the states have registered are those of the diagram.
theorem next_eq_target (s : StateName) (e : Event) :
    s.next e = (s.state.target e).getD s := by
  cases s <;> cases e <;> rfl

-- The registered handlers follow the diagram, whatever comes of the entry actions.
theorem handler_spec (env : Environment Call.Answer) (e : Event) :
    Ensures env (·.memory = some s.state) (s.state.handler e)
      fun _ w => w.memory = some (s.next e).state := by
  rw [next_eq_target]
  have h : Handles env (·.memory = some s.state) fun t w => w.memory = some (t.getD s).state := by
    constructor
    case keeps      => exact fun c _ => (makes_ask (C := fun _ => True) trivial).keepsMemory _
    case remains    => exact fun _ h => h
    case transition => exact transition_spec
  exact h.handler

end RoboOne.StateMachine
