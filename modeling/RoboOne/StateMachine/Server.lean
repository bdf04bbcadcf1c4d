import RoboOne.Library.Transition
import RoboOne.Messaging.Server
import RoboOne.StateMachine.Actions

namespace RoboOne.StateMachine

open Interaction Messaging

-- All default handlers do the same, for different events.
def defaultEvent (event : String) (pState : RoboOneState) : Program Unit :=
  printDebug <| "Unsupported " ++ event ++ " event in state " ++ pState.name ++ ".\n"

def defaultEventInit : RoboOneState → Program Unit :=
  defaultEvent "Init"

def defaultEventInitFailure : RoboOneState → Program Unit :=
  defaultEvent "InitFailure"

def defaultEventTimerExpiry : RoboOneState → Program Unit :=
  defaultEvent "TimerExpiry"

def defaultEventTasksAvailable (pState : RoboOneState) (_ : RoboOneTaskReq) : Program Unit :=
  defaultEvent "TasksAvailable" pState

def defaultEventNoTasksAvailable : RoboOneState → Program Unit :=
  defaultEvent "NoTasksAvailable"

def defaultEventMainsPowerAvailable : RoboOneState → Program Unit :=
  defaultEvent "MainsPowerAvailable"

def defaultEventInsufficientPower : RoboOneState → Program Unit :=
  defaultEvent "InsufficientPower"

def defaultEventFullyCharged : RoboOneState → Program Unit :=
  defaultEvent "FullyCharged"

def defaultEventInsufficientCharge : RoboOneState → Program Unit :=
  defaultEvent "InsufficientCharge"

def defaultEventShutdown : RoboOneState → Program Unit :=
  defaultEvent "Shutdown"

-- The name and the handlers of `*pState`, before the entry actions.
def enter (state : RoboOneState) : Program Unit := do
  store (some state)
  printDebug <| "\n*** Transitioning to " ++ state.name ++ " state.\n"

def transitionToShutdown : Program Unit := do
  enter .shutdown
  let _ ← batteryManagerServerSendReceive false
  let _ ← actionSwitchOffHindbrain
  let _ ← actionDisableExternalRelays
  let _ ← actionDisableOnPCBRelays

def transitionToInit : Program Unit := do
  enter .init
  let _ ← actionSwitchPiRioToBatteryPower
  let _ ← actionSwitchHindbrainToBatteryPower
  let mut success ← actionEnableOnPCBRelays
  if success then
    success ← actionSwitchOnHindbrain
  if !success then
    let _ ← stateMachineServerSendReceive .initFailure

def transitionToBatteryIdle : Program Unit := do
  enter .batteryIdle
  let _ ← actionSwitchOffHindbrain

def transitionToDocked : Program Unit := do
  enter .docked
  let success ← actionEnableExternalRelays
  if success then
    let _ ← actionSwitchPiRioTo12VMainsPower
    let _ ← actionSwitchHindbrainTo12VMainsPower
    let _ ← actionSwitchOffHindbrain
  let _ ← batteryManagerServerSendReceive true

def transitionToDocked_Charging : Program Unit :=
  enter .dockedCharging

def transitionToDocked_MainsIdle : Program Unit :=
  enter .dockedMainsIdle

-- The handler of the Mobile state.
def eventTasksAvailable (pTaskReq : RoboOneTaskReq) : Program Unit := do
  let success ← taskHandlerServerSendReceive pTaskReq
  if !success then
    printDebug "!!!Task handler failed to accept command!!!.\n"

def transitionToMobile (pTaskReq : RoboOneTaskReq) : Program Unit := do
  enter .mobile
  let _ ← batteryManagerServerSendReceive false
  let mut success ← actionSwitchPiRioToBatteryPower
  if success then
    success ← actionSwitchHindbrainToBatteryPower
    if success then
      success ← actionSwitchOnHindbrain
      if success then
        eventTasksAvailable pTaskReq
  if !success then
    let _ ← stateMachineServerSendReceive .initFailure

-- Calls a handler through its pointer, with a pointer to the state.
def Handler.call : Handler → RoboOneState → Program Unit
  | defaultEventInit                => StateMachine.defaultEventInit
  | defaultEventInitFailure         => StateMachine.defaultEventInitFailure
  | defaultEventTimerExpiry         => StateMachine.defaultEventTimerExpiry
  | defaultEventNoTasksAvailable    => StateMachine.defaultEventNoTasksAvailable
  | defaultEventMainsPowerAvailable => StateMachine.defaultEventMainsPowerAvailable
  | defaultEventInsufficientPower   => StateMachine.defaultEventInsufficientPower
  | defaultEventFullyCharged        => StateMachine.defaultEventFullyCharged
  | defaultEventInsufficientCharge  => StateMachine.defaultEventInsufficientCharge
  | defaultEventShutdown            => StateMachine.defaultEventShutdown
  | transitionToInit                => fun _ => StateMachine.transitionToInit
  | transitionToBatteryIdle         => fun _ => StateMachine.transitionToBatteryIdle
  | transitionToDocked              => fun _ => StateMachine.transitionToDocked
  | transitionToDocked_Charging     => fun _ => StateMachine.transitionToDocked_Charging
  | transitionToDocked_MainsIdle    => fun _ => StateMachine.transitionToDocked_MainsIdle
  | transitionToShutdown            => fun _ => StateMachine.transitionToShutdown

def TasksHandler.call : TasksHandler → RoboOneState → RoboOneTaskReq → Program Unit
  | defaultEventTasksAvailable => StateMachine.defaultEventTasksAvailable
  | transitionToMobile         => fun _ => StateMachine.transitionToMobile
  | eventTasksAvailable        => fun _ => StateMachine.eventTasksAvailable

-- `pgRoboOneContext->state`. The ASSERT of the event functions fails if there is none.
def withInstance (f : RoboOneState → Program Unit) : Program Unit := do
  match ← load with
  | none       => assert false
  | some state => f state

def eventInitRoboOne : Program Unit :=
  withInstance fun state => state.pEventInit.call state

def eventInitFailureRoboOne : Program Unit :=
  withInstance fun state => state.pEventInitFailure.call state

def eventTimerExpiryRoboOne : Program Unit :=
  withInstance fun state => state.pEventTimerExpiry.call state

def eventTasksAvailableRoboOne (pTaskReq : RoboOneTaskReq) : Program Unit :=
  withInstance fun state => state.pEventTasksAvailable.call state pTaskReq

def eventNoTasksAvailableRoboOne : Program Unit :=
  withInstance fun state => state.pEventNoTasksAvailable.call state

def eventMainsPowerAvailableRoboOne : Program Unit :=
  withInstance fun state => state.pEventMainsPowerAvailable.call state

-- The source calls the handler of the mains power event here.
def eventInsufficientPowerRoboOne : Program Unit :=
  withInstance fun state => state.pEventMainsPowerAvailable.call state

def eventFullyChargedRoboOne : Program Unit :=
  withInstance fun state => state.pEventFullyCharged.call state

def eventInsufficientChargeRoboOne : Program Unit :=
  withInstance fun state => state.pEventInsufficientCharge.call state

def eventShutdownRoboOne : Program Unit :=
  withInstance fun state => state.pEventShutdown.call state

-- The messages of the server, in the order of the message list.
inductive StateMachineMsg
  | serverNull
  | serverStart
  | serverStop
  | serverGetContext
  | event (e : Event)
deriving DecidableEq

-- The bodies of the responses.
inductive StateMachineCnf
  | serverStart (success : Bool)
  | serverStop (success : Bool)
  | serverGetContext (context : RoboOneState) -- `isValid` is always true
deriving DecidableEq

def actionStateMachineServerStart : Program StateMachineCnf := do
  let pgRoboOneContext ← malloc
  if pgRoboOneContext then
    transitionToInit
    return .serverStart true
  else
    store none
    return .serverStart false

def actionStateMachineServerStop : Program StateMachineCnf := do
  withInstance fun _ => store none
  return .serverStop true

def actionStateMachineServerGetContext : Program (Option StateMachineCnf) := do
  withInstance fun _ => return
  return (← load).map .serverGetContext

def doEvent : Event → Program Unit
  | .init                    => eventInitRoboOne
  | .initFailure             => eventInitFailureRoboOne
  | .timerExpiry             => eventTimerExpiryRoboOne
  | .tasksAvailable pTaskReq => eventTasksAvailableRoboOne pTaskReq
  | .noTasksAvailable        => eventNoTasksAvailableRoboOne
  | .mainsPowerAvailable     => eventMainsPowerAvailableRoboOne
  | .insufficientPower       => eventInsufficientPowerRoboOne
  | .fullyCharged            => eventFullyChargedRoboOne
  | .insufficientCharge      => eventInsufficientChargeRoboOne
  | .shutdown                => eventShutdownRoboOne

-- The return code, and the response if there is one.
def doAction : StateMachineMsg → Program (ServerReturnCode × Option StateMachineCnf)
  | .serverNull       => do
    assert false
    return (.successKeepRunning, none)
  | .serverStart      => return (.successKeepRunning, some (← actionStateMachineServerStart))
  | .serverStop       => return (.exitNormally, some (← actionStateMachineServerStop))
  | .serverGetContext => return (.successKeepRunning, ← actionStateMachineServerGetContext)
  | .event e          => do
    doEvent e
    return (.successKeepRunning, none)

-- A run of the server takes the messages one after the other.
abbrev step (env : Environment Call.Answer) (w : World Call.Answer (Option RoboOneState))
    (m : StateMachineMsg) : Option (World Call.Answer (Option RoboOneState)) :=
  exec (doAction m) env w

end RoboOne.StateMachine
