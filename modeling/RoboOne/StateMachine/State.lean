import Mathlib.Data.List.Basic

namespace RoboOne.StateMachine

-- The bytes of a task request, which the state machine passes on as they are.
structure RoboOneTaskReq where
  bytes : List UInt8
deriving DecidableEq

-- The STATE_MACHINE_EVENT_x messages, in the order of the message list.
inductive Event
  | init
  | initFailure
  | timerExpiry
  | tasksAvailable (taskReq : RoboOneTaskReq)
  | noTasksAvailable
  | mainsPowerAvailable
  | insufficientPower
  | fullyCharged
  | insufficientCharge
  | shutdown
deriving DecidableEq

-- What a `void (*) (RoboOneState *)` of a state points to.
inductive Handler
  | defaultEventInit
  | defaultEventInitFailure
  | defaultEventTimerExpiry
  | defaultEventNoTasksAvailable
  | defaultEventMainsPowerAvailable
  | defaultEventInsufficientPower
  | defaultEventFullyCharged
  | defaultEventInsufficientCharge
  | defaultEventShutdown
  | transitionToInit
  | transitionToBatteryIdle
  | transitionToDocked
  | transitionToDocked_Charging
  | transitionToDocked_MainsIdle
  | transitionToShutdown
deriving DecidableEq

-- What a `void (*) (RoboOneState *, RoboOneTaskReq *)` of a state points to.
inductive TasksHandler
  | defaultEventTasksAvailable
  | transitionToMobile
  | eventTasksAvailable
deriving DecidableEq

structure RoboOneState where
  name                      : String
  pEventInit                : Handler
  pEventInitFailure         : Handler
  pEventTimerExpiry         : Handler
  pEventTasksAvailable      : TasksHandler
  pEventNoTasksAvailable    : Handler
  pEventMainsPowerAvailable : Handler
  pEventInsufficientPower   : Handler
  pEventFullyCharged        : Handler
  pEventInsufficientCharge  : Handler
  pEventShutdown            : Handler
deriving DecidableEq

-- Together with the `memcpy` of the name that follows all calls of the function.
def defaultImplementation (name : String) : RoboOneState where
  name                      := name
  pEventInit                := .defaultEventInit
  pEventInitFailure         := .defaultEventInitFailure
  pEventTimerExpiry         := .defaultEventTimerExpiry
  pEventTasksAvailable      := .defaultEventTasksAvailable
  pEventNoTasksAvailable    := .defaultEventNoTasksAvailable
  pEventMainsPowerAvailable := .defaultEventMainsPowerAvailable
  pEventInsufficientPower   := .defaultEventInsufficientPower
  pEventFullyCharged        := .defaultEventFullyCharged
  pEventInsufficientCharge  := .defaultEventInsufficientCharge
  pEventShutdown            := .defaultEventShutdown

namespace RoboOneState

-- What the transition functions make of the state before they do the entry actions.
def init : RoboOneState :=
  { defaultImplementation "Init" with
    pEventInitFailure         := .transitionToShutdown
    pEventTimerExpiry         := .transitionToBatteryIdle
    pEventTasksAvailable      := .transitionToMobile
    pEventMainsPowerAvailable := .transitionToDocked
    pEventInsufficientPower   := .transitionToShutdown
    pEventShutdown            := .transitionToShutdown }

def batteryIdle : RoboOneState :=
  { defaultImplementation "BatteryIdle" with
    pEventTasksAvailable      := .transitionToMobile
    pEventMainsPowerAvailable := .transitionToDocked
    pEventInsufficientPower   := .transitionToShutdown
    pEventShutdown            := .transitionToShutdown }

def docked : RoboOneState :=
  { defaultImplementation "Docked" with
    pEventTasksAvailable      := .transitionToMobile
    pEventInsufficientPower   := .transitionToShutdown
    pEventShutdown            := .transitionToShutdown
    pEventFullyCharged        := .transitionToDocked_MainsIdle
    pEventInsufficientCharge  := .transitionToDocked_Charging }

def dockedCharging : RoboOneState :=
  { defaultImplementation "Docked - Charging" with
    pEventInsufficientPower   := .transitionToShutdown
    pEventShutdown            := .transitionToShutdown
    pEventFullyCharged        := .transitionToDocked_MainsIdle }

def dockedMainsIdle : RoboOneState :=
  { defaultImplementation "Docked - MainsIdle" with
    pEventTasksAvailable      := .transitionToMobile
    pEventInsufficientPower   := .transitionToShutdown
    pEventShutdown            := .transitionToShutdown
    pEventInsufficientCharge  := .transitionToDocked_Charging }

def mobile : RoboOneState :=
  { defaultImplementation "Mobile" with
    pEventInitFailure         := .transitionToInit
    pEventTasksAvailable      := .eventTasksAvailable
    pEventNoTasksAvailable    := .transitionToBatteryIdle
    pEventMainsPowerAvailable := .transitionToDocked
    pEventShutdown            := .transitionToShutdown }

def shutdown : RoboOneState :=
  defaultImplementation "Shutdown"

end RoboOneState

end RoboOne.StateMachine
