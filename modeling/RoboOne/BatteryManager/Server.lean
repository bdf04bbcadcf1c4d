import Mathlib.Data.Rat.Defs
import Mathlib.Logic.Function.Basic
import RoboOne.Hardware.Msgs
import RoboOne.Library.Transition
import RoboOne.Timer.Client

namespace RoboOne.BatteryManager

open Messaging Hardware

def minimumChargeChargingPermitted : UInt16 := 2000

def minimumChargeChargingNotPermitted : UInt16 := 1800

def fullCharge : Nat := 2150

def chargeHysteresis : Nat := 100

def maximumTemperatureC : ℚ := 60

def temperatureBrokenC : ℚ := -20

def temperatureHysteresisC : ℚ := 10

def maxLenHardwareMsgQ : Nat := 20

def sendMsgOffsetDurationDeciseconds : UInt32 := 20

def batteryManagerServerPort : UInt16 := 5232

-- The message types of the server, in the order of the message list.
inductive BatteryManagerMsgType
  | serverStart
  | serverStop
  | dataRio
  | dataO1
  | dataO2
  | dataO3
  | chargingPermitted
  | timerExpiry
deriving DecidableEq

-- The two messages with which the server talks to the state machine.
inductive StateMachineEvent
  | insufficientCharge
  | fullyCharged
deriving DecidableEq

-- The batteries, and so the four `gBatteryDataContainer` globals.
inductive Battery
  | rio
  | o1
  | o2
  | o3
deriving DecidableEq

instance {p : Battery → Prop} [DecidablePred p] : Decidable (∀ b, p b) :=
  decidable_of_iff (p .rio ∧ p .o1 ∧ p .o2 ∧ p .o3)
    ⟨fun ⟨h₀, h₁, h₂, h₃⟩ b => by cases b <;> assumption, fun h => ⟨h _, h _, h _, h _⟩⟩

structure BatteryData where
  current           : Int16
  voltage           : UInt16
  remainingCapacity : UInt16
  chargeDischarge   : HardwareChargeDischarge
  temperature       : ℚ
deriving DecidableEq

structure BatteryStatus where
  fullyCharged       : Bool
  insufficientCharge : Bool
  chargerOn          : Bool
  overTemperature    : Bool
  temperatureBroken  : Bool
deriving DecidableEq

structure BatteryContainerData where
  updated       : Bool
  batteryStatus : BatteryStatus
  batteryData   : BatteryData
deriving DecidableEq

-- `memset (&gBatteryDataContainer, false, sizeof (gBatteryDataContainer))`.
def BatteryContainerData.zero : BatteryContainerData where
  updated       := false
  batteryStatus := ⟨false, false, false, false, false⟩
  batteryData   := ⟨0, 0, 0, ⟨0, 0⟩, 0⟩

-- The values that `gInsufficientChargeThreshold` is ever given.
structure InsufficientChargeThreshold where
  value  : UInt16
  either : value = minimumChargeChargingPermitted ∨ value = minimumChargeChargingNotPermitted
deriving DecidableEq

-- `gHardwareMsgQ` up to `gHardwareMsgQLen`. There is no room for more messages than the array has.
@[ext]
structure HardwareMsgQ where
  msgs        : List HardwareMsgType
  length_msgs : msgs.length ≤ maxLenHardwareMsgQ
deriving DecidableEq

namespace HardwareMsgQ

def empty : HardwareMsgQ where
  msgs        := []
  length_msgs := by simp

-- Puts a message behind the last one. The ASSERT of the source fails if there is no room.
def push (q : HardwareMsgQ) (m : HardwareMsgType) : Option HardwareMsgQ :=
  if h : q.msgs.length < maxLenHardwareMsgQ then
    some ⟨q.msgs ++ [m], by rw [List.length_append]; exact h⟩
  else
    none

-- Decrements `gHardwareMsgQLen`.
def dropLast (q : HardwareMsgQ) : HardwareMsgQ where
  msgs        := q.msgs.dropLast
  length_msgs := by
    have := q.length_msgs
    simp only [List.length_dropLast]
    omega

end HardwareMsgQ

-- What the server does that others can see, plus a record of the calls to `sendMsgOffset`, which the
-- code itself does not keep.
inductive Event
  | sendMsgOffset (m : HardwareMsgType)
  | hardwareServerSendReceive (m : HardwareMsgType)
  | sendStartTimer (expiryDeciSeconds : UInt32) (id : UInt8) (sourcePort : UInt16) (msg : ShortMsg)
  | stateMachineServerSendReceive (e : StateMachineEvent)
deriving DecidableEq

structure State where
  gChargingPermitted           : Bool
  gAllFullyCharged             : Bool
  gAllInsufficientCharge       : Bool
  gInsufficientChargeThreshold : InsufficientChargeThreshold
  gBatteryDataContainer        : Battery → BatteryContainerData
  gHardwareMsgQ                : HardwareMsgQ
  gThisServerPort              : UInt16
  gTimerExpiryMsg              : ShortMsg
  gTimerRunning                : Bool
  trace                        : List Event -- since the server was started, oldest first
  timers                       : Nat        -- timers at the timer server that have not expired yet

namespace State

def data (s : State) (b : Battery) : BatteryData :=
  s.gBatteryDataContainer b |>.batteryData

def status (s : State) (b : Battery) : BatteryStatus :=
  s.gBatteryDataContainer b |>.batteryStatus

def setStatus (s : State) (b : Battery) (st : BatteryStatus) : State :=
  { s with
    gBatteryDataContainer := Function.update s.gBatteryDataContainer b
      { s.gBatteryDataContainer b with batteryStatus := st } }

-- `gBatteryDataContainer.updated = true`, and the `memcpy` of the data.
def setData (s : State) (b : Battery) (d : BatteryData) : State :=
  { s with
    gBatteryDataContainer := Function.update s.gBatteryDataContainer b
      { s.gBatteryDataContainer b with updated := true, batteryData := d } }

def record (s : State) (e : Event) : State :=
  { s with trace := s.trace ++ [e] }

end State

def stateMachineServerSendReceive (e : StateMachineEvent) (s : State) : State :=
  s.record (.stateMachineServerSendReceive e)

def hardwareServerSendReceive (m : HardwareMsgType) (s : State) : State :=
  s.record (.hardwareServerSendReceive m)

def sendStartTimer (m : HardwareMsgType) (s : State) : State :=
  { s.record (.sendStartTimer sendMsgOffsetDurationDeciseconds m.toUInt8 s.gThisServerPort
      s.gTimerExpiryMsg) with timers := s.timers + 1 }

def signalInsufficientCharge (s : State) : State :=
  let capacity b := (s.data b).remainingCapacity.toNat
  let sufficient := s.gInsufficientChargeThreshold.value.toNat + chargeHysteresis
  if !s.gAllInsufficientCharge then
    if (s.status .rio).insufficientCharge || (s.status .o1).insufficientCharge ||
        (s.status .o2).insufficientCharge || (s.status .o3).insufficientCharge then
      stateMachineServerSendReceive .insufficientCharge { s with gAllInsufficientCharge := true }
    else
      s
  else if capacity .rio > sufficient || capacity .o1 > sufficient || capacity .o2 > sufficient ||
      capacity .o3 > sufficient then
    { s with gAllInsufficientCharge := false }
  else
    s

def signalFullyCharged (s : State) : State :=
  let capacity b := (s.data b).remainingCapacity.toNat
  if !s.gAllFullyCharged then
    if capacity .rio > fullCharge && capacity .o1 > fullCharge && capacity .o2 > fullCharge &&
        capacity .o3 > fullCharge then
      stateMachineServerSendReceive .fullyCharged { s with gAllFullyCharged := true }
    else
      s
  else if capacity .rio < fullCharge - chargeHysteresis ||
      capacity .o1 < fullCharge - chargeHysteresis ||
      capacity .o2 < fullCharge - chargeHysteresis ||
      capacity .o3 < fullCharge - chargeHysteresis then
    { s with gAllFullyCharged := false }
  else
    s

-- The two halves of the function are independent `if` statements.
def signalChargeStateAll (s : State) : State :=
  signalFullyCharged (signalInsufficientCharge s)

-- The part of `setChargerStatus` that latches `insufficientCharge`.
def checkInsufficientCharge (b : Battery) (s : State) : State :=
  let capacity := (s.data b).remainingCapacity.toNat
  if !(s.status b).insufficientCharge then
    if capacity < s.gInsufficientChargeThreshold.value.toNat then
      s.setStatus b { s.status b with insufficientCharge := true, chargerOn := true }
    else
      s
  else if capacity > s.gInsufficientChargeThreshold.value.toNat + chargeHysteresis then
    s.setStatus b { s.status b with insufficientCharge := false }
  else
    s

-- The part of `setChargerStatus` that latches `fullyCharged`.
def checkFullyCharged (b : Battery) (s : State) : State :=
  let capacity := (s.data b).remainingCapacity.toNat
  if !(s.status b).fullyCharged then
    if capacity > fullCharge then
      s.setStatus b { s.status b with fullyCharged := true, chargerOn := false }
    else
      s
  else if capacity < fullCharge - chargeHysteresis then
    -- Whatever the battery, the source clears the flag in `gBatteryDataContainerRio`.
    s.setStatus .rio { s.status .rio with fullyCharged := false }
  else
    s

-- The Boolean which the source returns is `chargerOn` of the battery in the state returned here.
def setChargerStatus (b : Battery) (s : State) : State :=
  let temperature := (s.data b).temperature
  if !(s.status b).overTemperature then
    if temperature > maximumTemperatureC then
      s.setStatus b { s.status b with overTemperature := true, chargerOn := false }
    else if !(s.status b).temperatureBroken then
      if temperature < temperatureBrokenC then
        s.setStatus b { s.status b with temperatureBroken := true, chargerOn := false }
      else
        checkFullyCharged b (checkInsufficientCharge b s)
    else if temperature > temperatureBrokenC + temperatureHysteresisC then
      s.setStatus b { s.status b with temperatureBroken := false }
    else
      s
  else if temperature < maximumTemperatureC - temperatureHysteresisC then
    s.setStatus b { s.status b with overTemperature := false }
  else
    s

-- The ASSERT on the length of the queue ends the process, which is `none` here and below.
def sendMsgOffset (m : HardwareMsgType) (s : State) : Option State :=
  let s := s.record (.sendMsgOffset m)
  if !s.gTimerRunning then
    some { sendStartTimer m (hardwareServerSendReceive m s) with gTimerRunning := true }
  else
    (s.gHardwareMsgQ.push m).map ({ s with gHardwareMsgQ := · })

-- The common text of `setRioChargerStatus`, `setO1ChargerStatus`, `setO2ChargerStatus` and
-- `setO3ChargerStatus`.
def setBatteryChargerStatus (b : Battery) (on off : HardwareMsgType) (forceSendMsg : Bool)
    (s : State) : Option State :=
  let previouslyOn := (s.status b).chargerOn
  let s := setChargerStatus b s
  if (s.status b).chargerOn then
    if s.gChargingPermitted then
      if !previouslyOn || forceSendMsg then sendMsgOffset on s else some s
    else
      some s
  else
    if previouslyOn || forceSendMsg then sendMsgOffset off s else some s

def setRioChargerStatus : Bool → State → Option State :=
  setBatteryChargerStatus .rio .setRioBatteryChargerOn .setRioBatteryChargerOff

def setO1ChargerStatus : Bool → State → Option State :=
  setBatteryChargerStatus .o1 .setO1BatteryChargerOn .setO1BatteryChargerOff

def setO2ChargerStatus : Bool → State → Option State :=
  setBatteryChargerStatus .o2 .setO2BatteryChargerOn .setO2BatteryChargerOff

def setO3ChargerStatus : Bool → State → Option State :=
  setBatteryChargerStatus .o3 .setO3BatteryChargerOn .setO3BatteryChargerOff

-- `gInsufficientChargeThreshold` is the one global that the start leaves as it is.
def actionBatteryManagerServerStart (s : State) : State :=
  { s with
    gChargingPermitted     := false
    gAllFullyCharged       := false
    gAllInsufficientCharge := false
    gHardwareMsgQ          := .empty
    gThisServerPort        := batteryManagerServerPort
    gTimerRunning          := false
    gBatteryDataContainer  := fun _ => .zero
    gTimerExpiryMsg        := Timer.createTimerExpiryMsg s.gTimerExpiryMsg
      (.ofNat BatteryManagerMsgType.timerExpiry.ctorIdx) [] (Nat.zero_le _) }

-- One case of the switch in `actionBatteryManagerData`. The second component is `*pStatus`.
def batteryManagerData (b : Battery) (setStatus : Bool → State → Option State) (d : BatteryData)
    (s : State) : Option (State × BatteryStatus) := do
  let s ← setStatus false (s.setData b d)
  return (signalChargeStateAll s, s.status b)

def actionBatteryManagerData : Battery → BatteryData → State → Option (State × BatteryStatus)
  | .rio => batteryManagerData .rio setRioChargerStatus
  | .o1  => batteryManagerData .o1 setO1ChargerStatus
  | .o2  => batteryManagerData .o2 setO2ChargerStatus
  | .o3  => batteryManagerData .o3 setO3ChargerStatus

-- The commands that `actionBatteryManagerChargingPermitted` issues when permission is withdrawn.
def sendChargersOff (s : State) : Option State := do
  let s ← sendMsgOffset .setRioBatteryChargerOff s
  let s ← sendMsgOffset .setO1BatteryChargerOff s
  let s ← sendMsgOffset .setO2BatteryChargerOff s
  sendMsgOffset .setO3BatteryChargerOff s

-- The calls that `actionBatteryManagerChargingPermitted` makes for the four batteries at its end.
def setAllChargerStatus (forceSendMsg : Bool) (s : State) : Option State := do
  let s ← setRioChargerStatus forceSendMsg s
  let s ← setO1ChargerStatus forceSendMsg s
  let s ← setO2ChargerStatus forceSendMsg s
  setO3ChargerStatus forceSendMsg s

def actionBatteryManagerChargingPermitted (isPermitted : Bool) (s : State) : Option State := do
  let s := { s with
    gInsufficientChargeThreshold :=
      if isPermitted then
        ⟨minimumChargeChargingPermitted, .inl rfl⟩
      else
        ⟨minimumChargeChargingNotPermitted, .inr rfl⟩ }
  let wasPermitted := s.gChargingPermitted
  let s ← (if wasPermitted && !isPermitted then sendChargersOff s else some s : Option State)
  let justSwitchedToPermitted := !wasPermitted && isPermitted
  let s ← setAllChargerStatus justSwitchedToPermitted { s with gChargingPermitted := isPermitted }
  return signalChargeStateAll s

-- The source sends `gHardwareMsgQ[gHardwareMsgQLen - 1]`, the message that was queued last.
def actionBatteryManagerTimerExpiry (s : State) : State :=
  let s := { s with gTimerRunning := false }
  match s.gHardwareMsgQ.msgs.getLast? with
  | none   => s
  | some m =>
    let s := hardwareServerSendReceive m s
    let s := { s with gHardwareMsgQ := s.gHardwareMsgQ.dropLast }
    match s.gHardwareMsgQ.msgs.getLast? with
    | none    => s
    | some m' => { sendStartTimer m' s with gTimerRunning := true }

-- The messages that arrive while the server runs.
inductive Input
  | data (b : Battery) (d : BatteryData)
  | chargingPermitted (isPermitted : Bool)
  | timerExpiry
deriving DecidableEq

def doAction : Input → State → Option State
  | .data b d,             s => (actionBatteryManagerData b d s).map Prod.fst
  | .chargingPermitted ok, s => actionBatteryManagerChargingPermitted ok s
  | .timerExpiry,          s => some (actionBatteryManagerTimerExpiry s)

-- An expiry message arrives only from a timer that was started and has not expired yet.
def Arrives (s : State) : Input → Bool
  | .timerExpiry => 0 < s.timers
  | _            => true

def expire (s : State) : Input → State
  | .timerExpiry => { s with timers := s.timers - 1 }
  | _            => s

-- A step of the server together with the timer that it uses.
def step (s : State) (i : Input) : Option State :=
  if Arrives s i then doAction i (expire s i) else none

theorem step_eq_some_iff {s s' : State} {i : Input} :
    step s i = some s' ↔ Arrives s i ∧ doAction i (expire s i) = some s' :=
  Option.ite_none_right_eq_some

-- The static initialisers of the globals.
def boot : State where
  gChargingPermitted           := false
  gAllFullyCharged             := false
  gAllInsufficientCharge       := false
  gInsufficientChargeThreshold := ⟨minimumChargeChargingNotPermitted, .inr rfl⟩
  gBatteryDataContainer        := fun _ => .zero
  gHardwareMsgQ                := .empty
  gThisServerPort              := 0
  gTimerExpiryMsg              := .zero
  gTimerRunning                := false
  trace                        := []
  timers                       := 0

-- The state left by `BATTERY_MANAGER_SERVER_START`, in whatever state the server was before.
def started (s : State) : State :=
  { actionBatteryManagerServerStart s with trace := [], timers := 0 }

end RoboOne.BatteryManager
