import RoboOne.Shared.Strings
import RoboOne.Hardware.Msgs
import RoboOne.Hardware.Orangutan

namespace RoboOne.Hardware

open Messaging Bytes Shared

-- The functions of `ow_bus.c` that return success and nothing else.
inductive SetFunction
  | toggleOPwr
  | toggleORst
  | togglePiRst
  | setRioPwr12VOn
  | setRioPwr12VOff
  | setRioPwrBattOn
  | setRioPwrBattOff
  | setOPwr12VOn
  | setOPwr12VOff
  | setOPwrBattOn
  | setOPwrBattOff
  | setRioBatteryChargerOn
  | setRioBatteryChargerOff
  | setO1BatteryChargerOn
  | setO1BatteryChargerOff
  | setO2BatteryChargerOn
  | setO2BatteryChargerOff
  | setO3BatteryChargerOn
  | setO3BatteryChargerOff
  | setAllBatteryChargersOn
  | setAllBatteryChargersOff
  | setAllOChargersOn
  | setAllOChargersOff
  | disableOnPCBRelays
  | enableOnPCBRelays
  | disableExternalRelays
  | enableExternalRelays
  | performCalAllBatteryMonitors
  | performCalRioBatteryMonitor
  | performCalO1BatteryMonitor
  | performCalO2BatteryMonitor
  | performCalO3BatteryMonitor
deriving DecidableEq

-- Those that read a `Bool`.
inductive ReadBoolFunction
  | readMains12VPin
  | readOPwr
  | readORst
  | readRioPwr12V
  | readRioPwrBatt
  | readOPwr12V
  | readOPwrBatt
  | readRioBatteryCharger
  | readO1BatteryCharger
  | readO2BatteryCharger
  | readO3BatteryCharger
  | readExternalRelaysEnabled
  | readOnPCBRelaysEnabled
deriving DecidableEq

-- The chargers and the batteries of the system.
inductive Charger
  | rio
  | o1
  | o2
  | o3
deriving DecidableEq

-- `ChargeState` is an enumeration in four bytes.
structure HardwareChargeState where
  flashDetectPossible : Bool
  state               : Charger → UInt32

-- What the functions come to that the server calls. A function that reads returns success, and the
-- value that is at its pointer afterwards. A temperature is the memory of a `double`.
structure OwBus where
  startOneWireBus                 : Bool
  setupDevices                    : (batteriesOnly : Bool) → Bool
  readChargerStatePins            : Bool × UInt8
  readChargerState                : Bool × HardwareChargeState
  set                             : SetFunction → Bool
  readBool                        : ReadBoolFunction → Bool × Bool
  readGeneralPurposeIOs           : Bool × UInt8
  readBattCurrent                 : Charger → Bool × Int16
  readBattVoltage                 : Charger → Bool × UInt16
  readRemainingCapacity           : Charger → Bool × UInt16
  readBattLifetimeChargeDischarge : Charger → Bool × HardwareChargeDischarge
  swapBattery                     : Charger → (systemTime : UInt32) →
    (remainingCapacity : UInt16) → Bool
  readBattTemperature             : Charger → Bool × UInt64
  orangutan                       : Orangutan

-- The memory of the structures, which are packed.
def HardwareChargeState.bytes (s : HardwareChargeState) : List UInt8 :=
  s.flashDetectPossible.toUInt8 ::
    [Charger.rio, .o1, .o2, .o3].flatMap fun charger => leBytes 4 (s.state charger).toNat

def HardwareChargeDischarge.bytes (c : HardwareChargeDischarge) : List UInt8 :=
  leBytes 4 c.charge.toNat ++ leBytes 4 c.discharge.toNat

section

variable (bus : OwBus)

-- The actions return what they put at the start of the body; its length is what they return in the
-- source. The result is `none` where they run into the ASSERT of their default case.
def actionHardwareServerStart (batteriesOnly : Bool) : List UInt8 :=
  [(bus.startOneWireBus && bus.setupDevices batteriesOnly).toUInt8]

def actionHardwareServerStop : List UInt8 :=
  [true.toUInt8]

def actionReadChargerStatePins : List UInt8 :=
  let (success, pinsState) := bus.readChargerStatePins
  [success.toUInt8, pinsState]

def actionReadChargerState : List UInt8 :=
  let (success, chargeState) := bus.readChargerState
  success.toUInt8 :: chargeState.bytes

-- `performCalO3BatteryMonitor` is called as well, but there is no `break` behind it.
def actionSetBool (msgType : HardwareMsgType) : Option (List UInt8) :=
  let success : Option Bool :=
    match msgType with
    | .toggleOPwr                   => some (bus.set .toggleOPwr)
    | .toggleORst                   => some (bus.set .toggleORst)
    | .togglePiRst                  => some (bus.set .togglePiRst)
    | .setRioPwr12VOn               => some (bus.set .setRioPwr12VOn)
    | .setRioPwr12VOff              => some (bus.set .setRioPwr12VOff)
    | .setRioPwrBattOn              => some (bus.set .setRioPwrBattOn)
    | .setRioPwrBattOff             => some (bus.set .setRioPwrBattOff)
    | .setOPwr12VOn                 => some (bus.set .setOPwr12VOn)
    | .setOPwr12VOff                => some (bus.set .setOPwr12VOff)
    | .setOPwrBattOn                => some (bus.set .setOPwrBattOn)
    | .setOPwrBattOff               => some (bus.set .setOPwrBattOff)
    | .setRioBatteryChargerOn       => some (bus.set .setRioBatteryChargerOn)
    | .setRioBatteryChargerOff      => some (bus.set .setRioBatteryChargerOff)
    | .setO1BatteryChargerOn        => some (bus.set .setO1BatteryChargerOn)
    | .setO1BatteryChargerOff       => some (bus.set .setO1BatteryChargerOff)
    | .setO2BatteryChargerOn        => some (bus.set .setO2BatteryChargerOn)
    | .setO2BatteryChargerOff       => some (bus.set .setO2BatteryChargerOff)
    | .setO3BatteryChargerOn        => some (bus.set .setO3BatteryChargerOn)
    | .setO3BatteryChargerOff       => some (bus.set .setO3BatteryChargerOff)
    | .setAllBatteryChargersOn      => some (bus.set .setAllBatteryChargersOn)
    | .setAllBatteryChargersOff     => some (bus.set .setAllBatteryChargersOff)
    | .disableOnPCBRelays           => some (bus.set .disableOnPCBRelays)
    | .enableOnPCBRelays            => some (bus.set .enableOnPCBRelays)
    | .disableExternalRelays        => some (bus.set .disableExternalRelays)
    | .enableExternalRelays         => some (bus.set .enableExternalRelays)
    | .performCalAllBatteryMonitors => some (bus.set .performCalAllBatteryMonitors)
    | .performCalRioBatteryMonitor  => some (bus.set .performCalRioBatteryMonitor)
    | .performCalO1BatteryMonitor   => some (bus.set .performCalO1BatteryMonitor)
    | .performCalO2BatteryMonitor   => some (bus.set .performCalO2BatteryMonitor)
    | _                             => none
  success.map fun success => [success.toUInt8]

def actionReadBool (msgType : HardwareMsgType) : Option (List UInt8) :=
  let read : Option (Bool × Bool) :=
    match msgType with
    | .readMains12V              => some (bus.readBool .readMains12VPin)
    | .readOPwr                  => some (bus.readBool .readOPwr)
    | .readORst                  => some (bus.readBool .readORst)
    | .readRioPwr12V             => some (bus.readBool .readRioPwr12V)
    | .readRioPwrBatt            => some (bus.readBool .readRioPwrBatt)
    | .readOPwr12V               => some (bus.readBool .readOPwr12V)
    | .readOPwrBatt              => some (bus.readBool .readOPwrBatt)
    | .readRioBatteryCharger     => some (bus.readBool .readRioBatteryCharger)
    | .readO1BatteryCharger      => some (bus.readBool .readO1BatteryCharger)
    | .readO2BatteryCharger      => some (bus.readBool .readO2BatteryCharger)
    | .readO3BatteryCharger      => some (bus.readBool .readO3BatteryCharger)
    | .readExternalRelaysEnabled => some (bus.readBool .readExternalRelaysEnabled)
    | .readOnPCBRelaysEnabled    => some (bus.readBool .readOnPCBRelaysEnabled)
    | _                          => none
  read.map fun (success, isOn) => [success.toUInt8, isOn.toUInt8]

def actionReadGeneralPurposeIOs : List UInt8 :=
  let (success, pinsState) := bus.readGeneralPurposeIOs
  [success.toUInt8, pinsState]

def actionReadCurrent (msgType : HardwareMsgType) : Option (List UInt8) :=
  let read :=
    match msgType with
    | .readRioBattCurrent => some (bus.readBattCurrent .rio)
    | .readO1BattCurrent  => some (bus.readBattCurrent .o1)
    | .readO2BattCurrent  => some (bus.readBattCurrent .o2)
    | .readO3BattCurrent  => some (bus.readBattCurrent .o3)
    | _                   => none
  read.map fun (success, current) => success.toUInt8 :: leBytes 2 current.toUInt16.toNat

def actionReadVoltage (msgType : HardwareMsgType) : Option (List UInt8) :=
  let read :=
    match msgType with
    | .readRioBattVoltage => some (bus.readBattVoltage .rio)
    | .readO1BattVoltage  => some (bus.readBattVoltage .o1)
    | .readO2BattVoltage  => some (bus.readBattVoltage .o2)
    | .readO3BattVoltage  => some (bus.readBattVoltage .o3)
    | _                   => none
  read.map fun (success, voltage) => success.toUInt8 :: leBytes 2 voltage.toNat

def actionReadRemainingCapacity (msgType : HardwareMsgType) : Option (List UInt8) :=
  let read :=
    match msgType with
    | .readRioRemainingCapacity => some (bus.readRemainingCapacity .rio)
    | .readO1RemainingCapacity  => some (bus.readRemainingCapacity .o1)
    | .readO2RemainingCapacity  => some (bus.readRemainingCapacity .o2)
    | .readO3RemainingCapacity  => some (bus.readRemainingCapacity .o3)
    | _                         => none
  read.map fun (success, remainingCapacity) => success.toUInt8 :: leBytes 2 remainingCapacity.toNat

def actionReadChargeDischarge (msgType : HardwareMsgType) : Option (List UInt8) :=
  let read :=
    match msgType with
    | .readRioBattLifetimeChargeDischarge => some (bus.readBattLifetimeChargeDischarge .rio)
    | .readO1BattLifetimeChargeDischarge  => some (bus.readBattLifetimeChargeDischarge .o1)
    | .readO2BattLifetimeChargeDischarge  => some (bus.readBattLifetimeChargeDischarge .o2)
    | .readO3BattLifetimeChargeDischarge  => some (bus.readBattLifetimeChargeDischarge .o3)
    | _                                   => none
  read.map fun (success, chargeDischarge) => success.toUInt8 :: chargeDischarge.bytes

-- `HardwareBatterySwapData` has four bytes of time and two of capacity.
def actionSwapBattery (msgType : HardwareMsgType) (pReceivedMsgBody : List UInt8) :
    Option (List UInt8) :=
  let systemTime := .ofNat (leValue (pReceivedMsgBody.take 4))
  let remainingCapacity := .ofNat (leValue ((pReceivedMsgBody.drop 4).take 2))
  let success :=
    match msgType with
    | .swapRioBattery => some (bus.swapBattery .rio systemTime remainingCapacity)
    | .swapO1Battery  => some (bus.swapBattery .o1 systemTime remainingCapacity)
    | .swapO2Battery  => some (bus.swapBattery .o2 systemTime remainingCapacity)
    | .swapO3Battery  => some (bus.swapBattery .o3 systemTime remainingCapacity)
    | _               => none
  success.map fun success => [success.toUInt8]

def actionReadTemperature (msgType : HardwareMsgType) : Option (List UInt8) :=
  let read :=
    match msgType with
    | .readRioBattTemperature => some (bus.readBattTemperature .rio)
    | .readO1BattTemperature  => some (bus.readBattTemperature .o1)
    | .readO2BattTemperature  => some (bus.readBattTemperature .o2)
    | .readO3BattTemperature  => some (bus.readBattTemperature .o3)
    | _                       => none
  read.map fun (success, temperature) => success.toUInt8 :: leBytes 8 temperature.toNat

end

-- Where `HardwareSendOStringCnf` has its members, behind `success`.
def offsetToString : Nat := offsetToMsgBody + sizeOfBool

def offsetToStringLength : Nat := offsetToString + maxOStringLength

-- The length that it returns, and the message. What `sendStringToOrangutan` does not set keeps its
-- value, so the length stays that of the string array if a response was wanted and none came. The result
-- is `none` where a string that is to be printed does not fit into `displayBuffer`.
def actionSendOString (orangutan : Orangutan) (pInputString : List UInt8) (waitForResponse : Bool)
    (pSendMsg : Msg) : Option (Nat × Msg) := do
  let _ ← removeCtrlCharacters pInputString maxOStringLength
  let stringLength := if waitForResponse then maxOStringLength else 0
  let pSendMsg := pSendMsg.writeAt offsetToStringLength (leBytes 4 stringLength)
  let (success, response) := orangutan.sendStringToOrangutan pInputString
    (if waitForResponse then some stringLength else none)
  let (stringLength, pSendMsg) :=
    match response with
    | none          => (stringLength, pSendMsg)
    | some response => (response.length, (pSendMsg.writeAt offsetToString response).writeAt
        offsetToStringLength (leBytes 4 response.length))
  let pSendMsg := pSendMsg.writeAt offsetToMsgBody [success.toUInt8]
  let displayed :=
    if success && waitForResponse then
      removeCtrlCharacters (pSendMsg.msgBody.drop sizeOfBool) maxOStringLength
    else
      some []
  let _ ← displayed
  return (sizeOfBool + stringLength + 4, pSendMsg)

-- `pSendMsg->msgLength += action (...)`, for the actions that write at the start of the body.
def putCnf (pSendMsg : Msg) (cnf : List UInt8) : Msg :=
  (pSendMsg.writeAt offsetToMsgBody cnf).addLength cnf.length

-- At `pReceivedMsgBody` there is the body of the message, and behind it the rest of the memory that it was
-- received into. The result is `none` if an ASSERT fails, or if memory is overrun.
def doAction (bus : OwBus) (receivedMsgType : HardwareMsgType) (pReceivedMsgBody : List UInt8)
    (pSendMsg : Msg) : Option (ServerReturnCode × Msg) :=
  let pSendMsg := pSendMsg.begin receivedMsgType.toUInt8
  let keepRunning (cnf : Option (List UInt8)) : Option (ServerReturnCode × Msg) :=
    cnf.map fun cnf => (.successKeepRunning, putCnf pSendMsg cnf)
  match receivedMsgType with
  | .serverStart =>
    let batteriesOnly := pReceivedMsgBody.headD 0 ≠ 0
    keepRunning (actionHardwareServerStart bus batteriesOnly)
  | .serverStop =>
    some (.exitNormally, putCnf pSendMsg actionHardwareServerStop)
  | .readChargerStatePins =>
    keepRunning (actionReadChargerStatePins bus)
  | .readChargerState =>
    keepRunning (actionReadChargerState bus)
  | .readMains12V | .readOPwr | .readORst | .readRioPwr12V | .readRioPwrBatt | .readOPwr12V
  | .readOPwrBatt | .readRioBatteryCharger | .readO1BatteryCharger | .readO2BatteryCharger
  | .readO3BatteryCharger | .readOnPCBRelaysEnabled | .readExternalRelaysEnabled =>
    keepRunning (actionReadBool bus receivedMsgType)
  | .toggleOPwr | .toggleORst | .togglePiRst | .setRioPwr12VOn | .setRioPwr12VOff
  | .setRioPwrBattOn | .setRioPwrBattOff | .setOPwr12VOn | .setOPwr12VOff | .setOPwrBattOn
  | .setOPwrBattOff | .setRioBatteryChargerOn | .setRioBatteryChargerOff | .setO1BatteryChargerOn
  | .setO1BatteryChargerOff | .setO2BatteryChargerOn | .setO2BatteryChargerOff
  | .setO3BatteryChargerOn | .setO3BatteryChargerOff | .setAllBatteryChargersOn
  | .setAllBatteryChargersOff | .disableOnPCBRelays | .enableOnPCBRelays | .disableExternalRelays
  | .enableExternalRelays | .performCalAllBatteryMonitors | .performCalRioBatteryMonitor
  | .performCalO1BatteryMonitor | .performCalO2BatteryMonitor | .performCalO3BatteryMonitor =>
    keepRunning (actionSetBool bus receivedMsgType)
  | .readGeneralPurposeIOs =>
    keepRunning (actionReadGeneralPurposeIOs bus)
  | .readRioBattCurrent | .readO1BattCurrent | .readO2BattCurrent | .readO3BattCurrent =>
    keepRunning (actionReadCurrent bus receivedMsgType)
  | .readRioBattVoltage | .readO1BattVoltage | .readO2BattVoltage | .readO3BattVoltage =>
    keepRunning (actionReadVoltage bus receivedMsgType)
  | .readRioRemainingCapacity | .readO1RemainingCapacity | .readO2RemainingCapacity
  | .readO3RemainingCapacity =>
    keepRunning (actionReadRemainingCapacity bus receivedMsgType)
  | .readRioBattLifetimeChargeDischarge | .readO1BattLifetimeChargeDischarge
  | .readO2BattLifetimeChargeDischarge | .readO3BattLifetimeChargeDischarge =>
    keepRunning (actionReadChargeDischarge bus receivedMsgType)
  | .swapRioBattery | .swapO1Battery | .swapO2Battery | .swapO3Battery =>
    keepRunning (actionSwapBattery bus receivedMsgType pReceivedMsgBody)
  | .readRioBattTemperature | .readO1BattTemperature | .readO2BattTemperature
  | .readO3BattTemperature =>
    keepRunning (actionReadTemperature bus receivedMsgType)
  | .sendOString =>
    let pString := pReceivedMsgBody.drop sizeOfBool
    let waitForResponse := pReceivedMsgBody.headD 0 ≠ 0
    (actionSendOString bus.orangutan pString waitForResponse pSendMsg).map fun (length, pSendMsg) =>
      (.successKeepRunning, pSendMsg.addLength length)
  | _ => none

end RoboOne.Hardware
