import RoboOne.Hardware.Relays
import RoboOne.Hardware.Server
import RoboOne.Library.Trace

namespace RoboOne.Hardware

open Interaction

-- OW_NAME_x. The family in the address of a device tells which of the two it is.
inductive OwDeviceName
  | batteryMonitor (b : Charger)
  | pio (d : Pio)
deriving DecidableEq

def maxNumDevices : Nat := 8

def maxNumBatteryDevices : Nat := 4

-- In the order of the addresses there.
def gDeviceStaticConfigList : List OwDeviceName :=
  [.batteryMonitor .rio, .batteryMonitor .o1, .batteryMonitor .o2, .batteryMonitor .o3,
    .pio .chargerState, .pio .darlington, .pio .relay, .pio .generalPurpose]

-- IAD, CA and EE are enabled.
def defaultDS2438Config : UInt8 := 0x01 ||| 0x02 ||| 0x04

def defaultDS2438Threshold : UInt8 := 0x40

-- Without a power on reset, and with RSTZ as a reset line.
def defaultDS2408Config : UInt8 := ~~~0x08 &&& ~~~0x04

-- What is called on the devices and on the clock besides the reads and writes of pins.
inductive DeviceCall
  | oneWireAccessDevice (n : OwDeviceName)
  | writeNVConfigThresholdDS2438 (b : Charger) (pConfig pThreshold : UInt8)
  | initTimeCapacityDS2438 (b : Charger)
  | writeTimeCapacityDS2438 (b : Charger) (pElapsedTime : UInt32)
    (pRemainingCapacity : Option UInt16) (writeShadow : Bool)
  | disableTestModeDS2408 (d : Pio)
  | writeControlRegisterDS2408 (d : Pio) (data : UInt8)
  | readPIOActivityLatchStateRegisterDS2408 (d : Pio)
  | resetActivityLatchesDS2408 (d : Pio)
  | getSystemTicks
deriving DecidableEq

abbrev DeviceCall.Answer : DeviceCall → Type
  | readPIOActivityLatchStateRegisterDS2408 _ => Option UInt8
  | getSystemTicks                            => UInt32
  | _                                         => Bool

-- The static variables of `readChargerState`.
structure ChargerStatics where
  ticksAtLastRead   : UInt32
  lastPinsEdgeState : UInt8
deriving DecidableEq

abbrev DeviceHistory :=
  History (Sum.elim OwCall.Answer DeviceCall.Answer)

abbrev DeviceWorld :=
  World (Sum.elim OwCall.Answer DeviceCall.Answer) ((Pio → UInt8) × ChargerStatics)

abbrev DeviceEnvironment :=
  Environment (Sum.elim OwCall.Answer DeviceCall.Answer)

abbrev DeviceProgram :=
  Interaction.Program (Sum.elim OwCall.Answer DeviceCall.Answer) ((Pio → UInt8) × ChargerStatics)

def deviceCall (c : DeviceCall) : DeviceProgram c.Answer :=
  call (A := Sum.elim OwCall.Answer DeviceCall.Answer) (.inr c)

def pins {α : Type} (p : OwProgram α) : DeviceProgram α :=
  part p

def getSystemTicks : DeviceProgram UInt32 :=
  deviceCall .getSystemTicks

-- What `setupDevices` does with a battery monitor that it has found.
def setupBatteryMonitor (b : Charger) : DeviceProgram Bool := do
  let success ← deviceCall
    (.writeNVConfigThresholdDS2438 b defaultDS2438Config defaultDS2438Threshold)
  if success then
    let success ← deviceCall (.initTimeCapacityDS2438 b)
    if success then
      let elapsedTime ← getSystemTicks
      deviceCall (.writeTimeCapacityDS2438 b elapsedTime none true)
    else
      return false
  else
    return false

-- What it does with a PIO. What `setupPio` does is the part of it on the pins.
def setupPioDevice (d : Pio) : DeviceProgram Bool := do
  let success ← deviceCall (.disableTestModeDS2408 d)
  pins debugPrintPinsState
  if success then
    let success ← deviceCall (.writeControlRegisterDS2408 d defaultDS2408Config)
    pins debugPrintPinsState
    if success then
      let gPinsState ← pins load
      let success ← pins <| channelAccessWriteDS2408 d (gPinsState d ||| d.inputMask)
      pins debugPrintPinsState
      return success
    else
      pins debugPrintPinsState
      return false
  else
    return false

def setupDevice (batteriesOnly : Bool) : OwDeviceName → DeviceProgram Bool
  | .batteryMonitor b => setupBatteryMonitor b
  | .pio d            => do
    assert !batteriesOnly
    setupPioDevice d

-- The first loop of `setupDevices`. `success` is what has come of the device before.
def setupLoop (batteriesOnly : Bool) : List OwDeviceName → Bool → DeviceProgram (List Bool × Bool)
  | [],      success => return ([], success)
  | n :: ns, success => do
    let found ← deviceCall (.oneWireAccessDevice n)
    let success ← (if found then setupDevice batteriesOnly n else pure success)
    let rest ← setupLoop batteriesOnly ns success
    return (found :: rest.1, rest.2)

def expectedDevices (batteriesOnly : Bool) : List OwDeviceName :=
  gDeviceStaticConfigList.take (if batteriesOnly then maxNumBatteryDevices else maxNumDevices)

def setupDevices (batteriesOnly : Bool) : DeviceProgram Bool := do
  let (found, success) ← setupLoop batteriesOnly (expectedDevices batteriesOnly) true
  return if found.all id then success else false

inductive ChargeState
  | noPower
  | off
  | green
  | flashingGreen
  | red
  | flashingRed
  | unknown
  | bad
deriving DecidableEq

-- CHARGER_x_GREEN.
def Charger.greenMask : Charger → UInt8
  | rio => 0x01
  | o1  => 0x04
  | o2  => 0x10
  | o3  => 0x40

-- CHARGER_x_RED.
def Charger.redMask : Charger → UInt8
  | rio => 0x02
  | o1  => 0x08
  | o2  => 0x20
  | o3  => 0x80

def getChargeState (success poweredOn : Bool) (pinsState greenMask redMask : UInt8) : ChargeState :=
  if success then
    if poweredOn then
      let state : ChargeState := if pinsState &&& greenMask ≠ 0 then .green else .off
      if pinsState &&& redMask ≠ 0 then
        if state = .green then .bad else .red
      else
        state
    else
      .noPower
  else
    .unknown

def getChargeFlashingState (existingState : ChargeState)
    (lastPinsEdgeState pinsEdgeState greenMask redMask : UInt8) : ChargeState :=
  let state :=
    if pinsEdgeState &&& greenMask ≠ 0 ∧ lastPinsEdgeState &&& greenMask ≠ 0 then .flashingGreen
    else existingState
  if pinsEdgeState &&& redMask ≠ 0 ∧ lastPinsEdgeState &&& redMask ≠ 0 then .flashingRed else state

def readPins (d : Pio) : OwProgram (Option UInt8) := do
  let pinsState ← readPIOLogicStateDS2408 d
  debugPrintPinsState
  return pinsState

-- What is read is put at the pointer even if the latches cannot be reset.
def readAndResetRisingEdgePins (d : Pio) : DeviceProgram (Bool × Option UInt8) := do
  let pinsState ← deviceCall (.readPIOActivityLatchStateRegisterDS2408 d)
  let success ←
    (if Option.isSome pinsState then deviceCall (.resetActivityLatchesDS2408 d) else pure false)
  pins debugPrintPinsState
  return (success, pinsState)

def loadStatics : DeviceProgram ChargerStatics := do
  let memory ← load
  return memory.2

def storeStatics (s : ChargerStatics) : DeviceProgram Unit := do
  let memory ← load
  store (memory.1, s)

-- What `readChargerState` returns, and what it puts at its two pointers, if anything.
structure ChargerRead where
  success              : Bool
  pState               : Option (Charger → ChargeState)
  pFlashDetectPossible : Option Bool

-- What `readChargerState` does in its first call, which is that with zero in the ticks.
def resetEdgeLatch : DeviceProgram Bool := do
  let statics ← loadStatics
  if statics.ticksAtLastRead = 0 then
    let (success, lastPinsEdgeState) ← readAndResetRisingEdgePins .chargerState
    let ticksAtLastRead ← getSystemTicks
    storeStatics ⟨ticksAtLastRead, lastPinsEdgeState.getD statics.lastPinsEdgeState⟩
    return success
  else
    return true

-- The success of the first three reads of a charger is forgotten, but for its own state.
def readChargerState : DeviceProgram ChargerRead := do
  let success ← resetEdgeLatch
  if success then
    let ticksNow ← getSystemTicks
    match ← pins (readPins .chargerState) with
    | none           => return ⟨false, none, none⟩
    | some pinsState =>
      match ← pins readExternalRelaysEnabled with
      | none               => return ⟨false, none, some false⟩
      | some relaysPowered =>
        let rioPowered ← pins readRioBatteryCharger
        let o1Powered ← pins readO1BatteryCharger
        let o2Powered ← pins readO2BatteryCharger
        let o3Powered ← pins readO3BatteryCharger
        let powered : Charger → Option Bool
          | .rio => rioPowered
          | .o1  => o1Powered
          | .o2  => o2Powered
          | .o3  => o3Powered
        let pState (c : Charger) : ChargeState :=
          getChargeState (powered c).isSome (!(relaysPowered && !(powered c).getD false)) pinsState
            c.greenMask c.redMask
        let statics ← loadStatics
        if statics.ticksAtLastRead - ticksNow > 1 then
          let (success, pinsEdgeState) ← readAndResetRisingEdgePins .chargerState
          if success then
            let pinsEdgeState := pinsEdgeState.getD 0
            storeStatics ⟨ticksNow, pinsEdgeState⟩
            let pState (c : Charger) : ChargeState := getChargeFlashingState (pState c)
              statics.lastPinsEdgeState pinsEdgeState c.greenMask c.redMask
            return ⟨true, some pState, some true⟩
          else
            return ⟨false, some pState, some false⟩
        else
          return ⟨o3Powered.isSome, some pState, some false⟩
  else
    return ⟨false, none, none⟩

-- The prints are nothing but reads.
theorem debugPrintPinsState_traces {m : Pio → UInt8}
    {Q : History OwCall.Answer → Unit → (Pio → UInt8) → Prop}
    (h : ∀ chargerState darlington relay generalPurpose,
      Q [⟨.readPIOLogicStateDS2408 .chargerState, chargerState⟩,
        ⟨.readPIOLogicStateDS2408 .darlington, darlington⟩,
        ⟨.readPIOLogicStateDS2408 .relay, relay⟩,
        ⟨.readPIOLogicStateDS2408 .generalPurpose, generalPurpose⟩] () m) :
    Traces m debugPrintPinsState Q :=
  .bind <| .call fun _ => .bind <| .call fun _ => .bind <| .call fun _ => .bind <|
    .call fun _ => .pure <| h _ _ _ _

end RoboOne.Hardware
