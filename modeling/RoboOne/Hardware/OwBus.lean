import Mathlib.Logic.Function.Basic
import RoboOne.Library.Program
import RoboOne.Library.Transition

namespace RoboOne.Hardware

open Interaction

-- The PIO devices among the OneWire devices.
inductive Pio
  | chargerState
  | darlington
  | relay
  | generalPurpose
deriving DecidableEq

def darlingtonOPwrToggle : UInt8 := 0x04

def darlingtonORstToggle : UInt8 := 0x08

def relayOPwr12VOn : UInt8 := 0x01

def relayOPwrBattOff : UInt8 := 0x02

def relayRioChargerOff : UInt8 := 0x04

def relayO1ChargerOff : UInt8 := 0x08

def relayO2ChargerOff : UInt8 := 0x10

def relayO3ChargerOff : UInt8 := 0x20

-- GENERAL_PURPOSE_IO_MUX_x.
def muxA0 : UInt8 := 0x10

def muxA1 : UInt8 := 0x20

def muxA2 : UInt8 := 0x40

def muxShift : UInt8 := 4

def muxEnableBar : UInt8 := 0x80

def temperatureSensorRioBatt : UInt8 := 0

def temperatureSensorO1Batt : UInt8 := 1

def temperatureSensorO2Batt : UInt8 := 2

def temperatureSensorO3Batt : UInt8 := 3

-- The pins whose state is that in `pinsState`, and not the one that is read.
def Pio.readShadowMask : Pio → UInt8
  | chargerState   => 0x00
  | darlington     => darlingtonOPwrToggle ||| darlingtonORstToggle
  | relay          => relayOPwr12VOn ||| relayOPwrBattOff ||| relayRioChargerOff |||
    relayO1ChargerOff ||| relayO2ChargerOff ||| relayO3ChargerOff
  | generalPurpose => 0x00

-- What is called on the bus. The voltage is that of the Pi/RIO battery monitor.
inductive OwCall
  | readPIOLogicStateDS2408 (d : Pio)
  | channelAccessWriteDS2408 (d : Pio) (data : UInt8)
  | readVadDS2438
deriving DecidableEq

-- What is read, or what is read back behind a write, if the call succeeds.
abbrev OwCall.Answer : OwCall → Type
  | readPIOLogicStateDS2408 _    => Option UInt8
  | channelAccessWriteDS2408 _ _ => Option UInt8
  | readVadDS2438                => Option UInt16

-- The variables are the `pinsState` in `gDeviceStaticConfigList`.
abbrev OwWorld :=
  World OwCall.Answer (Pio → UInt8)

abbrev OwProgram :=
  Interaction.Program OwCall.Answer (Pio → UInt8)

def owCall (c : OwCall) : OwProgram c.Answer :=
  call c

def readPIOLogicStateDS2408 (d : Pio) : OwProgram (Option UInt8) :=
  owCall (.readPIOLogicStateDS2408 d)

def readVadDS2438 : OwProgram (Option UInt16) :=
  owCall .readVadDS2438

-- The callers do not use what is read back.
def channelAccessWriteDS2408 (d : Pio) (data : UInt8) : OwProgram Bool := do
  let readBack ← owCall (.channelAccessWriteDS2408 d data)
  return Option.isSome readBack

-- The loop of `accountForShadow`: the number of bits that are left, and the mask of the next one.
def accountForShadowBits (readShadowMask shadow : UInt8) : Nat → UInt8 → UInt8 → UInt8
  | 0,     _,    pinsState => pinsState
  | i + 1, mask, pinsState =>
    accountForShadowBits readShadowMask shadow i (mask <<< 1) <|
      if readShadowMask &&& mask ≠ 0 then
        if shadow &&& mask ≠ 0 then pinsState ||| mask else pinsState &&& ~~~mask
      else
        pinsState

def accountForShadow (d : Pio) (shadow pinsState : UInt8) : UInt8 :=
  accountForShadowBits d.readShadowMask shadow 8 1 pinsState

-- The function reads all pins, and prints what it reads.
def debugPrintPinsState : OwProgram Unit := do
  let _ ← readPIOLogicStateDS2408 .chargerState
  let _ ← readPIOLogicStateDS2408 .darlington
  let _ ← readPIOLogicStateDS2408 .relay
  let _ ← readPIOLogicStateDS2408 .generalPurpose

def readPinsWithShadow (d : Pio) : OwProgram (Option UInt8) := do
  let pinsState ← readPIOLogicStateDS2408 d
  let gPinsState ← load
  debugPrintPinsState
  return pinsState.map (accountForShadow d (gPinsState d))

-- A write of some pins, and of another state into the `pinsState` of the device if it succeeds.
def writePins (d : Pio) (pinsStateToWrite pinsState : UInt8) : OwProgram Bool := do
  let success ← channelAccessWriteDS2408 d pinsStateToWrite
  if success then
    let gPinsState ← load
    store (Function.update gPinsState d pinsState)
    return true
  else
    return false

-- What `setAnalogueMuxInput` does behind its first read. The address is only in the second write.
def writeMuxInput (input pinsState : UInt8) : OwProgram Bool := do
  let pinsState := pinsState ||| muxEnableBar
  let success ← writePins .generalPurpose pinsState pinsState
  if success then
    let pinsStateToWrite := pinsState &&& ~~~(muxA0 ||| muxA1 ||| muxA2) |||
      input <<< muxShift &&& (muxA0 ||| muxA1 ||| muxA2)
    let success ← writePins .generalPurpose pinsStateToWrite pinsState
    if success then
      let pinsState := pinsState &&& ~~~muxEnableBar
      writePins .generalPurpose pinsState pinsState
    else
      return false
  else
    return false

def setAnalogueMuxInput (input : UInt8) : OwProgram Bool := do
  assert (input < 8)
  match ← readPinsWithShadow .generalPurpose with
  | none           => return false
  | some pinsState => writeMuxInput input pinsState

def readAnalogueMux : OwProgram (Option UInt16) :=
  readVadDS2438

-- `MV_TO_C`. The division is one of integers, and its result is put into a `double`.
def mvToC (mv : UInt16) : Int :=
  ((mv.toNat : Int) - 500).tdiv 10

-- The four functions that read a temperature. The result is `none` if they fail.
def readBattTemperature (sensor : UInt8) : OwProgram (Option Int) := do
  let success ← setAnalogueMuxInput sensor
  if success then
    let voltage ← readAnalogueMux
    return voltage.map mvToC
  else
    return none

def readRioBattTemperature : OwProgram (Option Int) :=
  readBattTemperature temperatureSensorRioBatt

def readO1BattTemperature : OwProgram (Option Int) :=
  readBattTemperature temperatureSensorO1Batt

def readO2BattTemperature : OwProgram (Option Int) :=
  readBattTemperature temperatureSensorO2Batt

def readO3BattTemperature : OwProgram (Option Int) :=
  readBattTemperature temperatureSensorO3Batt

end RoboOne.Hardware
