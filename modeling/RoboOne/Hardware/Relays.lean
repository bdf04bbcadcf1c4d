import RoboOne.Hardware.Shadow

namespace RoboOne.Hardware

open Interaction

section

variable (uninitialised : History OwCall.Answer → UInt8)

-- The connection to the Orangutan is closed before a toggle, and opened again behind it. None of that
-- is done on the bus.
def toggleOPwr : OwProgram Bool :=
  togglePinsWithShadow .darlington darlingtonOPwrToggle

def toggleORst : OwProgram Bool :=
  togglePinsWithShadow .darlington darlingtonORstToggle

def setRioPwr12VOn : OwProgram Bool :=
  setPinsWithShadow uninitialised .darlington darlingtonRioPwr12VOn true

def setRioPwr12VOff : OwProgram Bool :=
  setPinsWithShadow uninitialised .darlington darlingtonRioPwr12VOn false

def setRioPwrBattOn : OwProgram Bool :=
  setPinsWithShadow uninitialised .darlington darlingtonRioPwrBattOff false

def setRioPwrBattOff : OwProgram Bool :=
  setPinsWithShadow uninitialised .darlington darlingtonRioPwrBattOff true

def setOPwr12VOn : OwProgram Bool :=
  setPinsWithShadow uninitialised .relay relayOPwr12VOn true

def setOPwr12VOff : OwProgram Bool :=
  setPinsWithShadow uninitialised .relay relayOPwr12VOn false

def setOPwrBattOn : OwProgram Bool :=
  setPinsWithShadow uninitialised .relay relayOPwrBattOff false

def setOPwrBattOff : OwProgram Bool :=
  setPinsWithShadow uninitialised .relay relayOPwrBattOff true

def setRioBatteryChargerOn : OwProgram Bool :=
  setPinsWithShadow uninitialised .relay relayRioChargerOff false

def setRioBatteryChargerOff : OwProgram Bool :=
  setPinsWithShadow uninitialised .relay relayRioChargerOff true

def setO1BatteryChargerOn : OwProgram Bool :=
  setPinsWithShadow uninitialised .relay relayO1ChargerOff false

def setO1BatteryChargerOff : OwProgram Bool :=
  setPinsWithShadow uninitialised .relay relayO1ChargerOff true

def setO2BatteryChargerOn : OwProgram Bool :=
  setPinsWithShadow uninitialised .relay relayO2ChargerOff false

def setO2BatteryChargerOff : OwProgram Bool :=
  setPinsWithShadow uninitialised .relay relayO2ChargerOff true

def setO3BatteryChargerOn : OwProgram Bool :=
  setPinsWithShadow uninitialised .relay relayO3ChargerOff false

def setO3BatteryChargerOff : OwProgram Bool :=
  setPinsWithShadow uninitialised .relay relayO3ChargerOff true

def setAllOChargersOn : OwProgram Bool := do
  let success ← setO1BatteryChargerOn uninitialised
  if success then
    let success ← setO2BatteryChargerOn uninitialised
    if success then setO3BatteryChargerOn uninitialised else return success
  else
    return success

def setAllOChargersOff : OwProgram Bool := do
  let success ← setO1BatteryChargerOff uninitialised
  if success then
    let success ← setO2BatteryChargerOff uninitialised
    if success then setO3BatteryChargerOff uninitialised else return success
  else
    return success

def setAllBatteryChargersOn : OwProgram Bool := do
  let success ← setRioBatteryChargerOn uninitialised
  if success then
    let success ← setO1BatteryChargerOn uninitialised
    if success then
      let success ← setO2BatteryChargerOn uninitialised
      if success then setO3BatteryChargerOn uninitialised else return success
    else
      return success
  else
    return success

def setAllBatteryChargersOff : OwProgram Bool := do
  let success ← setRioBatteryChargerOff uninitialised
  if success then
    let success ← setO1BatteryChargerOff uninitialised
    if success then
      let success ← setO2BatteryChargerOff uninitialised
      if success then setO3BatteryChargerOff uninitialised else return success
    else
      return success
  else
    return success

def disableOnPCBRelays : OwProgram Bool :=
  setPinsWithShadow uninitialised .darlington darlingtonEnableBar true

def enableOnPCBRelays : OwProgram Bool :=
  setPinsWithShadow uninitialised .darlington darlingtonEnableBar false

def disableExternalRelays : OwProgram Bool :=
  setPinsWithShadow uninitialised .relay relayEnableBar true

def enableExternalRelays : OwProgram Bool :=
  setPinsWithShadow uninitialised .relay relayEnableBar false

end

-- The functions that read a relay differ in its pin, and in the level of the pin that means it is on.
-- The result is `none` if the pins cannot be read.
def readRelay (d : Pio) (pinsMask : UInt8) (onLevel : Bool) : OwProgram (Option Bool) := do
  let read ← readPinsWithShadow d
  return read.map fun pinsState => if pinsState &&& pinsMask ≠ 0 then onLevel else !onLevel

def readOPwr : OwProgram (Option Bool) :=
  readRelay .darlington darlingtonOPwrToggle true

def readORst : OwProgram (Option Bool) :=
  readRelay .darlington darlingtonORstToggle true

def readRioPwr12V : OwProgram (Option Bool) :=
  readRelay .darlington darlingtonRioPwr12VOn true

def readRioPwrBatt : OwProgram (Option Bool) :=
  readRelay .darlington darlingtonRioPwrBattOff false

def readOPwr12V : OwProgram (Option Bool) :=
  readRelay .relay relayOPwr12VOn true

def readOPwrBatt : OwProgram (Option Bool) :=
  readRelay .relay relayOPwrBattOff false

def readRioBatteryCharger : OwProgram (Option Bool) :=
  readRelay .relay relayRioChargerOff false

def readO1BatteryCharger : OwProgram (Option Bool) :=
  readRelay .relay relayO1ChargerOff false

def readO2BatteryCharger : OwProgram (Option Bool) :=
  readRelay .relay relayO2ChargerOff false

def readO3BatteryCharger : OwProgram (Option Bool) :=
  readRelay .relay relayO3ChargerOff false

def readOnPCBRelaysEnabled : OwProgram (Option Bool) :=
  readRelay .darlington darlingtonEnableBar false

def readExternalRelaysEnabled : OwProgram (Option Bool) :=
  readRelay .relay relayEnableBar false

end RoboOne.Hardware
