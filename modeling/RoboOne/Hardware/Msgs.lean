import Mathlib.Data.List.Basic

namespace RoboOne.Hardware

-- The message types of the hardware server, in the order of the message list.
inductive HardwareMsgType
  | serverStart
  | serverStop
  | readMains12V
  | readChargerStatePins
  | readChargerState
  | toggleOPwr
  | readOPwr
  | toggleORst
  | readORst
  | togglePiRst
  | setRioPwr12VOn
  | setRioPwr12VOff
  | readRioPwr12V
  | setRioPwrBattOn
  | setRioPwrBattOff
  | readRioPwrBatt
  | setOPwr12VOn
  | setOPwr12VOff
  | readOPwr12V
  | setOPwrBattOn
  | setOPwrBattOff
  | readOPwrBatt
  | setRioBatteryChargerOn
  | setRioBatteryChargerOff
  | readRioBatteryCharger
  | setO1BatteryChargerOn
  | setO1BatteryChargerOff
  | readO1BatteryCharger
  | setO2BatteryChargerOn
  | setO2BatteryChargerOff
  | readO2BatteryCharger
  | setO3BatteryChargerOn
  | setO3BatteryChargerOff
  | readO3BatteryCharger
  | setAllBatteryChargersOn
  | setAllBatteryChargersOff
  | setAllOBatteryChargersOn
  | setAllOBatteryChargersOff
  | disableOnPCBRelays
  | enableOnPCBRelays
  | disableExternalRelays
  | enableExternalRelays
  | readExternalRelaysEnabled
  | readOnPCBRelaysEnabled
  | readGeneralPurposeIOs
  | readRioBattCurrent
  | readO1BattCurrent
  | readO2BattCurrent
  | readO3BattCurrent
  | readRioBattVoltage
  | readO1BattVoltage
  | readO2BattVoltage
  | readO3BattVoltage
  | readRioRemainingCapacity
  | readO1RemainingCapacity
  | readO2RemainingCapacity
  | readO3RemainingCapacity
  | readRioBattLifetimeChargeDischarge
  | readO1BattLifetimeChargeDischarge
  | readO2BattLifetimeChargeDischarge
  | readO3BattLifetimeChargeDischarge
  | performCalAllBatteryMonitors
  | performCalRioBatteryMonitor
  | performCalO1BatteryMonitor
  | performCalO2BatteryMonitor
  | performCalO3BatteryMonitor
  | swapRioBattery
  | swapO1Battery
  | swapO2Battery
  | swapO3Battery
  | readRioBattTemperature
  | readO1BattTemperature
  | readO2BattTemperature
  | readO3BattTemperature
  | sendOString
deriving DecidableEq

-- The value of the enumeration as it is put into a `MsgType` or a `TimerId`.
def HardwareMsgType.toUInt8 (m : HardwareMsgType) : UInt8 :=
  .ofNat m.ctorIdx

structure HardwareChargeDischarge where
  charge    : UInt32
  discharge : UInt32
deriving DecidableEq

end RoboOne.Hardware
