import RoboOne.Hardware.PioBus
import RoboOne.Hardware.Server

namespace RoboOne.Hardware

open Interaction Transition OneWire

-- The functions of `ow_bus.c` that switch relays. The others do not write to the relays' devices.
def SetFunction.relayCall? : SetFunction → Option RelayCall
  | toggleOPwr                   => some .toggleOPwr
  | toggleORst                   => some .toggleORst
  | togglePiRst                  => none
  | setRioPwr12VOn               => some .setRioPwr12VOn
  | setRioPwr12VOff              => some .setRioPwr12VOff
  | setRioPwrBattOn              => some .setRioPwrBattOn
  | setRioPwrBattOff             => some .setRioPwrBattOff
  | setOPwr12VOn                 => some .setOPwr12VOn
  | setOPwr12VOff                => some .setOPwr12VOff
  | setOPwrBattOn                => some .setOPwrBattOn
  | setOPwrBattOff               => some .setOPwrBattOff
  | setRioBatteryChargerOn       => some .setRioBatteryChargerOn
  | setRioBatteryChargerOff      => some .setRioBatteryChargerOff
  | setO1BatteryChargerOn        => some .setO1BatteryChargerOn
  | setO1BatteryChargerOff       => some .setO1BatteryChargerOff
  | setO2BatteryChargerOn        => some .setO2BatteryChargerOn
  | setO2BatteryChargerOff       => some .setO2BatteryChargerOff
  | setO3BatteryChargerOn        => some .setO3BatteryChargerOn
  | setO3BatteryChargerOff       => some .setO3BatteryChargerOff
  | setAllBatteryChargersOn      => some .setAllBatteryChargersOn
  | setAllBatteryChargersOff     => some .setAllBatteryChargersOff
  | setAllOChargersOn            => some .setAllOChargersOn
  | setAllOChargersOff           => some .setAllOChargersOff
  | disableOnPCBRelays           => some .disableOnPCBRelays
  | enableOnPCBRelays            => some .enableOnPCBRelays
  | disableExternalRelays        => some .disableExternalRelays
  | enableExternalRelays         => some .enableExternalRelays
  | performCalAllBatteryMonitors => none
  | performCalRioBatteryMonitor  => none
  | performCalO1BatteryMonitor   => none
  | performCalO2BatteryMonitor   => none
  | performCalO3BatteryMonitor   => none

-- The function of `ow_bus.c` that `actionSetBool` calls.
def HardwareMsgType.setFunction? : HardwareMsgType → Option SetFunction
  | toggleOPwr                   => some .toggleOPwr
  | toggleORst                   => some .toggleORst
  | togglePiRst                  => some .togglePiRst
  | setRioPwr12VOn               => some .setRioPwr12VOn
  | setRioPwr12VOff              => some .setRioPwr12VOff
  | setRioPwrBattOn              => some .setRioPwrBattOn
  | setRioPwrBattOff             => some .setRioPwrBattOff
  | setOPwr12VOn                 => some .setOPwr12VOn
  | setOPwr12VOff                => some .setOPwr12VOff
  | setOPwrBattOn                => some .setOPwrBattOn
  | setOPwrBattOff               => some .setOPwrBattOff
  | setRioBatteryChargerOn       => some .setRioBatteryChargerOn
  | setRioBatteryChargerOff      => some .setRioBatteryChargerOff
  | setO1BatteryChargerOn        => some .setO1BatteryChargerOn
  | setO1BatteryChargerOff       => some .setO1BatteryChargerOff
  | setO2BatteryChargerOn        => some .setO2BatteryChargerOn
  | setO2BatteryChargerOff       => some .setO2BatteryChargerOff
  | setO3BatteryChargerOn        => some .setO3BatteryChargerOn
  | setO3BatteryChargerOff       => some .setO3BatteryChargerOff
  | setAllBatteryChargersOn      => some .setAllBatteryChargersOn
  | setAllBatteryChargersOff     => some .setAllBatteryChargersOff
  | disableOnPCBRelays           => some .disableOnPCBRelays
  | enableOnPCBRelays            => some .enableOnPCBRelays
  | disableExternalRelays        => some .disableExternalRelays
  | enableExternalRelays         => some .enableExternalRelays
  | performCalAllBatteryMonitors => some .performCalAllBatteryMonitors
  | performCalRioBatteryMonitor  => some .performCalRioBatteryMonitor
  | performCalO1BatteryMonitor   => some .performCalO1BatteryMonitor
  | performCalO2BatteryMonitor   => some .performCalO2BatteryMonitor
  | _                            => none

def HardwareMsgType.relayCall? (m : HardwareMsgType) : Option RelayCall :=
  m.setFunction?.bind SetFunction.relayCall?

theorem actionSetBool_eq {bus : OwBus} {m : HardwareMsgType} :
    actionSetBool bus m = m.setFunction?.map fun f => [(bus.set f).toUInt8] := by
  cases m <;> rfl

-- What the hardware server does to the relays when it handles a message.
def serveStep (env : Environment OwCall.Answer) (uninitialised : History OwCall.Answer → UInt8)
    (w : OwWorld) (m : HardwareMsgType) : Option OwWorld :=
  match m.relayCall? with
  | some c => relayStep env uninitialised w c
  | none   => some w

variable {env : Environment OwCall.Answer} {uninitialised : History OwCall.Answer → UInt8}
  {w w' : OwWorld} {c : RelayCall} {m : HardwareMsgType} {ms : List HardwareMsgType}
  {voltage : Option UInt16} {chips : Pio → Ds2408} {store : Relay → Bool}

theorem run_serveStep : run (serveStep env uninitialised) w ms =
    run (relayStep env uninitialised) w (ms.filterMap HardwareMsgType.relayCall?) := by
  induction ms generalizing w
  case nil => rfl
  case cons m ms hi =>
    cases hc : m.relayCall?
    case none   => rw [List.filterMap_cons_none hc, ← hi, run, serveStep, hc, Option.bind_some]
    case some c =>
      rw [List.filterMap_cons_some hc, run, run, serveStep, hc]
      exact Option.bind_congr fun _ _ => hi

-- The state that a message requests of a relay.
def HardwareMsgType.request? (m : HardwareMsgType) (r : Relay) : Option Bool :=
  m.relayCall?.bind fun c => c.requests.reverse.lookup r

-- The messages that request a state of a relay.
def requesting (r : Relay) (ms : List HardwareMsgType) : List HardwareMsgType :=
  ms.filter fun m => (m.request? r).isSome

theorem requested_relayCalls {r : Relay} : requested store (ms.filterMap HardwareMsgType.relayCall?) r =
    ms.foldl (fun on m => (m.request? r).getD on) (store r) := by
  rw [requested_eq_foldl]
  induction ms generalizing store
  case nil => rfl
  case cons m ms hi =>
    rw [List.foldl_cons, HardwareMsgType.request?]
    cases hc : m.relayCall?
    case none   => rw [List.filterMap_cons_none hc, hi, Option.bind_none, Option.getD_none]
    case some c =>
      rw [List.filterMap_cons_some hc, List.foldl_cons, hi, Store.writeAll_eq_lookup,
        Option.bind_some]

-- Only the messages matter that request a state of the relay.
theorem foldl_requesting {r : Relay} {on : Bool} :
    (requesting r ms).foldl (fun on m => (m.request? r).getD on) on =
      ms.foldl (fun on m => (m.request? r).getD on) on := by
  induction ms generalizing on
  case nil => rfl
  case cons m ms hi =>
    rw [requesting, List.filter_cons, ← requesting]
    cases hr : m.request? r
    case none    => simpa [hr] using hi
    case some on => simpa [hr] using hi

-- The hardware server leaves a relay of the devices as the last message that is about it requests.
theorem serveStep_on_chips (hu : Unloaded chips) (ms : List HardwareMsgType)
    (hs : Switched (fun d => (chips d).latch) store w) :
    ∃ w', run (serveStep (pioBus voltage chips) uninitialised) w ms = some w' ∧
      ∀ r : Relay, r.isOn (reached voltage chips w'.history r.pio).latch =
        (requesting r ms).foldl (fun on m => (m.request? r).getD on) (store r) := by
  have ⟨w', hw', hl⟩ := @relayStep_on_chips voltage chips uninitialised _ w hu
    (ms.filterMap HardwareMsgType.relayCall?) hs
  refine ⟨w', run_serveStep.trans hw', fun r => ?_⟩
  rw [hl, requested_relayCalls, foldl_requesting]

end RoboOne.Hardware
