import RoboOne.Hardware.Msgs
import RoboOne.Library.Program
import RoboOne.StateMachine.State

namespace RoboOne.StateMachine

open Hardware Interaction

def pingString : String := "!\n"

def oStartDelayUs : Nat := 100000

structure OInputContainer where
  string          : String
  waitForResponse : Bool
deriving DecidableEq

structure OResponseString where
  string       : List Char
  stringLength : UInt32
deriving DecidableEq

-- `O_CHECK_OK_STRING`.
def OResponseString.isOk (r : OResponseString) : Bool :=
  r.stringLength ≥ 2 && r.string[0]? = some 'O' && r.string[1]? = some 'K'

-- What the state machine calls. The messages to the battery manager are all CHARGING_PERMITTED, and
-- those to the task handler are all NEW_TASK.
inductive Call
  | printDebug (text : String)
  | malloc
  | usleep (us : Nat)
  | hardwareServerSendReceive (msgType : HardwareMsgType) (pSendMsgBody : Option OInputContainer)
  | batteryManagerServerSendReceive (chargingPermitted : Bool)
  | taskHandlerServerSendReceive (pTaskReq : RoboOneTaskReq)
  | stateMachineServerSendReceive (event : Event)
deriving DecidableEq

-- For `malloc`, if there is memory. For the messages, if they succeed, and for those to the hardware
-- server also what is then in the memory for the response.
def Call.Answer : Call → Type
  | printDebug _                      => Unit
  | malloc                            => Bool
  | usleep _                          => Unit
  | hardwareServerSendReceive _ _     => Bool × OResponseString
  | batteryManagerServerSendReceive _ => Bool
  | taskHandlerServerSendReceive _    => Bool
  | stateMachineServerSendReceive _   => Bool

-- The variable is `*pgRoboOneContext`, if there is one.
abbrev Program :=
  Interaction.Program Call.Answer (Option RoboOneState)

def ask (c : Call) : Program c.Answer :=
  call c

def printDebug (text : String) : Program Unit :=
  ask (.printDebug text)

def malloc : Program Bool :=
  ask .malloc

def usleep (us : Nat) : Program Unit :=
  ask (.usleep us)

def sendOString (c : OInputContainer) : Program (Bool × OResponseString) :=
  ask (.hardwareServerSendReceive .sendOString (some c))

-- A message without a body, and without interest in the response.
def hardwareServerSendReceive (m : HardwareMsgType) : Program Bool := do
  let (success, _) ← ask (.hardwareServerSendReceive m none)
  return success

def batteryManagerServerSendReceive (chargingPermitted : Bool) : Program Bool :=
  ask (.batteryManagerServerSendReceive chargingPermitted)

def taskHandlerServerSendReceive (pTaskReq : RoboOneTaskReq) : Program Bool :=
  ask (.taskHandlerServerSendReceive pTaskReq)

def stateMachineServerSendReceive (e : Event) : Program Bool :=
  ask (.stateMachineServerSendReceive e)

def actionEnableExternalRelays : Program Bool := do
  printDebug "ACTION: enabling external relays.\n"
  hardwareServerSendReceive .enableExternalRelays

def actionDisableExternalRelays : Program Bool := do
  printDebug "ACTION: disabling external relays.\n"
  hardwareServerSendReceive .disableExternalRelays

def actionEnableOnPCBRelays : Program Bool := do
  printDebug "ACTION: enabling on-PCB relays.\n"
  hardwareServerSendReceive .enableOnPCBRelays

def actionDisableOnPCBRelays : Program Bool := do
  printDebug "ACTION: disabling on-PCB relays.\n"
  hardwareServerSendReceive .disableOnPCBRelays

-- One turn of the loop of `actionSwitchOnHindbrain`.
def toggleOn : Program Bool := do
  printDebug "ACTION: toggling power to Hindbrain with the aim of switching ON.\n"
  let success ← hardwareServerSendReceive .toggleOPwr
  if success then
    usleep oStartDelayUs
    printDebug "ACTION: Pinging Hindbrain.\n"
    let (success, pResponseString) ← sendOString ⟨pingString, true⟩
    return success && pResponseString.isOk
  else
    return false

-- Up to the given number of turns, until one is successful.
def toggleOnTurns : Nat → Program Bool
  | 0     => return false
  | n + 1 => do
    let success ← toggleOn
    if success then
      return true
    else
      toggleOnTurns n

def actionSwitchOnHindbrain : Program Bool := do
  let pInputContainer ← malloc
  if pInputContainer then
    let pResponseString ← malloc
    if pResponseString then
      toggleOnTurns 2
    else
      return false
  else
    return false

-- One turn of the loop of `actionSwitchOffHindbrain`, which returns `hindbrainOn`.
def toggleOff : Program Bool := do
  printDebug "ACTION: toggling power to Hindbrain with the aim of switching OFF.\n"
  let _ ← hardwareServerSendReceive .toggleOPwr
  printDebug "ACTION: Pinging Hindbrain.\n"
  let (hindbrainOn, _) ← sendOString ⟨pingString, false⟩
  return hindbrainOn

-- Up to the given number of turns, as long as `hindbrainOn`.
def toggleOffTurns : Nat → Program Unit
  | 0     => return
  | n + 1 => do
    let hindbrainOn ← toggleOff
    if hindbrainOn then
      toggleOffTurns n
    else
      return

-- The `success` of this function is never set.
def actionSwitchOffHindbrain : Program Bool := do
  let pInputContainer ← malloc
  if pInputContainer then
    toggleOffTurns 2
    return false
  else
    return false

-- Switches one supply of a load on, and if that succeeds the other one off.
def switchSupply (onText : String) (on : HardwareMsgType) (offText : String)
    (off : HardwareMsgType) : Program Bool := do
  printDebug onText
  let success ← hardwareServerSendReceive on
  if success then
    printDebug offText
    hardwareServerSendReceive off
  else
    return false

def actionSwitchPiRioTo12VMainsPower : Program Bool :=
  switchSupply "ACTION: switching on 12V/mains power to RIO/Pi.\n" .setRioPwr12VOn
    "ACTION: switching off battery power to RIO/Pi.\n" .setRioPwrBattOff

def actionSwitchPiRioToBatteryPower : Program Bool :=
  switchSupply "ACTION: switching on battery power to RIO/Pi.\n" .setRioPwrBattOn
    "ACTION: switching off 12V/mains power to RIO/Pi.\n" .setRioPwr12VOff

def actionSwitchHindbrainTo12VMainsPower : Program Bool :=
  switchSupply "ACTION: switching on 12V/mains power to Hindbrain.\n" .setOPwr12VOn
    "ACTION: switching off battery power to Hindbrain.\n" .setOPwrBattOff

def actionSwitchHindbrainToBatteryPower : Program Bool :=
  switchSupply "ACTION: switching on battery power to Hindbrain.\n" .setOPwrBattOn
    "ACTION: switching off 12V/mains power to Hindbrain.\n" .setOPwr12VOff

end RoboOne.StateMachine
