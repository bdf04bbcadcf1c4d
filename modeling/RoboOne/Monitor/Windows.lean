import RoboOne.BatteryManager.Server
import RoboOne.Hardware.Devices
import RoboOne.Hardware.Server
import Mathlib.Data.List.ProdSigma

namespace RoboOne.Monitor

open Hardware Interaction
open BatteryManager (Battery BatteryData BatteryStatus)

def slowUpdateBackoff : UInt8 := 10

def slowerUpdateBackoff : UInt8 := 20

def commandPrompt : String := "Command (? help, x exit): "

def stringPowerHeading : String := "  Mains     Pi/RIO  Hindbrain"

-- Must be in the same order as the enum ChargeState
def gChargeStrings : List String :=
  [" --- ", " Off ", " Grn ", "*Grn*", " Red ", "*Red*", "  6  ", " ??? ", " Nul ", " Bad "]

-- The value of the enumeration, which has the number of the first states in between.
def chargeStateValue : ChargeState → Nat
  | .noPower       => 0
  | .off           => 1
  | .green         => 2
  | .flashingGreen => 3
  | .red           => 4
  | .flashingRed   => 5
  | .unknown       => 7
  | .bad           => 9

-- The `HardwareChargeState` that is read, with a state for each charger.
structure ChargerReading where
  flashDetectPossible : Bool
  state               : Charger → ChargeState

-- The windows of the dashboard, in the order of `gWindowList`. All of them are enabled.
inductive Window
  | output
  | rio
  | o
  | power
  | chg
  | state
  | cmd
deriving DecidableEq

inductive RoboOneHDResult
  | success
  | generalFailure
  | sendFailure
deriving DecidableEq

structure RoboOneTaskInfo where
  taskCounter               : UInt32
  lastTaskSent              : String
  lastResultReceivedIsValid : Bool
  lastResultReceived        : RoboOneHDResult
  lastIndString             : String
deriving DecidableEq

-- What the monitor calls: the messages to the servers, the menu, the window functions, and the task
-- info, which the local server changes from its own thread.
inductive MonitorCall
  | readBattCurrent (b : Battery)
  | readBattVoltage (b : Battery)
  | readRemainingCapacity (b : Battery)
  | readBattLifetimeChargeDischarge (b : Battery)
  | readBattTemperature (b : Battery)
  | readBool (f : ReadBoolFunction)
  | readChargerState
  | sendPingString
  | batteryManagerData (b : Battery) (d : BatteryData)
  | eventMainsPowerAvailable
  | getContext
  | taskHandlerTick
  | malloc
  | taskInfo
  | getch
  | handleUserCmdMenu (key : UInt8)
  | wmove (w : Window) (row col : Nat)
  | wclrtoeol (w : Window)
  | wprintw (w : Window) (text : String)
  | wnoutrefresh (w : Window)
  | doupdate
deriving DecidableEq

-- A message that fails leaves the memory for its answer alone. `getContext` may succeed without a valid
-- context. The menu returns if a command was executed, and if it was the one to exit.
def MonitorCall.Answer : MonitorCall → Type
  | readBattCurrent _                 => Option Int16
  | readBattVoltage _                 => Option UInt16
  | readRemainingCapacity _           => Option UInt16
  | readBattLifetimeChargeDischarge _ => Option HardwareChargeDischarge
  | readBattTemperature _             => Option ℚ
  | readBool _                        => Option Bool
  | readChargerState                  => Option ChargerReading
  | sendPingString                    => Bool
  | batteryManagerData _ _            => Option BatteryStatus
  | eventMainsPowerAvailable          => Bool
  | getContext                        => Option (Option String)
  | taskHandlerTick                   => Bool
  | malloc                            => Bool
  | taskInfo                          => RoboOneTaskInfo
  | getch                             => UInt8
  | handleUserCmdMenu _               => Bool × Bool
  | wmove _ _ _                       => Unit
  | wclrtoeol _                       => Unit
  | wprintw _ _                       => Unit
  | wnoutrefresh _                    => Unit
  | doupdate                          => Unit

abbrev MonitorHistory := History MonitorCall.Answer

abbrev MonitorEnvironment := Environment MonitorCall.Answer

-- The variable is the static `previousMains12VPresent` of `updatePowerWindow`.
abbrev MonitorWorld := World MonitorCall.Answer Bool

abbrev MonitorProgram := Program MonitorCall.Answer Bool

def ask (c : MonitorCall) : MonitorProgram c.Answer :=
  call c

def readBool (f : ReadBoolFunction) : MonitorProgram (Option Bool) :=
  ask (.readBool f)

def wmove (w : Window) (row : Nat) : MonitorProgram Unit :=
  ask (.wmove w row 0)

def wclrtoeol (w : Window) : MonitorProgram Unit :=
  ask (.wclrtoeol w)

def wprintw (w : Window) (text : String) : MonitorProgram Unit :=
  ask (.wprintw w text)

def wnoutrefresh (w : Window) : MonitorProgram Unit :=
  ask (.wnoutrefresh w)

-- An `if` without an `else`.
def onlyIf (c : Prop) [Decidable c] (p : MonitorProgram Unit) : MonitorProgram Unit :=
  if c then p else return ()

-- The text in a line of its own.
def printLine (w : Window) (text : String) : MonitorProgram Unit := do
  wclrtoeol w
  wprintw w text

def displayPowerStatesHelper (w : Window) (isKnown isEnabled is12V isBatt : Bool) :
    MonitorProgram Unit :=
  if isKnown then
    if (is12V && isEnabled) && isBatt then
      wprintw w "  !BOTH!  "
    else if is12V && isEnabled then
      wprintw w "  mains   "
    else if isBatt || !isEnabled then
      wprintw w "   batt   "
    else
      wprintw w "   ----   "
  else
    wprintw w "    ??    "

def displayTaskResultHelper : RoboOneHDResult → String
  | .success        => "rsp"
  | .sendFailure    => "send failed"
  | .generalFailure => "failed"

def displayBatteryStatusHelper (pBatteryStatus : BatteryStatus) : Char :=
  if pBatteryStatus.overTemperature then
    '!'
  else if pBatteryStatus.temperatureBroken then
    '#'
  else if pBatteryStatus.chargerOn then
    'c'
  else if pBatteryStatus.fullyCharged then
    '+'
  else if pBatteryStatus.insufficientCharge then
    '-'
  else
    '.'

-- The variables `batteryData` and `batteryStatus` of an update, zeroed by `memset`.
structure Batteries where
  data   : Battery → BatteryData
  status : Battery → BatteryStatus

def Batteries.zero : Batteries where
  data _   := ⟨0, 0, 0, ⟨0, 0⟩, 0⟩
  status _ := ⟨false, false, false, false, false⟩

-- What is read of a battery.
inductive Field
  | current
  | voltage
  | remainingCapacity
  | chargeDischarge
  | temperature
deriving DecidableEq

-- One of the messages of an update that are sent as long as they succeed, and where its answer is put.
structure Step where
  call : MonitorCall
  put  : call.Answer → Batteries → Option Batteries

namespace Step

-- The answer is read into the data of the battery.
def readInto {α : Type} (b : Battery) (set : α → BatteryData → BatteryData) (a : Option α)
    (bs : Batteries) : Option Batteries :=
  a.map fun v => { bs with data := Function.update bs.data b (set v (bs.data b)) }

def read (b : Battery) : Field → Step
  | .current           => ⟨.readBattCurrent b, readInto b fun v d => { d with current := v }⟩
  | .voltage           => ⟨.readBattVoltage b, readInto b fun v d => { d with voltage := v }⟩
  | .remainingCapacity =>
    ⟨.readRemainingCapacity b, readInto b fun v d => { d with remainingCapacity := v }⟩
  | .chargeDischarge   =>
    ⟨.readBattLifetimeChargeDischarge b, readInto b fun v d => { d with chargeDischarge := v }⟩
  | .temperature       => ⟨.readBattTemperature b, readInto b fun v d => { d with temperature := v }⟩

-- What has been read is sent to the Battery Manager, which answers with the status.
def send (b : Battery) (bs : Batteries) : Step where
  call := .batteryManagerData b (bs.data b)
  put a bs := (a : Option BatteryStatus).map fun status =>
    { bs with status := Function.update bs.status b status }

end Step

-- One thing is read of all batteries, and then the next one.
def reads (fields : List (Field × Battery)) : List (Batteries → Step) :=
  fields.map fun x _ => .read x.snd x.fst

-- `success = ...`, as long as there is success.
def perform : List (Batteries → Step) → Batteries → MonitorProgram (Bool × Batteries)
  | [],            bs => return (true, bs)
  | step :: steps, bs => do
    match (step bs).put (← ask (step bs).call) bs with
    | none    => return (false, bs)
    | some bs => perform steps bs

-- The update of the output window does nothing.
def updateOutputWindow : MonitorProgram Bool :=
  return false

-- The update of a window with batteries. Each line is for what is known behind the messages before it, and
-- the last two are only for every so many updates.
def updateBatteryWindow (w : Window) (batteries : List Battery) (backoff : UInt8)
    (power capacity lifetime : Batteries → String) (count : UInt8) : MonitorProgram Bool := do
  let (success, bs) ← perform (reads ([.current, .voltage] ×ˢ batteries)) .zero
  wmove w 0
  onlyIf success <| printLine w (power bs)
  onlyIf (count % backoff = 0) do
    let (success, bs) ← perform (reads ([.remainingCapacity, .chargeDischarge, .temperature] ×ˢ
      batteries) ++ batteries.map .send) bs
    wmove w 1
    onlyIf success <| printLine w (capacity bs)
    wmove w 2
    onlyIf success <| printLine w (lifetime bs)
  wnoutrefresh w
  return false

def updateRioWindow : UInt8 → MonitorProgram Bool :=
  updateBatteryWindow .rio [.rio] slowUpdateBackoff
    (fun bs => toString (bs.data .rio).current ++ " mA, " ++ toString (bs.data .rio).voltage ++ " mV")
    (fun bs => toString (bs.data .rio).remainingCapacity ++ " mAhr(s) remain [" ++
      (displayBatteryStatusHelper (bs.status .rio)).toString ++ "]")
    fun bs => "lifetime -" ++ toString (bs.data .rio).chargeDischarge.discharge ++ "/" ++
      toString (bs.data .rio).chargeDischarge.charge ++ " mAhr"

-- The values of the three batteries, with a slash between them.
def slashed {α : Type} [ToString α] (f : Battery → α) : String :=
  toString (f .o1) ++ "/" ++ toString (f .o2) ++ "/" ++ toString (f .o3)

-- Three `UInt16` are added as `int`, and three `UInt32` as `unsigned long`.
def sumOfCapacities (bs : Batteries) : Nat :=
  (bs.data .o1).remainingCapacity.toNat + (bs.data .o2).remainingCapacity.toNat +
    (bs.data .o3).remainingCapacity.toNat

def sumOf (bs : Batteries) (f : HardwareChargeDischarge → UInt32) : UInt32 :=
  f (bs.data .o1).chargeDischarge + f (bs.data .o2).chargeDischarge +
    f (bs.data .o3).chargeDischarge

def updateOWindow : UInt8 → MonitorProgram Bool :=
  updateBatteryWindow .o [.o1, .o2, .o3] slowerUpdateBackoff
    (fun bs => slashed (fun b => (bs.data b).current) ++ " mA, " ++
      slashed (fun b => (bs.data b).voltage) ++ " mV")
    (fun bs => toString (sumOfCapacities bs) ++ " mAhr(s) remain [" ++
      (displayBatteryStatusHelper (bs.status .o1)).toString ++
      (displayBatteryStatusHelper (bs.status .o2)).toString ++
      (displayBatteryStatusHelper (bs.status .o3)).toString ++ "]")
    fun bs => "lifetime -" ++ toString (sumOf bs (·.discharge)) ++ "/" ++
      toString (sumOf bs (·.charge)) ++ " mAhr"

-- How one of the two loads is powered. What has not been read does not matter, as `isKnown` is false then.
def displayPowerState (enabled is12V isBatt : ReadBoolFunction) : MonitorProgram Unit := do
  match ← readBool enabled with
  | none           => displayPowerStatesHelper .power false false false false
  | some isEnabled =>
    match ← readBool is12V with
    | none         => displayPowerStatesHelper .power false isEnabled false false
    | some on12V   =>
      match ← readBool isBatt with
      | none       => displayPowerStatesHelper .power false isEnabled on12V false
      | some onBatt => displayPowerStatesHelper .power true isEnabled on12V onBatt

def sendMainsPowerAvailable : MonitorProgram Unit := do
  let _ ← ask .eventMainsPowerAvailable

def displayMains12V (mains12VPresent previousMains12VPresent : Bool) : MonitorProgram Unit := do
  if mains12VPresent then
    wprintw .power " present  "
    onlyIf (!previousMains12VPresent) sendMainsPowerAvailable
  else
    wprintw .power "   ---    "

-- The state of 12V power presence. Whatever comes of the event, it is not sent again.
def updateMains12V : MonitorProgram Unit := do
  match ← readBool .readMains12VPin with
  | some mains12VPresent =>
    displayMains12V mains12VPresent (← load)
    store mains12VPresent
  | none => wprintw .power "    ??    "

def updatePowerWindow (count : UInt8) : MonitorProgram Bool := do
  onlyIf (count % slowUpdateBackoff = 0) do
    wmove .power 0
    printLine .power stringPowerHeading
    wmove .power 1
    wclrtoeol .power
    updateMains12V
    displayPowerState .readOnPCBRelaysEnabled .readRioPwr12V .readRioPwrBatt
    displayPowerState .readExternalRelaysEnabled .readOPwr12V .readOPwrBatt
  wnoutrefresh .power
  return false

-- The texts of the states, one by one. An ASSERT fails if there is no text for a state.
def printChargeStates (chargeState : ChargerReading) : List Charger → MonitorProgram Unit
  | []      => return ()
  | c :: cs => do
    assert (decide (chargeStateValue (chargeState.state c) < gChargeStrings.length))
    wprintw .chg (gChargeStrings.getD (chargeStateValue (chargeState.state c)) "")
    printChargeStates chargeState cs

def displayChargeState : Option ChargerReading → MonitorProgram Unit
  | some chargeState =>
    onlyIf chargeState.flashDetectPossible do
      wmove .chg 1
      wclrtoeol .chg
      printChargeStates chargeState [.rio, .o1, .o2, .o3]
  | none => return ()

def updateChgWindow : MonitorProgram Bool := do
  wmove .chg 0
  printLine .chg "  Pi   O1   O2   O3"
  displayChargeState (← ask .readChargerState)
  wnoutrefresh .chg
  return false

-- The status of any recent task activity.
def printTaskInfo (info : RoboOneTaskInfo) : MonitorProgram Unit :=
  onlyIf (info.lastTaskSent.length > 0) do
    wprintw .state ("Task " ++ toString info.taskCounter ++ ": '" ++ info.lastTaskSent ++ "'")
    onlyIf info.lastResultReceivedIsValid do
      wprintw .state (", " ++ displayTaskResultHelper info.lastResultReceived)
      onlyIf (info.lastIndString.length > 0) <| wprintw .state (": '" ++ info.lastIndString ++ "'")

def printContext : Option (Option String) → MonitorProgram Unit
  | some (some name) => wprintw .state name
  | some none        => wprintw .state "Invalid response"
  | none             => wprintw .state "Error"

-- If a ping can be sent, then the Hindbrain is there.
def printPing (success : Bool) : MonitorProgram Unit :=
  wprintw .state (if success then " [Hindbrain ON]" else " [Hindbrain OFF]")

def updateStateWindow : MonitorProgram Bool := do
  wmove .state 0
  wclrtoeol .state
  let pReceivedMsgBody : Bool ← ask .malloc
  onlyIf pReceivedMsgBody do
    printContext (← ask .getContext)
    let pInputContainer : Bool ← ask .malloc
    onlyIf pInputContainer do
      printPing (← ask .sendPingString)
    wmove .state 1
    wclrtoeol .state
    printTaskInfo (← ask .taskInfo)
    wnoutrefresh .state
  return false

def updateCmdWindow : MonitorProgram Bool := do
  let key : UInt8 ← ask .getch
  let menu : Bool × Bool ← ask (.handleUserCmdMenu key)
  let (commandExecuted, exitMenu) := menu
  onlyIf commandExecuted do
    wmove .cmd 0
    printLine .cmd commandPrompt
  wnoutrefresh .output
  wnoutrefresh .cmd
  return exitMenu

def Window.update (count : UInt8) : Window → MonitorProgram Bool
  | output => updateOutputWindow
  | rio    => updateRioWindow count
  | o      => updateOWindow count
  | power  => updatePowerWindow count
  | chg    => updateChgWindow
  | state  => updateStateWindow
  | cmd    => updateCmdWindow

def gWindowList : List Window :=
  [.output, .rio, .o, .power, .chg, .state, .cmd]

-- The inner loop of `runMonitor`. The Task Handler server is ticked after each window update.
def updateWindows (count : UInt8) : List Window → MonitorProgram Bool
  | []      => return false
  | x :: xs => do
    let exitDashboard ← x.update count
    let _ ← ask .taskHandlerTick
    if exitDashboard then return true else updateWindows count xs

-- So many turns of the outer loop of `runMonitor`, unless there is an exit. `i` is a `UInt8`.
def runMonitor : Nat → (i : UInt8) → MonitorProgram Bool
  | 0,     _ => return false
  | n + 1, i => do
    let exitDashboard ← updateWindows i gWindowList
    let _ ← ask .doupdate
    if exitDashboard then return true else runMonitor n (i + 1)

end RoboOne.Monitor
