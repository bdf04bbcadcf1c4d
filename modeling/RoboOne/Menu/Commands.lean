import RoboOne.Library.Program

namespace RoboOne.Menu

open Interaction

-- includes a null terminator
def maxNumCharsInCommand : Nat := 4

def keyCommandCancel : UInt8 := 0x1b

def backspaceKey : UInt8 := 0x08

inductive CommandFunction
  | commandHelp
  | commandExit
  | displayCurrents
  | displayVoltages
  | displayRemainingCapacities
  | displayLifetimeChargesDischarges
  | displayGpios
  | performCalAllBatteryMonitorsCnf
  | swapRioBatteryCnf
  | swapO1BatteryCnf
  | swapO2BatteryCnf
  | swapO3BatteryCnf
  | togglePiRst
  | toggleOPwr
  | toggleORst
  | setRioPwrBattOn
  | setRioPwrBattOff
  | setRioPwr12VOn
  | setRioPwr12VOff
  | setOPwrBattOn
  | setOPwrBattOff
  | setOPwr12VOn
  | setOPwr12VOff
  | sendOString
  | sendOTask
  | sendMotionTask
  | setAllBatteryChargersOn
  | setAllBatteryChargersOff
  | setRioBatteryChargerOn
  | setRioBatteryChargerOff
  | setAllOChargersOn
  | setAllOChargersOff
  | setO1BatteryChargerOn
  | setO1BatteryChargerOff
  | setO2BatteryChargerOn
  | setO2BatteryChargerOff
  | setO3BatteryChargerOn
  | setO3BatteryChargerOff
  | displayRelayStates
  | enableAllRelays
  | disableAllRelays
deriving DecidableEq

structure Command where
  commandString      : List Char
  function           : CommandFunction
  functionCanDisplay : Bool
  pDescription       : String

-- Array of possible commands. All command strings MUST be unique.
def gCommandList : Vector Command 41 := #v[
  ⟨['?'], .commandHelp, true, "display command help"⟩,
  ⟨['X'], .commandExit, false, "exit this program"⟩,
  ⟨['I'], .displayCurrents, true, "display current readings"⟩,
  ⟨['V'], .displayVoltages, true, "display Voltage readings"⟩,
  ⟨['A'], .displayRemainingCapacities, true, "display the accumulated remaining capacities"⟩,
  ⟨['L'], .displayLifetimeChargesDischarges, true,
    "display the lifetime charge/discharge accumulators"⟩,
  ⟨['G'], .displayGpios, true, "display GPIO pin states"⟩,
  ⟨['Q'], .performCalAllBatteryMonitorsCnf, true, "calibrate battery monitors"⟩,
  ⟨['S', 'P'], .swapRioBatteryCnf, true, "swap the battery connected to the RIO/Pi"⟩,
  ⟨['S', '1'], .swapO1BatteryCnf, true, "swap the battery connected to the O1"⟩,
  ⟨['S', '2'], .swapO2BatteryCnf, true, "swap the battery connected to the O2"⟩,
  ⟨['S', '3'], .swapO3BatteryCnf, true, "swap the battery connected to the O3"⟩,
  ⟨['P', '!'], .togglePiRst, false, "toggle reset to the Pi [not yet implemented]"⟩,
  ⟨['H', '~'], .toggleOPwr, false, "toggle power to the hindbrain (AKA Orangutan)"⟩,
  ⟨['H', '!'], .toggleORst, false, "toggle reset to the hindbrain (AKA Orangutan)"⟩,
  ⟨['P', 'B', '+'], .setRioPwrBattOn, false, "switch RIO/Pi battery power on"⟩,
  ⟨['P', 'B', '-'], .setRioPwrBattOff, false, "switch RIO/Pi battery power off"⟩,
  ⟨['P', 'M', '+'], .setRioPwr12VOn, false, "switch RIO/Pi mains power on"⟩,
  ⟨['P', 'M', '-'], .setRioPwr12VOff, false, "switch RIO/Pi mains power off"⟩,
  ⟨['H', 'B', '+'], .setOPwrBattOn, false, "switch hindbrain (AKA Orangutan) battery power on"⟩,
  ⟨['H', 'B', '-'], .setOPwrBattOff, false, "switch hindbrain (AKA Orangutan) battery power off"⟩,
  ⟨['H', 'M', '+'], .setOPwr12VOn, false, "switch hindbrain (AKA Orangutan) mains power on"⟩,
  ⟨['H', 'M', '-'], .setOPwr12VOff, false, "switch hindbrain (AKA Orangutan) mains power off"⟩,
  ⟨['H', 'S'], .sendOString, true, "send hindbrain (AKA Orangutan) a string"⟩,
  ⟨['T', 'H'], .sendOTask, true, "task sent to hindbrain (AKA Orangutan)"⟩,
  ⟨['T', 'M'], .sendMotionTask, true, "task to do with motion"⟩,
  ⟨['C', 'X', '+'], .setAllBatteryChargersOn, false, "switch all chargers on"⟩,
  ⟨['C', 'X', '-'], .setAllBatteryChargersOff, false, "switch all chargers off"⟩,
  ⟨['C', 'P', '+'], .setRioBatteryChargerOn, false, "switch RIO/Pi charger on"⟩,
  ⟨['C', 'P', '-'], .setRioBatteryChargerOff, false, "switch RIO/Pi charger off"⟩,
  ⟨['C', 'H', '+'], .setAllOChargersOn, false, "switch all hindbrain chargers on"⟩,
  ⟨['C', 'H', '-'], .setAllOChargersOff, false, "switch all hindbrain chargers off"⟩,
  ⟨['C', '1', '+'], .setO1BatteryChargerOn, false, "switch hindbrain charger 1 on"⟩,
  ⟨['C', '1', '-'], .setO1BatteryChargerOff, false, "switch hindbrain charger 1 off"⟩,
  ⟨['C', '2', '+'], .setO2BatteryChargerOn, false, "switch hindbrain charger 2 on"⟩,
  ⟨['C', '2', '-'], .setO2BatteryChargerOff, false, "switch hindbrain charger 2 off"⟩,
  ⟨['C', '3', '+'], .setO3BatteryChargerOn, false, "switch hindbrain charger 3 on"⟩,
  ⟨['C', '3', '-'], .setO3BatteryChargerOff, false, "switch hindbrain charger 3 off"⟩,
  ⟨['R', '?'], .displayRelayStates, true, "display the state of all relays"⟩,
  ⟨['R', 'X', '+'], .enableAllRelays, false, "enable power to all relays"⟩,
  ⟨['R', 'X', '-'], .disableAllRelays, false, "disable power to all relays"⟩]

abbrev CommandIndex := Fin 41

-- Keep this pointed at the "X" command entry above
def gIndexOfExitCommand : CommandIndex := 1

-- The characters of a command string, without the null terminator.
def commandString (i : CommandIndex) : List UInt8 :=
  (gCommandList.get i).commandString.map fun c => c.toNat.toUInt8

-- `gCommandList[i].commandString[entryPos]`.
def commandChar (i : CommandIndex) (entryPos : Nat) : UInt8 :=
  (commandString i).getD entryPos 0

def toUpper (digit : UInt8) : UInt8 :=
  if digit ≥ 0x61 ∧ digit ≤ 0x7a then digit &&& ~~~0x20 else digit

-- What is printed: a character of a command, the format `"Cmd: %s...\n"`, or `"Done.\n"`.
inductive Text
  | char (c : UInt8)
  | cmd (pDescription : String)
  | done
deriving DecidableEq

-- What is done to the two windows, and the functions that are called.
inductive MenuCall
  | eraseChar
  | wprintw (text : Text)
  | pDisplay (function : CommandFunction)
  | pCommand (function : CommandFunction)
deriving DecidableEq

-- A function returns its success.
abbrev MenuCall.Answer : MenuCall → Type
  | eraseChar  => Unit
  | wprintw _  => Unit
  | pDisplay _ => Bool
  | pCommand _ => Bool

abbrev MenuHistory :=
  History MenuCall.Answer

-- The static variables.
structure Statics where
  numEntries : Nat
  entry      : Vector UInt8 maxNumCharsInCommand
deriving DecidableEq

def Statics.fresh : Statics where
  numEntries := 0
  entry      := .replicate maxNumCharsInCommand 0

abbrev MenuWorld :=
  World MenuCall.Answer Statics

abbrev MenuProgram :=
  Interaction.Program MenuCall.Answer Statics

def eraseChar : MenuProgram Unit :=
  call MenuCall.eraseChar

def wprintw (text : Text) : MenuProgram Unit :=
  call (MenuCall.wprintw text)

def pDisplay (function : CommandFunction) : MenuProgram Bool :=
  call (MenuCall.pDisplay function)

def pCommand (function : CommandFunction) : MenuProgram Bool :=
  call (MenuCall.pCommand function)

-- `entry[i] = c`, which must not be beyond the end of the array.
def setEntry (i : Nat) (c : UInt8) : MenuProgram Unit := do
  assert (i < maxNumCharsInCommand)
  let s ← load
  store { s with entry := s.entry.setIfInBounds i c }

def setNumEntries (numEntries : Nat) : MenuProgram Unit := do
  let s ← load
  store { s with numEntries := numEntries }

-- `pEntry` is the index of the entry.
def actOnBackspace (pEntry : Nat) : MenuProgram Unit := do
  setEntry pEntry 0
  let s ← load
  setNumEntries (s.numEntries - 1)
  eraseChar

-- The loop that resets the entries, the number of which is read again for each turn. The first
-- argument is a limit on the turns, which are no more than there are entries.
def cancelLoop : Nat → Nat → MenuProgram Unit
  | 0,     _ => return
  | x + 1, i => do
    let s ← load
    if i < s.numEntries then
      actOnBackspace i
      cancelLoop x (i + 1)
    else
      return

structure Found where
  matching            : CommandIndex → Bool
  numFound            : Nat
  lastCommandMatching : CommandIndex

-- One turn of the loop over the commands.
def matchCommand (entryPos : Nat) (c : UInt8) (f : Found) (i : CommandIndex) : Found :=
  if f.matching i then
    if commandChar i entryPos = c then
      { f with numFound := f.numFound + 1, lastCommandMatching := i }
    else
      { f with matching := Function.update f.matching i false }
  else
    f

-- The loop over the characters entered so far, from the one at `entryPos`. There is one at least.
def findCommands : Nat → List UInt8 → Found → Found
  | _,        [],      f => f
  | entryPos, c :: cs, f =>
    let f := (List.finRange _).foldl (matchCommand entryPos c) ⟨f.matching, 0, 0⟩
    if f.numFound > 0 then findCommands (entryPos + 1) cs f else f

-- If there is only one command then call the function. No pointer to a function is `PNULL`. The
-- result is `*pExitMenu`.
def callFunction (lastCommandMatching : CommandIndex) : MenuProgram Bool := do
  let command := gCommandList.get lastCommandMatching
  wprintw (.cmd command.pDescription)
  if command.functionCanDisplay then
    let _ ← pDisplay command.function
    return false
  else
    let success ← pCommand command.function
    -- Check if we're exiting and give some feedback for these functions that otherwise don't give
    -- any
    if lastCommandMatching ≠ gIndexOfExitCommand then
      if success then
        wprintw .done
      return false
    else
      return true

-- Go through the characters entered so far and find out which command they refer to. When only one is
-- found, run the command function. The results are `commandExecuted` and `*pExitMenu`.
def handleEntry : MenuProgram (Bool × Bool) := do
  let s ← load
  let f := findCommands 0 (s.entry.toList.take s.numEntries) ⟨fun _ => true, 0, 0⟩
  if f.numFound = 0 then
    -- None found, delete the most recent key entered as it won't get us anywhere
    setNumEntries (s.numEntries - 1)
    return (false, false)
  else
    -- Found a possible command so display the new character straight away
    wprintw (.char (s.entry.toList.getD (s.numEntries - 1) 0))
    if f.numFound = 1 then
      let exitMenu ← callFunction f.lastCommandMatching
      setNumEntries 0
      return (true, exitMenu)
    else
      return (false, false)

def handleUserCmdMenu (key : UInt8) : MenuProgram (Bool × Bool) := do
  let s ← load
  if key = keyCommandCancel then
    -- Reset the number of entries and go fully backwards on the screen
    cancelLoop s.numEntries 0
    return (false, false)
  else if key = backspaceKey then
    -- Set last entry to zero and go back one on the screen
    if s.numEntries > 0 then
      actOnBackspace s.numEntries
    return (false, false)
  else
    setEntry s.numEntries (toUpper key)
    setNumEntries (s.numEntries + 1)
    handleEntry

end RoboOne.Menu
