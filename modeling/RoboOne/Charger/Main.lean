import Mathlib.Data.Int.Basic
import RoboOne.Library.Program

namespace RoboOne.Charger

open Interaction

-- Convert an angle to microsteps, rounding down
def angleToMicrosteps (a : Nat) : Nat :=
  a * 1600 / 360

-- The minimum angle to move
def minAngleMicrosteps : Nat :=
  angleToMicrosteps 3

-- The minimum number of readings to decide on a move
def minReadings : Nat := 1

-- The maximum angle to move to, clockwise or anti-clockwise
def limitAngleMicrosteps : Int32 :=
  .ofNat <| angleToMicrosteps 90

inductive Gpio
  | motorMicroStep
  | motorDirection
  | motorEnableBar
  | irEnable
deriving DecidableEq

def owPinIrDetectNorth : UInt8 := 0x01

def owPinIrDetectEast : UInt8 := 0x02

def owPinIrDetectWest : UInt8 := 0x08

-- What is printed, of which the first one has the format `"\r:  %.2d.%3.3d Amps  "`.
inductive Progress
  | amps (currentInteger currentFraction : Int16)
  | text (s : String)
deriving DecidableEq

inductive MainCall
  | readPIOLogicStateDS2408
  | readCurrentDS2438
  | gpioSet (g : Gpio)
  | gpioClr (g : Gpio)
  | usleep (microseconds : UInt32)
  | printProgress (progress : Progress)
  | keyAbort
  | closeIo
deriving DecidableEq

-- What is read, if it succeeds.
abbrev MainCall.Answer : MainCall → Type
  | readPIOLogicStateDS2408 => Option UInt8
  | readCurrentDS2438       => Option Int16
  | gpioSet _               => Unit
  | gpioClr _               => Unit
  | usleep _                => Unit
  | printProgress _         => Unit
  | keyAbort                => Bool
  | closeIo                 => Unit

abbrev MainHistory :=
  History MainCall.Answer

-- The variable is `angleMicrosteps`, the only one that is kept from one turn of the loop to the next.
abbrev MainProgram :=
  Interaction.Program MainCall.Answer Int32

def readPIOLogicStateDS2408 : MainProgram (Option UInt8) :=
  call MainCall.readPIOLogicStateDS2408

def readCurrentDS2438 : MainProgram (Option Int16) :=
  call MainCall.readCurrentDS2438

def gpioSet (g : Gpio) : MainProgram Unit :=
  call (MainCall.gpioSet g)

def gpioClr (g : Gpio) : MainProgram Unit :=
  call (MainCall.gpioClr g)

def usleep (microseconds : UInt32) : MainProgram Unit :=
  call (MainCall.usleep microseconds)

def printProgress (progress : Progress) : MainProgram Unit :=
  call (MainCall.printProgress progress)

def keyAbort : MainProgram Bool :=
  call MainCall.keyAbort

def closeIo : MainProgram Unit :=
  call MainCall.closeIo

-- A receiver pulls its pin down when it sees the light.
def isDetected (pin pinsState : UInt8) : Bool :=
  pinsState &&& pin = 0

structure Votes where
  clockwiseVote     : Nat
  antiClockwiseVote : Nat
  moveVote          : Nat
  oneWireFailure    : Bool
deriving DecidableEq

def Votes.start : Votes where
  clockwiseVote     := 0
  antiClockwiseVote := 0
  moveVote          := 0
  oneWireFailure    := false

-- What one reading adds to the votes.
def Votes.add (v : Votes) (isNorth isEast isWest : Bool) : Votes :=
  let v :=
    -- If West LED is on, and not East, go anticlockwise
    if isWest && !isEast then
      { v with antiClockwiseVote := v.antiClockwiseVote + 1 }
    -- If East LED is on, and not West, go clockwise
    else if isEast && !isWest then
      { v with clockwiseVote := v.clockwiseVote + 1 }
    else
      v
  -- Nothing is to be done if it is lined up.
  if isNorth && ((!isWest && !isEast) || (isWest && isEast)) then
    v
  else
    { v with moveVote := v.moveVote + 1 }

-- Don't fail because of a failure, it can glitch.
def Votes.count (v : Votes) : Option UInt8 → Votes
  | none           => { v with oneWireFailure := true }
  | some pinsState =>
    v.add (isDetected owPinIrDetectNorth pinsState) (isDetected owPinIrDetectEast pinsState)
      (isDetected owPinIrDetectWest pinsState)

-- Count over a number of readings to avoid glitches
def readingLoop : Nat → Votes → MainProgram Votes
  | 0,     v => return v
  | x + 1, v => do
    let reading ← readPIOLogicStateDS2408
    readingLoop x (v.count reading)

-- Move the microsteps in the given direction, and tell if the limit keeps it from one of them.
def moveLoop (microstepChange : Int32) : Nat → Bool → MainProgram Bool
  | 0,     hitBuffers => return hitBuffers
  | x + 1, hitBuffers => do
    let angleMicrosteps ← load
    if angleMicrosteps + microstepChange < limitAngleMicrosteps ∧
        angleMicrosteps + microstepChange > -limitAngleMicrosteps then
      gpioSet .motorMicroStep
      usleep 10000
      gpioClr .motorMicroStep
      usleep 10000
      store (angleMicrosteps + microstepChange)
      moveLoop microstepChange x hitBuffers
    else
      moveLoop microstepChange x true

-- If there has been a decisive set of readings indicating a need to move, do something. The result is
-- `wantToGoClockwise` and `hitBuffers` if it wants to move.
def move (v : Votes) : MainProgram (Option (Bool × Bool)) :=
  if v.moveVote = minReadings ∧ v.clockwiseVote ≠ v.antiClockwiseVote then do
    if v.clockwiseVote > v.antiClockwiseVote then
      gpioSet .motorDirection
      let hitBuffers ← moveLoop 1 minAngleMicrosteps false
      return some (true, hitBuffers)
    else
      gpioClr .motorDirection
      let hitBuffers ← moveLoop (-1) minAngleMicrosteps false
      return some (false, hitBuffers)
  else
    return none

-- Now display something useful
def displayMove : Option (Bool × Bool) → MainProgram Unit
  | some (false, hitBuffers) => do
    printProgress (.text (if hitBuffers then " |" else "  "))
    printProgress (.text "<<     ..     ..")
  | some (true, hitBuffers)  => do
    printProgress (.text "  ..     ..     >>")
    printProgress (.text (if hitBuffers then "| " else "  "))
  | none                     => printProgress (.text "  ..    ^^^^    ..  ")

def display (moved : Option (Bool × Bool)) (oneWireFailure : Bool) : MainProgram Unit := do
  let read ← readCurrentDS2438
  -- Don't fail because of this, it can glitch
  let oneWireFailure := oneWireFailure || read.isNone
  let current := read.getD 0
  let currentFraction := current % 1000
  let currentFraction := if currentFraction < 0 then -currentFraction else currentFraction
  let currentInteger := current / 1000
  printProgress (.amps currentInteger currentFraction)
  displayMove moved
  printProgress (.text (if oneWireFailure then " [OneWire read failure]" else "                       "))
  printProgress (.text "\r")

-- A turn of the main loop, with the key that may end it. Behind each of the failures that are read,
-- `success` is true again.
def turn : MainProgram Bool := do
  let v ← readingLoop minReadings .start
  let moved ← move v
  display moved v.oneWireFailure
  keyAbort

-- What is done behind the main loop.
def shutDown : MainProgram Unit := do
  gpioSet .motorEnableBar
  printProgress (.text "Exiting...\n")
  gpioClr .irEnable
  closeIo

-- The main loop, as far as the given number of turns goes. The result tells if it has come to its end.
def mainLoop : Nat → MainProgram Bool
  | 0     => return false
  | n + 1 => do
    if ← turn then
      shutDown
      return true
    else
      mainLoop n

end RoboOne.Charger
