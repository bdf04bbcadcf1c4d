import RoboOne.Library.Execution
import RoboOne.OneWire.Pages

namespace RoboOne.OneWire.Link

open Interaction

def modeData : UInt8 := 0xE1
def modeCommand : UInt8 := 0xE3
def modeStopPulse : UInt8 := 0xF1

def rbResetMask : UInt8 := 0x03
def rbPresence : UInt8 := 0x01
def rbAlarmPresence : UInt8 := 0x02

def cmdComm : UInt8 := 0x81
def cmdConfig : UInt8 := 0x01

def functSelBit : UInt8 := 0x00
def functSelSearchOn : UInt8 := 0x30
def functSelSearchOff : UInt8 := 0x20
def functSelReset : UInt8 := 0x40
def functSelChMod : UInt8 := 0x60

def bitPolOne : UInt8 := 0x10
def bitPol5V : UInt8 := 0x00
def prime5VFalse : UInt8 := 0x00

def speedSelFlex : UInt8 := 0x04
def speedSelPulse : UInt8 := 0x0C

def parmSelParmRead : UInt8 := 0x00
def parmSelSlew : UInt8 := 0x10
def parmSelWrite1Low : UInt8 := 0x40
def parmSelSampleOffset : UInt8 := 0x50
def parmSelBaudRate : UInt8 := 0x70

def parmSetSlew1p37Vus : UInt8 := 0x06
def parmSetWrite10us : UInt8 := 0x04
def parmSetSampOff8us : UInt8 := 0x0A
def parmSet9600 : UInt8 := 0x00

def modeNormal : UInt8 := 0x00

-- What the adapter takes the bytes for.
inductive UMode
  | modSelData
  | modSelCommand
deriving DecidableEq

abbrev SerialNum :=
  Vector UInt8 8

-- Where a search has got to.
structure SearchState where
  lastDiscrepancy       : Nat
  lastFamilyDiscrepancy : Nat
  lastDevice            : Bool
  serialNum             : SerialNum
deriving DecidableEq

-- The variables of a port.
structure Port where
  uLevel : UInt8
  uBaud  : UInt8
  uMode  : UMode
  uSpeed : UInt8
  search : SearchState
deriving DecidableEq

def Port.initial : Port where
  uLevel := 0
  uBaud  := 0
  uMode  := .modSelData
  uSpeed := 0
  search := {
    lastDiscrepancy       := 0
    lastFamilyDiscrepancy := 0
    lastDevice            := false
    serialNum             := .replicate 8 0 }

inductive ComCall
  | flushCOM
  | writeCOM (outbuf : List UInt8)
  | readCOM (inlen : Nat)
  | setBaudCOM (newBaud : UInt8)
  | breakCOM
  | msDelay (len : Nat)
deriving DecidableEq

-- Nothing is made of the bytes of a read that ends early.
abbrev ComCall.Answer : ComCall → Type
  | flushCOM      => Unit
  | writeCOM _    => Bool
  | readCOM inlen => Option (Vector UInt8 inlen)
  | setBaudCOM _  => Unit
  | breakCOM      => Unit
  | msDelay _     => Unit

abbrev LinkProgram :=
  Interaction.Program ComCall.Answer Port

def flushCOM : LinkProgram Unit :=
  call ComCall.flushCOM

def writeCOM (outbuf : List UInt8) : LinkProgram Bool :=
  call (ComCall.writeCOM outbuf)

def readCOM (inlen : Nat) : LinkProgram (Option (Vector UInt8 inlen)) :=
  call (ComCall.readCOM inlen)

def setBaudCOM (newBaud : UInt8) : LinkProgram Unit :=
  call (ComCall.setBaudCOM newBaud)

def breakCOM : LinkProgram Unit :=
  call ComCall.breakCOM

def msDelay (len : Nat) : LinkProgram Unit :=
  call (ComCall.msDelay len)

-- A packet goes out, and the bytes of the response come back.
def exchange (sendpacket : List UInt8) (inlen : Nat) : LinkProgram (Option (Vector UInt8 inlen)) := do
  flushCOM
  if ← writeCOM sendpacket then readCOM inlen else return none

-- The packet that sets the parameters of the adapter, and to which only an adapter answers in that way.
def detectPacket (uBaud : UInt8) : List UInt8 := [
  cmdConfig ||| parmSelSlew ||| parmSetSlew1p37Vus,
  cmdConfig ||| parmSelWrite1Low ||| parmSetWrite10us,
  cmdConfig ||| parmSelSampleOffset ||| parmSetSampOff8us,
  cmdConfig ||| parmSelParmRead ||| (parmSelBaudRate >>> 3),
  cmdComm ||| functSelBit ||| uBaud ||| bitPolOne]

def ds2480Detect : LinkProgram Bool := do
  update fun p => { p with uMode := .modSelCommand, uBaud := parmSet9600, uSpeed := speedSelFlex }
  let uBaud := (← load).uBaud
  setBaudCOM uBaud
  breakCOM
  msDelay 2
  flushCOM
  if ← writeCOM [0xC1] then
    msDelay 4
    match ← exchange (detectPacket uBaud) 5 with
    | none            => return false
    | some readbuffer =>
      return readbuffer[3] &&& 0xF1 == 0x00 && readbuffer[3] &&& 0x0E == uBaud &&
        readbuffer[4] &&& 0xF0 == 0x90 && readbuffer[4] &&& 0x0C == uBaud
  else
    return false

-- The byte that has to come first for the adapter to be in the mode.
def changeMode (mode : UMode) (b : UInt8) : LinkProgram (List UInt8) := do
  if (← load).uMode ≠ mode then
    update fun p => { p with uMode := mode }
    return [b]
  else
    return []

-- `owLevel` for the only level that is ever asked for here.
def owLevelNormal : LinkProgram Unit := do
  if (← load).uLevel ≠ modeNormal then
    let sendpacket ← changeMode .modSelCommand modeCommand
    let pulse := cmdComm ||| functSelChMod ||| speedSelPulse ||| bitPol5V ||| prime5VFalse
    match ← exchange (sendpacket ++ [modeStopPulse, pulse, modeStopPulse]) 2 with
    | none            => let _ ← ds2480Detect
    | some readbuffer =>
      if readbuffer[0] &&& 0xE0 = 0xE0 ∧ readbuffer[1] &&& 0xE0 = 0xE0 then
        update fun p => { p with uLevel := modeNormal }
      else
        let _ ← ds2480Detect

def owTouchReset : LinkProgram Bool := do
  owLevelNormal
  let sendpacket ← changeMode .modSelCommand modeCommand
  let sendpacket := sendpacket ++ [cmdComm ||| functSelReset ||| (← load).uSpeed]
  match ← exchange sendpacket 1 with
  | some readbuffer =>
    if readbuffer[0] &&& rbResetMask = rbPresence ∨ readbuffer[0] &&& rbResetMask = rbAlarmPresence then
      return true
    else
      let _ ← ds2480Detect
      return false
  | none            =>
    let _ ← ds2480Detect
    return false

-- A packet whose length is a byte.
structure Packet where
  sendpacket : UInt8 → UInt8
  sendlen    : UInt8

namespace Packet

def empty : Packet where
  sendpacket _ := 0
  sendlen      := 0

def push (p : Packet) (b : UInt8) : Packet where
  sendpacket i := if i = p.sendlen then b else p.sendpacket i
  sendlen      := p.sendlen + 1

def bytes (p : Packet) : List UInt8 :=
  (List.range p.sendlen.toNat).map fun i => p.sendpacket (.ofNat i)

-- What looks like a change of the mode is sent twice.
def pushData (p : Packet) (b : UInt8) : Packet :=
  if b = modeCommand then (p.push b).push b else p.push b

end Packet

def owTouchByte (sendbyte : UInt8) : LinkProgram UInt8 := do
  owLevelNormal
  let sendpacket ← changeMode .modSelData modeData
  let packet := (sendpacket.foldl .push Packet.empty).pushData sendbyte
  match ← exchange packet.bytes 1 with
  | some readbuffer => return readbuffer[0]
  | none            =>
    let _ ← ds2480Detect
    return 0

def owWriteByte (sendbyte : UInt8) : LinkProgram Bool := do
  return (← owTouchByte sendbyte) = sendbyte

def owReadByte : LinkProgram UInt8 :=
  owTouchByte 0xFF

-- The part of `owBlock` behind the reset.
def transferBlock (tranBuf : List UInt8) : LinkProgram (Option (Vector UInt8 tranBuf.length)) := do
  let sendpacket ← changeMode .modSelData modeData
  let packet := tranBuf.foldl Packet.pushData (sendpacket.foldl .push Packet.empty)
  match ← exchange packet.bytes tranBuf.length with
  | some tranBuf => return some tranBuf
  | none         =>
    let _ ← ds2480Detect
    return none

def owBlock (doReset : Bool) (tranBuf : List UInt8) :
    LinkProgram (Option (Vector UInt8 tranBuf.length)) := do
  if tranBuf.length > 160 then
    return none
  else if doReset then
    if ← owTouchReset then transferBlock tranBuf else return none
  else
    transferBlock tranBuf

end RoboOne.OneWire.Link
