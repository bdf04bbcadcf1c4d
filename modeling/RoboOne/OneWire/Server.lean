import RoboOne.Library.Bytes
import RoboOne.Library.Program

namespace RoboOne.OneWire

open Bytes Interaction

def numBytesInSerialNum : Nat := 8

def ds2408MaxBytesInChannelAccess : Nat := 32

def ds2438NumBytesInPage : Nat := 8

def ds2438NumUserDataPages : UInt8 := 4

def ds2438NumPages : UInt8 := 8

-- The message types of the write requests, among those of the OneWire server.
inductive OneWireMsgType
  | writeControlRegisterDS2408
  | channelAccessWriteDS2408
  | writeCSChannelSelectionMaskRegisterDS2408
  | writeCSChannelPolaritySelectionRegisterDS2408
  | writeNVPageDS2438
  | writeNVConfigThresholdDS2438
  | writeTimeCapacityDS2438
  | writeNVChargeDischargeDS2438
  | writeNVUserDataDS2438
deriving DecidableEq

-- At the start of all requests. `serialNumber` is an array.
structure OneWireMsgHeader where
  portNumber   : Int32
  serialNumber : Vector UInt8 numBytesInSerialNum
deriving DecidableEq

def sizeOfOneWireMsgHeader : Nat := 4 + numBytesInSerialNum

-- The functions of the driver that write to a device, with what their pointers point to.
inductive DriverFunction
  | writeControlRegisterDS2408 (data : UInt8)
  | channelAccessWriteDS2408 (pData : List UInt8)
  | writeCSChannelSelectionMaskRegisterDS2408 (data : UInt8)
  | writeCSChannelPolaritySelectionRegisterDS2408 (data : UInt8)
  | writeNVPageDS2438 (page : UInt8) (pMem : List UInt8) (size : UInt8)
  | writeNVConfigThresholdDS2438 (pConfig : UInt8) (pThreshold : Option UInt8)
  | writeTimeCapacityDS2438 (pElapsedTime : UInt32) (pRemainingCapacity : Option UInt16)
    (writeShadow : Bool)
  | writeNVChargeDischargeDS2438 (pCharge : UInt32) (pDischarge : Option UInt32)
  | writeNVUserDataDS2438 (block : UInt8) (pMem : List UInt8) (size : UInt8)
deriving DecidableEq

structure DriverCall where
  portNumber    : Int32
  pSerialNumber : List UInt8
  function      : DriverFunction
deriving DecidableEq

-- All of them return success.
abbrev DriverCall.Answer : DriverCall → Type :=
  fun _ => Bool

abbrev OneWireWorld :=
  World DriverCall.Answer Unit

abbrev OneWireProgram :=
  Interaction.Program DriverCall.Answer Unit

-- A call of the driver for the device that the header names, and the body of the confirmation.
def callDriver (portNumber : Int32) (pSerialNumber : List UInt8) (function : DriverFunction) :
    OneWireProgram (List UInt8) := do
  let success ← call (⟨portNumber, pSerialNumber, function⟩ : DriverCall)
  return [Bool.toUInt8 success]

section

variable (portNumber : Int32) (pSerialNumber : List UInt8)

def actionWriteByteRegister (msgType : OneWireMsgType) (data : UInt8) : OneWireProgram (List UInt8) :=
  match msgType with
  | .writeControlRegisterDS2408 =>
    callDriver portNumber pSerialNumber (.writeControlRegisterDS2408 data)
  | .writeCSChannelSelectionMaskRegisterDS2408 =>
    callDriver portNumber pSerialNumber (.writeCSChannelSelectionMaskRegisterDS2408 data)
  | .writeCSChannelPolaritySelectionRegisterDS2408 =>
    callDriver portNumber pSerialNumber (.writeCSChannelPolaritySelectionRegisterDS2408 data)
  | _ => do
    assert false
    return []

def actionChannelAccessWriteDS2408 (pData : List UInt8) : OneWireProgram (List UInt8) :=
  callDriver portNumber pSerialNumber (.channelAccessWriteDS2408 pData)

def actionWriteNVPageDS2438 (page : UInt8) (pMem : List UInt8) (size : UInt8) :
    OneWireProgram (List UInt8) := do
  assert (page < ds2438NumPages)
  assert (size.toNat ≤ ds2438NumBytesInPage)
  callDriver portNumber pSerialNumber (.writeNVPageDS2438 page pMem size)

def actionWriteNVConfigThresholdDS2438 (config : UInt8) (thresholdPresent : Bool) (threshold : UInt8) :
    OneWireProgram (List UInt8) :=
  let pThreshold := if thresholdPresent then some threshold else none
  callDriver portNumber pSerialNumber (.writeNVConfigThresholdDS2438 config pThreshold)

-- The server does not pass the last argument of the driver: there is whatever happens to be in its place.
def actionWriteTimeCapacityDS2438 (elapsedTime : UInt32) (remainingCapacityPresent : Bool)
    (remainingCapacity : UInt16) (notPassed : Bool) : OneWireProgram (List UInt8) :=
  let pRemainingCapacity := if remainingCapacityPresent then some remainingCapacity else none
  callDriver portNumber pSerialNumber
    (.writeTimeCapacityDS2438 elapsedTime pRemainingCapacity notPassed)

def actionWriteNVChargeDischargeDS2438 (charge : UInt32) (dischargePresent : Bool)
    (discharge : UInt32) : OneWireProgram (List UInt8) :=
  let pDischarge := if dischargePresent then some discharge else none
  callDriver portNumber pSerialNumber (.writeNVChargeDischargeDS2438 charge pDischarge)

def actionWriteNVUserDataDS2438 (block : UInt8) (pMem : List UInt8) (size : UInt8) :
    OneWireProgram (List UInt8) := do
  assert (block < ds2438NumUserDataPages)
  assert (size.toNat ≤ ds2438NumBytesInPage)
  callDriver portNumber pSerialNumber (.writeNVUserDataDS2438 block pMem size)

end

-- The members of the packed structures that lie over the body, by their offsets.
def uint8At (memory : List UInt8) (offset : Nat) : UInt8 :=
  memory.getD offset 0

def boolAt (memory : List UInt8) (offset : Nat) : Bool :=
  memory.getD offset 0 ≠ 0

def uint16At (memory : List UInt8) (offset : Nat) : UInt16 :=
  .ofNat (leValue ((memory.drop offset).take 2))

def uint32At (memory : List UInt8) (offset : Nat) : UInt32 :=
  .ofNat (leValue ((memory.drop offset).take 4))

def arrayAt (memory : List UInt8) (offset length : Nat) : List UInt8 :=
  (memory.drop offset).take length

-- `discharge` is put into a `UInt16` on its way. The result is what is put into the body of the
-- response, or `none` if an ASSERT fails.
def doAction (notPassed : Bool) (receivedMsgType : OneWireMsgType) (pReceivedMsgBody : List UInt8) :
    OneWireProgram (List UInt8) :=
  let portNumber := (uint32At pReceivedMsgBody 0).toInt32
  let serialNumber := arrayAt pReceivedMsgBody 4 numBytesInSerialNum
  let req := pReceivedMsgBody.drop sizeOfOneWireMsgHeader
  match receivedMsgType with
  | .writeControlRegisterDS2408 | .writeCSChannelSelectionMaskRegisterDS2408
  | .writeCSChannelPolaritySelectionRegisterDS2408 =>
    let data := uint8At req 0
    actionWriteByteRegister portNumber serialNumber receivedMsgType data
  | .channelAccessWriteDS2408 =>
    let pData := arrayAt req 0 ds2408MaxBytesInChannelAccess
    actionChannelAccessWriteDS2408 portNumber serialNumber pData
  | .writeNVPageDS2438 =>
    let page := uint8At req 0
    let pMem := arrayAt req 2 ds2438NumBytesInPage
    let memLength := uint8At req 1
    actionWriteNVPageDS2438 portNumber serialNumber page pMem memLength
  | .writeNVConfigThresholdDS2438 =>
    let config := uint8At req 0
    let thresholdPresent := boolAt req 1
    let threshold := uint8At req 2
    actionWriteNVConfigThresholdDS2438 portNumber serialNumber config thresholdPresent threshold
  | .writeTimeCapacityDS2438 =>
    let elapsedTime := uint32At req 0
    let remainingCapacityPresent := boolAt req 4
    let remainingCapacity := uint16At req 5
    actionWriteTimeCapacityDS2438 portNumber serialNumber elapsedTime remainingCapacityPresent
      remainingCapacity notPassed
  | .writeNVChargeDischargeDS2438 =>
    let charge := uint32At req 0
    let dischargePresent := boolAt req 4
    let discharge := (uint32At req 5).toUInt16
    actionWriteNVChargeDischargeDS2438 portNumber serialNumber charge dischargePresent
      discharge.toUInt32
  | .writeNVUserDataDS2438 =>
    let block := uint8At req 0
    let pMem := arrayAt req 2 ds2438NumBytesInPage
    let memLength := uint8At req 1
    actionWriteNVUserDataDS2438 portNumber serialNumber block pMem memLength

end RoboOne.OneWire
