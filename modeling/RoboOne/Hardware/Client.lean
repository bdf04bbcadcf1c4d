import RoboOne.Hardware.Msgs
import RoboOne.Messaging.Request

namespace RoboOne.Hardware

open Messaging

def hardwareServerPort : UInt16 := 5234

-- What `hardwareServerSendReceive` sends.
def request (pSendMsg : Msg) (msgType : HardwareMsgType) (pSendMsgBody : Option (List UInt8))
    (sendMsgBodyLength : UInt16) : Msg :=
  Messaging.request pSendMsg msgType.toUInt8 pSendMsgBody sendMsgBodyLength

-- What it returns, and the bytes that it copies to `pReceivedMsgSpecifics`. The result is `none` if an
-- ASSERT fails or the receive loop takes more than the given number of turns.
def hardwareServerSendReceive (calls : ClientCalls) (turns : Nat) (serverSocket : Socket)
    (mallocSendMsg mallocReceivedMsg : Option Msg) (msgType : HardwareMsgType)
    (pSendMsgBody : Option (List UInt8)) (sendMsgBodyLength : UInt16)
    (pReceivedMsgSpecifics : Bool) : Option (Bool × Option (List UInt8)) :=
  if sendMsgBodyLength.toNat ≤ maxMsgBodyLength then
    match mallocSendMsg, mallocReceivedMsg with
    | some pSendMsg, some pReceivedMsg =>
      let pSendMsg := request pSendMsg msgType pSendMsgBody sendMsgBodyLength
      (runMessagingClient calls turns serverSocket hardwareServerPort none (some pSendMsg)
        (some (pReceivedMsg.setLength 0))).map (receiveCnf pReceivedMsgSpecifics)
    | _, _ => some (false, none)
  else
    none

end RoboOne.Hardware
