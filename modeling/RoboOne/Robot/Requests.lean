import RoboOne.BatteryManager.Client
import RoboOne.Hardware.Client
import RoboOne.StateMachine.Client
import RoboOne.Timer.Client

namespace RoboOne.Robot

open Messaging

-- One of the senders, and the type that it is to send.
inductive Sender
  | hardware (msgType : Hardware.HardwareMsgType)
  | stateMachine (sendMsgType : StateMachine.Client.StateMachineMsgType)
  | batteryManager (msgType : BatteryManager.BatteryManagerMsgType)
  | timer (msgType : Timer.TimerMsgType)
deriving DecidableEq

namespace Sender

def msgType : Sender → UInt8
  | hardware msgType         => msgType.toUInt8
  | stateMachine sendMsgType => sendMsgType.toUInt8
  | batteryManager msgType   => msgType.toUInt8
  | timer msgType            => msgType.toUInt8

-- The message that it passes to `runMessagingClient`.
def request (sender : Sender) (pSendMsg : Msg) (pSendMsgBody : Option (List UInt8))
    (sendMsgBodyLength : UInt16) : Msg :=
  match sender with
  | hardware msgType         => Hardware.request pSendMsg msgType pSendMsgBody sendMsgBodyLength
  | stateMachine sendMsgType =>
    StateMachine.Client.request pSendMsg sendMsgType pSendMsgBody sendMsgBodyLength
  | batteryManager msgType   => BatteryManager.request pSendMsg msgType pSendMsgBody sendMsgBodyLength
  | timer msgType            => Timer.request pSendMsg msgType pSendMsgBody sendMsgBodyLength

-- All of them put their messages together in the same way.
theorem request_eq (sender : Sender) (pSendMsg : Msg) (body : Option (List UInt8)) (length : UInt16) :
    sender.request pSendMsg body length = Messaging.request pSendMsg sender.msgType body length := by
  cases sender <;> rfl

end Sender

-- A message of a sender counts and carries the whole body if and only if that has at most 254 bytes, of
-- the 257 that pass the check.
theorem outgoing_message_encoded_iff (sender : Sender) (pSendMsg : Msg)
    (pSendMsgBody : Option (List UInt8)) (sendMsgBodyLength : UInt16)
    (h : sendMsgBodyLength.toNat ≤ maxMsgBodyLength) :
    Encoded (sender.request pSendMsg pSendMsgBody sendMsgBodyLength) sender.msgType pSendMsgBody
      sendMsgBodyLength ↔ sendMsgBodyLength.toNat ≤ 254 := by
  rw [sender.request_eq]
  exact encoded_iff h

theorem outgoing_message_encoded_iff_toggle :
    Encoded ((Sender.hardware .toggleOPwr).request .zero (some [1]) 1)
      (Sender.hardware .toggleOPwr).msgType (some [1]) 1 ↔ (1 : UInt16).toNat ≤ 254 :=
  outgoing_message_encoded_iff (.hardware .toggleOPwr) .zero (some [1]) 1 (by decide)

-- With a body of 255 bytes `msgLength` is zero.
theorem outgoing_message_not_encoded :
    ¬∀ (sender : Sender) (pSendMsg : Msg) (pSendMsgBody : Option (List UInt8))
      (sendMsgBodyLength : UInt16), sendMsgBodyLength.toNat ≤ maxMsgBodyLength →
        Encoded (sender.request pSendMsg pSendMsgBody sendMsgBodyLength) sender.msgType pSendMsgBody
          sendMsgBodyLength := by
  intro h
  have he := h (.timer .startReq) .zero (some (List.replicate 255 7)) 255 (by decide)
  rw [Sender.request_eq, encoded_iff (by decide)] at he
  exact absurd he (by decide)

end RoboOne.Robot
