import RoboOne.Messaging.Request

namespace RoboOne.StateMachine.Client

open Messaging

def stateMachineServerPort : UInt16 := 5231

-- The message types of the server, in the order of the message list.
inductive StateMachineMsgType
  | serverNull
  | serverStart
  | serverStop
  | serverGetContext
  | eventInit
  | eventInitFailure
  | eventTimerExpiry
  | eventTasksAvailable
  | eventNoTasksAvailable
  | eventMainsPowerAvailable
  | eventInsufficientPower
  | eventFullyCharged
  | eventInsufficientCharge
  | eventShutdown
deriving DecidableEq

def StateMachineMsgType.toUInt8 (t : StateMachineMsgType) : UInt8 :=
  .ofNat t.ctorIdx

-- What `stateMachineServerSendReceive` sends.
def request (pSendMsg : Msg) (sendMsgType : StateMachineMsgType) (pSendMsgBody : Option (List UInt8))
    (sendMsgBodyLength : UInt16) : Msg :=
  Messaging.request pSendMsg sendMsgType.toUInt8 pSendMsgBody sendMsgBodyLength

-- What a caller of `stateMachineServerSendReceive` gets: the value that it returns, and what it puts at
-- the two pointers, if it does.
structure Reply where
  success          : Bool
  pReceivedMsgType : Option UInt8
  pReceivedMsgBody : Option (List UInt8)
deriving DecidableEq

def Reply.failure : Reply where
  success          := false
  pReceivedMsgType := none
  pReceivedMsgBody := none

-- Without a pointer to the type there is no wait for a reply. The result is `none` if an ASSERT fails.
def receive (pReceivedMsgBody : Bool) : ClientReturnCode × Option Msg → Option Reply
  | (.success, none)              => some { Reply.failure with success := true }
  | (.success, some pReceivedMsg) =>
    if pReceivedMsg.msgLength.toNat ≥ sizeOfMsgType then
      let receivedMsgBodyLength := pReceivedMsg.msgLength.toNat - sizeOfMsgType
      if receivedMsgBodyLength ≤ maxMsgBodyLength then
        some {
          success          := true
          pReceivedMsgType := some pReceivedMsg.msgType
          pReceivedMsgBody := if pReceivedMsgBody && receivedMsgBodyLength > 0 then
              some (pReceivedMsg.msgBody.take receivedMsgBodyLength)
            else
              none }
      else
        none
    else
      some .failure
  | _ => some .failure

-- The result is `none` if an ASSERT fails or the receive loop takes more than the given number of turns.
def stateMachineServerSendReceive (calls : ClientCalls) (turns : Nat) (serverSocket : Socket)
    (mallocSendMsg mallocReceivedMsg : Option Msg) (sendMsgType : StateMachineMsgType)
    (pSendMsgBody : Option (List UInt8)) (sendMsgBodyLength : UInt16)
    (pReceivedMsgType pReceivedMsgBody : Bool) : Option Reply :=
  if sendMsgBodyLength.toNat ≤ maxMsgBodyLength then
    match mallocSendMsg with
    | none          => some .failure
    | some pSendMsg =>
      let pReceivedMsg :=
        if pReceivedMsgType then mallocReceivedMsg.map (·.setLength 0) else none
      if pReceivedMsgType && pReceivedMsg.isNone then
        some .failure
      else
        let pSendMsg := request pSendMsg sendMsgType pSendMsgBody sendMsgBodyLength
        (runMessagingClient calls turns serverSocket stateMachineServerPort none (some pSendMsg)
          pReceivedMsg).bind (receive pReceivedMsgBody)
  else
    none

end RoboOne.StateMachine.Client
