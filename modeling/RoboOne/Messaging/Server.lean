import RoboOne.Library.Loop
import RoboOne.Messaging.Socket

namespace RoboOne.Messaging

inductive ServerReturnCode
  | exitNormally
  | successKeepRunning
  | errGeneralFailure
  | errFailedToAcceptClientConnection
  | errFailedToListenOnSocket
  | errFailedToBindSocket
  | errFailedToCreateSocket
  | errFailedToSetSocketOptions
  | errFailedToSendResponseToClient
  | errFailedToGetMemoryForResponse
  | errMessageFromClientIncompleteOrTooLong
  | errFailedToGetMemoryForReception
  | errMessageTooLarge
deriving DecidableEq

-- What the functions do that `handleSendReceive` calls. A `malloc` returns memory with any contents, or
-- `PNULL`.
structure ServerCalls where
  mallocReceivedMsg : Option Msg
  mallocSendMsg     : Option Msg
  serverHandleMsg   : Msg → Msg → ServerReturnCode × Msg -- the return code, and `*pSendMsg`
  send              : List UInt8 → Bool                  -- all bytes have been sent

-- A handler that gives no response, with the given contents of the memory that the message is put in.
def ServerCalls.silent (buffer : Msg) : ServerCalls where
  mallocReceivedMsg      := some buffer
  mallocSendMsg          := some .zero
  serverHandleMsg _ send := (.successKeepRunning, send)
  send _                 := true

-- How `handleSendReceive` ends: the message that it passed to `serverHandleMsg`, the response that it
-- sent, and what it returned. An ASSERT ends the whole process.
inductive Served
  | returned (handled : Option Msg) (response : Option (List UInt8)) (returnCode : ServerReturnCode)
  | assertFailed (handled : Option Msg)

def Served.handled : Served → Option Msg
  | .returned handled _ _ => handled
  | .assertFailed handled => handled

-- The condition of the receive loop.
def serverReceivesAgain (r : Receiver) : Bool :=
  let length := r.pReceivedMsg.msgLength.toNat
  r.rawReceivedLength ≠ length + sizeOfMsgLength &&
    r.rawReceivedLength < maxMsgLength + sizeOfMsgLength && r.rawBytesReceived ≥ 0 && length > 0

-- What `handleSendReceive` does with a whole message.
def handleMsg (calls : ServerCalls) (pReceivedMsg : Msg) : Served :=
  match calls.mallocSendMsg with
  | none          => .returned none none .errFailedToGetMemoryForResponse
  | some pSendMsg =>
    let (returnCode, pSendMsg) := calls.serverHandleMsg pReceivedMsg (pSendMsg.setLength 0)
    if (returnCode = .exitNormally ∨ returnCode = .successKeepRunning) ∧
        pSendMsg.msgLength.toNat > 0 then
      if pSendMsg.msgLength.toNat + sizeOfMsgLength ≤ maxMsgLength then
        if calls.send pSendMsg.wire then
          .returned (some pReceivedMsg) (some pSendMsg.wire) returnCode
        else
          .returned (some pReceivedMsg) none .errFailedToSendResponseToClient
      else
        .assertFailed (some pReceivedMsg)
    else
      .returned (some pReceivedMsg) none returnCode

-- The result is `none` if the receive loop takes more than the given number of turns.
def handleSendReceive (calls : ServerCalls) (turns : Nat) (clientSocket : Socket) : Option Served :=
  match calls.mallocReceivedMsg with
  | none        => some <| .returned none none .errFailedToGetMemoryForReception
  | some buffer =>
    (Loop.doWhile Receiver.receive serverReceivesAgain turns (.init buffer clientSocket)).map fun r =>
      if r.rawReceivedLength = r.pReceivedMsg.msgLength.toNat + sizeOfMsgLength then
        handleMsg calls r.pReceivedMsg
      else
        .returned none none .errMessageFromClientIncompleteOrTooLong

end RoboOne.Messaging
