import RoboOne.Library.Loop
import RoboOne.Messaging.Socket

namespace RoboOne.Messaging

inductive ClientReturnCode
  | success
  | errGeneralFailure
  | errCouldntSendWholeMessageToServer
  | errFailedToConnectToServer
  | errFailedToCreateSocket
  | errSendMessageIsPnull
  | errMessageFromServerIncompleteOrTooLong
  | errFailedOnRecv
deriving DecidableEq

-- What the functions do that `runMessagingClient` calls. The socket is kept in a `UInt32`, so it is
-- never found to be negative.
structure ClientCalls where
  connect : (serverPort : UInt16) → (pIpAddress : String) → Bool
  send    : List UInt8 → Bool -- all bytes have been sent

-- A server that accepts the connection and the message.
def ClientCalls.connected : ClientCalls where
  connect _ _ := true
  send _      := true

-- The condition of the receive loop.
def clientReceivesAgain (r : Receiver) : Bool :=
  let length := r.pReceivedMsg.msgLength.toNat
  r.rawReceivedLength < length + sizeOfMsgLength &&
    r.rawReceivedLength < maxMsgLength + sizeOfMsgLength && r.rawBytesReceived ≥ 0 && length > 0

-- The return code behind the receive loop. A failure of `recv` is overwritten by the next check.
def receivedReturnCode (r : Receiver) : ClientReturnCode :=
  if r.rawReceivedLength ≠ r.pReceivedMsg.msgLength.toNat + sizeOfMsgLength then
    .errMessageFromServerIncompleteOrTooLong
  else if r.rawBytesReceived < 0 then
    .errFailedOnRecv
  else
    .success

-- The return code, and `*pReceivedMsg` if there is one. The result is `none` if the receive loop takes
-- more than the given number of turns.
def runMessagingClient (calls : ClientCalls) (turns : Nat) (serverSocket : Socket)
    (serverPort : UInt16) (pIpAddressToUse : Option String) (pSendMsg pReceivedMsg : Option Msg) :
    Option (ClientReturnCode × Option Msg) :=
  match pSendMsg with
  | none          => some (.errSendMessageIsPnull, pReceivedMsg)
  | some pSendMsg =>
    let pIpAddress := pIpAddressToUse.getD "127.0.0.1"
    if calls.connect serverPort pIpAddress then
      if calls.send pSendMsg.wire then
        match pReceivedMsg with
        | none        => some (.success, none)
        | some buffer =>
          (Loop.whileDo Receiver.receive clientReceivesAgain turns (.init buffer serverSocket)).map
            fun r => (receivedReturnCode r, some r.pReceivedMsg)
      else
        some (.errCouldntSendWholeMessageToServer, pReceivedMsg)
    else
      some (.errFailedToConnectToServer, pReceivedMsg)

end RoboOne.Messaging
