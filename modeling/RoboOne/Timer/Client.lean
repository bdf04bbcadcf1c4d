import RoboOne.Messaging.Request

namespace RoboOne.Timer

open Messaging

def timerServerPort : UInt16 := 5235

-- The message types of the server, in the order of the message list.
inductive TimerMsgType
  | serverStartReq
  | serverStopReq
  | startReq
  | stopReq
deriving DecidableEq

def TimerMsgType.toUInt8 (t : TimerMsgType) : UInt8 :=
  .ofNat t.ctorIdx

-- What `timerServerSend` sends.
def request (pSendMsg : Msg) (msgType : TimerMsgType) (pSendMsgBody : Option (List UInt8))
    (sendMsgBodyLength : UInt16) : Msg :=
  Messaging.request pSendMsg msgType.toUInt8 pSendMsgBody sendMsgBodyLength

-- No response is waited for. The result is `none` if an ASSERT fails.
def timerServerSend (calls : ClientCalls) (turns : Nat) (serverSocket : Socket)
    (mallocSendMsg : Option Msg) (msgType : TimerMsgType) (pSendMsgBody : Option (List UInt8))
    (sendMsgBodyLength : UInt16) : Option Bool :=
  if sendMsgBodyLength.toNat ≤ maxMsgBodyLength then
    match mallocSendMsg with
    | none          => some false
    | some pSendMsg =>
      let pSendMsg := request pSendMsg msgType pSendMsgBody sendMsgBodyLength
      (runMessagingClient calls turns serverSocket timerServerPort none (some pSendMsg) none).map
        (·.1 = .success)
  else
    none

-- `TIMER_START_REQ`.
structure TimerStartReq where
  expiryDeciSeconds : UInt32
  id                : UInt8
  sourcePort        : Int32
  expiryMsg         : ShortMsg
deriving DecidableEq

-- `TIMER_STOP_REQ`.
structure TimerStopReq where
  id         : UInt8
  sourcePort : Int32
deriving DecidableEq

-- The bytes behind the new body keep what was in the memory of the message before. The length check
-- on the body is the ASSERT of the source.
def createTimerExpiryMsg (pExpiryMsg : ShortMsg) (msgType : UInt8) (body : List UInt8)
    (h : body.length ≤ maxShortMsgBodyLength) : ShortMsg where
  bytes := .ofNat (body.length + sizeOfMsgType) :: msgType :: body ++
    pExpiryMsg.bytes.drop (offsetToMsgBody + body.length)
  size := by
    have hs := pExpiryMsg.size
    simp only [sizeOfShortMsg, List.cons_append, List.length_cons, List.length_append,
      List.length_drop] at hs ⊢
    simp only [offsetToMsgBody, sizeOfMsgLength, sizeOfMsgType] at hs ⊢
    omega

-- Messages that are made by `createTimerExpiryMsg` are never sent with memory from behind them.
theorem createTimerExpiryMsg_fits {m : ShortMsg} {msgType body}
    (h : body.length ≤ maxShortMsgBodyLength) : (createTimerExpiryMsg m msgType body h).Fits := by
  have hb : body.length + 1 < 256 := by
    have : maxShortMsgBodyLength = 217 := rfl
    omega
  have hl : (createTimerExpiryMsg m msgType body h).msgLength.toNat = body.length + 1 := by
    simp [createTimerExpiryMsg, ShortMsg.msgLength, sizeOfMsgType, Nat.mod_eq_of_lt hb]
  simp only [ShortMsg.Fits, hl, sizeOfShortMsg, offsetToMsgBody, sizeOfMsgLength, sizeOfMsgType]
  omega

end RoboOne.Timer
