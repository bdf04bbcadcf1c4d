import Mathlib.Data.List.Basic

namespace RoboOne.Messaging

def sizeOfMsgLength : Nat := 1

def sizeOfMsgType : Nat := 1

def offsetToMsgBody : Nat := sizeOfMsgLength + sizeOfMsgType

def maxMsgLength : Nat := 256 - sizeOfMsgLength

-- `MAX_MSG_LENGTH - OFFSET_TO_MSG_BODY`. The macros are defined without parentheses, so the
-- preprocessor leaves `256 - 1 - 0 + 1 + 1`, which adds the size of the header.
def maxMsgBodyLength : Nat := 256 - sizeOfMsgLength - 0 + sizeOfMsgLength + sizeOfMsgType

-- `MAX_MSG_BODY_LENGTH - 40`.
def maxShortMsgBodyLength : Nat :=
  256 - sizeOfMsgLength - 0 + sizeOfMsgLength + sizeOfMsgType - 40

def sizeOfMsg : Nat := offsetToMsgBody + maxMsgBodyLength

def sizeOfShortMsg : Nat := offsetToMsgBody + maxShortMsgBodyLength

-- The memory of a `Msg`: one byte of length, one byte of type and the body.
@[ext]
structure Msg where
  bytes : List UInt8
  size  : bytes.length = sizeOfMsg
deriving DecidableEq

-- The memory of a `ShortMsg`, which has the layout of a `Msg` with a shorter body.
@[ext]
structure ShortMsg where
  bytes : List UInt8
  size  : bytes.length = sizeOfShortMsg
deriving DecidableEq

namespace Msg

-- `memset (pMsg, 0, sizeof (*pMsg))`.
def zero : Msg where
  bytes := List.replicate sizeOfMsg 0
  size  := by simp

def msgLength (m : Msg) : UInt8 :=
  m.bytes.headD 0

-- The bytes handed to `send`: the length byte and as many bytes as it says.
def wire (m : Msg) : List UInt8 :=
  m.bytes.take (m.msgLength.toNat + sizeOfMsgLength)

theorem length_wire (m : Msg) : m.wire.length = m.msgLength.toNat + 1 := by
  have h := m.msgLength.toNat_lt
  have hs : m.bytes.length = 259 := m.size
  simp only [wire, sizeOfMsgLength, List.length_take, hs]
  omega

end Msg

namespace ShortMsg

def zero : ShortMsg where
  bytes := List.replicate sizeOfShortMsg 0
  size  := by simp

def msgLength (m : ShortMsg) : UInt8 :=
  m.bytes.headD 0

-- The message as it would be sent, if `msgLength` stays within the `ShortMsg`.
def wire (m : ShortMsg) : List UInt8 :=
  m.bytes.take (m.msgLength.toNat + sizeOfMsgLength)

-- The message fits into the memory of the `ShortMsg`.
def Fits (m : ShortMsg) : Prop :=
  m.msgLength.toNat + sizeOfMsgLength ≤ sizeOfShortMsg

instance (m : ShortMsg) : Decidable m.Fits :=
  inferInstanceAs (Decidable (_ ≤ _))

end ShortMsg

-- What lies in memory behind a `ShortMsg`, as far as the size of a `Msg` reaches.
@[ext]
structure Beyond where
  bytes : List UInt8
  size  : bytes.length = sizeOfMsg - sizeOfShortMsg
deriving DecidableEq

def Beyond.zero : Beyond where
  bytes := List.replicate (sizeOfMsg - sizeOfShortMsg) 0
  size  := by simp

-- `memcpy (pMsg, pShortMsg, sizeof (*pMsg))`: copies the `ShortMsg` and the memory behind it.
def ShortMsg.toMsg (m : ShortMsg) (beyond : Beyond) : Msg where
  bytes := m.bytes ++ beyond.bytes
  size  := by rw [List.length_append, m.size, beyond.size]; rfl

@[simp]
theorem ShortMsg.msgLength_toMsg (m : ShortMsg) (beyond : Beyond) :
    (m.toMsg beyond).msgLength = m.msgLength := by
  have h := m.size
  cases hb : m.bytes
  case nil => exact absurd (hb ▸ h) (by decide)
  case cons => simp [toMsg, Msg.msgLength, msgLength, hb]

-- The memory behind the `ShortMsg` is not sent as long as the message fits into it.
theorem ShortMsg.wire_toMsg {m : ShortMsg} (h : m.Fits) (beyond : Beyond) :
    (m.toMsg beyond).wire = m.wire := by
  have hs : m.msgLength.toNat + sizeOfMsgLength ≤ m.bytes.length := by rw [m.size]; exact h
  rw [Msg.wire, ShortMsg.msgLength_toMsg]
  exact List.take_append_of_le_length hs

end RoboOne.Messaging
