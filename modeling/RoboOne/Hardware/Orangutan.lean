import RoboOne.Library.Bytes
import RoboOne.Messaging.Request

namespace RoboOne.Hardware

open Messaging Bytes

-- Of a string that is sent to the Orangutan or comes back from there.
def maxOStringLength : Nat := 80

def orangutanResponseTerminator : UInt8 := 13

def orangutanBufferSize : Nat := 255

-- The serial port: its file descriptor, what `write` returns, and what comes in from one `read` to the
-- next. When there is no more, `read` runs into its timeout.
structure Orangutan where
  gFd   : Int32
  write : List UInt8 → Int
  reads : List (List UInt8)

namespace Orangutan

-- The bytes up to the terminator, and if there was one.
def chop : List UInt8 → List UInt8 × Bool
  | []      => ([], false)
  | b :: bs =>
    if b = orangutanResponseTerminator then
      ([b], true)
    else
      let (chopped, done) := chop bs
      (b :: chopped, done)

-- The loop of `readStringFromOrangutan`.
def readLoop (maxBytesToReceive : Nat) (pReceiveString : List UInt8) : List (List UInt8) → List UInt8
  | []             => pReceiveString
  | buffer :: more =>
    if buffer = [] then
      pReceiveString
    else
      let (chopped, done) := chop (buffer.take orangutanBufferSize)
      let bytesReceived :=
        if pReceiveString.length + chopped.length > maxBytesToReceive - 1 then
          maxBytesToReceive - pReceiveString.length - 1
        else
          chopped.length
      let pReceiveString := pReceiveString ++ chopped.take bytesReceived
      if done then pReceiveString else readLoop maxBytesToReceive pReceiveString more

-- What is put at `pReceiveString`, of which `*pReceiveStringLength` is the length afterwards. Without a
-- port or without room nothing is put there.
def readStringFromOrangutan (o : Orangutan) (pReceiveStringLength : Nat) : Option (List UInt8) :=
  if o.gFd ≥ 0 ∧ pReceiveStringLength > 0 then
    some (readLoop pReceiveStringLength [] o.reads ++ [0])
  else
    none

-- If the string was written, and what is put at `pReceiveString`. That may be `PNULL`; otherwise
-- `pReceiveStringLength` is the room there.
def sendStringToOrangutan (o : Orangutan) (pSendString : List UInt8)
    (pReceiveStringLength : Option Nat) : Bool × Option (List UInt8) :=
  let pSendString := (pSendString.takeWhile (· ≠ 0)).take orangutanBufferSize
  if o.gFd ≥ 0 ∧ o.write pSendString = pSendString.length then
    (true, pReceiveStringLength.bind o.readStringFromOrangutan)
  else
    (false, none)

variable {o : Orangutan} {maxBytes : Nat} {string response : List UInt8} {reads : List (List UInt8)}

-- The loop leaves room for the terminator.
theorem length_readLoop (h : string.length < maxBytes) :
    (readLoop maxBytes string reads).length < maxBytes := by
  induction reads generalizing string
  case nil => exact h
  case cons buffer more hi =>
    rw [readLoop]
    split
    case isTrue  => exact h
    case isFalse =>
      generalize chop (buffer.take orangutanBufferSize) = chopped
      have hroom : (string ++ chopped.1.take (if string.length + chopped.1.length > maxBytes - 1 then
          maxBytes - string.length - 1 else chopped.1.length)).length < maxBytes := by
        rw [List.length_append, List.length_take]
        split
        case isTrue  => omega
        case isFalse => omega
      simp only
      split
      case isTrue  => exact hroom
      case isFalse => exact hi hroom

-- The response is terminated, and fits into the room for it.
theorem sendStringToOrangutan_response (hm : 0 < maxBytes)
    (h : (o.sendStringToOrangutan string (some maxBytes)).2 = some response) :
    ∃ s, response = s ++ [0] ∧ response.length ≤ maxBytes := by
  simp only [sendStringToOrangutan] at h
  split at h
  case isFalse => cases h
  case isTrue  =>
    simp only [Option.bind_some, readStringFromOrangutan] at h
    split at h
    case isFalse => cases h
    case isTrue  =>
      refine ⟨_, (Option.some.inj h).symm, ?_⟩
      rw [← Option.some.inj h, List.length_append]
      exact length_readLoop hm

-- If the string was written, then there is a response, if only an empty one.
theorem sendStringToOrangutan_isSome (hm : 0 < maxBytes)
    (h : (o.sendStringToOrangutan string (some maxBytes)).1 = true) :
    (o.sendStringToOrangutan string (some maxBytes)).2.isSome := by
  simp only [sendStringToOrangutan] at h ⊢
  split at h
  case isFalse => cases h
  case isTrue hf =>
    rw [if_pos hf]
    simp only [Option.bind_some, readStringFromOrangutan, if_pos (And.intro hf.left hm),
      Option.isSome_some]

theorem sendStringToOrangutan_none : (o.sendStringToOrangutan string none).2 = none := by
  simp only [sendStringToOrangutan]
  split <;> rfl

end Orangutan

end RoboOne.Hardware
