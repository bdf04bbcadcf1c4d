import RoboOne.Messaging.Framing

namespace RoboOne.Messaging

variable {calls : ServerCalls} {turns : Nat} {clientSocket : Socket} {served : Served}
variable {m pReceivedMsg pSendMsg memory : Msg} {returnCode : ServerReturnCode} {e : StreamEnd}

namespace ServerCalls

-- What `serverHandleMsg` leaves behind, if there is memory for a response.
def response (calls : ServerCalls) (pReceivedMsg : Msg) : Option (ServerReturnCode × Msg) :=
  calls.mallocSendMsg.map fun pSendMsg => calls.serverHandleMsg pReceivedMsg (pSendMsg.setLength 0)

-- The `serverHandleMsg` of the test server.
def echo (mallocReceivedMsg mallocSendMsg : Msg) : ServerCalls where
  mallocReceivedMsg := some mallocReceivedMsg
  mallocSendMsg     := some mallocSendMsg
  serverHandleMsg pReceivedMsg pSendMsg :=
    let returnCode :=
      if pReceivedMsg.msgLength.toNat > maxMsgLength then .errMessageTooLarge else .successKeepRunning
    let pSendMsg := pSendMsg.write pReceivedMsg.wire
    (if pReceivedMsg.msgLength = 0 then .exitNormally else returnCode, pSendMsg)
  send _            := true

end ServerCalls

-- Not an error.
def ServerReturnCode.Good (returnCode : ServerReturnCode) : Prop :=
  returnCode = .exitNormally ∨ returnCode = .successKeepRunning

instance (returnCode : ServerReturnCode) : Decidable returnCode.Good :=
  inferInstanceAs (Decidable (_ ∨ _))

-- `handleSendReceive` hands the response to `send`, `msgLength + SIZE_OF_MSG_LENGTH` bytes of it, and
-- returns with what comes of that.
structure Delivered (calls : ServerCalls) (pReceivedMsg pSendMsg : Msg)
    (returnCode : ServerReturnCode) (served : Served) : Prop where
  length : pSendMsg.wire.length = pSendMsg.msgLength.toNat + sizeOfMsgLength
  sent   : calls.send pSendMsg.wire →
    served = .returned (some pReceivedMsg) (some pSendMsg.wire) returnCode
  failed : ¬calls.send pSendMsg.wire →
    served = .returned (some pReceivedMsg) none .errFailedToSendResponseToClient

-- The ASSERT wants one byte less than the longest message has.
theorem rawSendLength_le_iff :
    m.msgLength.toNat + sizeOfMsgLength ≤ maxMsgLength ↔ m.msgLength ≠ 255 := by
  have := m.msgLength.toNat_lt
  simp only [ne_eq, ← UInt8.toNat_inj, UInt8.toNat_ofNat, sizeOfMsgLength, maxMsgLength]
  omega

-- A message that was handled is the one in the buffer of the receive loop.
theorem handleMsg_of_handled (h : handleSendReceive calls turns clientSocket = some served)
    (hm : served.handled = some pReceivedMsg) (hr : (calls.response pReceivedMsg).isSome) :
    served = handleMsg calls pReceivedMsg := by
  cases hb : calls.mallocReceivedMsg
  case none =>
    simp only [handleSendReceive, hb, Option.some.injEq] at h
    rw [← h] at hm
    cases hm
  case some buffer =>
    simp only [handleSendReceive, hb] at h
    obtain ⟨r, hd, hs⟩ := Option.map_eq_some_iff.mp h
    split at hs
    case isFalse =>
      rw [← hs] at hm
      cases hm
    case isTrue =>
      have hsend : calls.mallocSendMsg.isSome := by
        simpa only [ServerCalls.response, Option.isSome_map] using hr
      rw [← hs, handleMsg_handled hsend] at hm
      rw [← hs, Option.some.inj hm]

theorem handleMsg_of_response (hr : calls.response pReceivedMsg = some (returnCode, pSendMsg))
    (hg : returnCode.Good) (hl : 0 < pSendMsg.msgLength.toNat) :
    handleMsg calls pReceivedMsg =
      if pSendMsg.msgLength.toNat + sizeOfMsgLength ≤ maxMsgLength then
        if calls.send pSendMsg.wire then
          .returned (some pReceivedMsg) (some pSendMsg.wire) returnCode
        else
          .returned (some pReceivedMsg) none .errFailedToSendResponseToClient
      else
        .assertFailed (some pReceivedMsg) := by
  obtain ⟨memory, hs, hh⟩ := Option.map_eq_some_iff.mp hr
  rw [handleMsg, hs]
  simp only [hh]
  exact if_pos ⟨hg, hl⟩

theorem delivered_handleMsg_iff (hr : calls.response pReceivedMsg = some (returnCode, pSendMsg))
    (hg : returnCode.Good) (hl : 0 < pSendMsg.msgLength.toNat) :
    Delivered calls pReceivedMsg pSendMsg returnCode (handleMsg calls pReceivedMsg) ↔
      pSendMsg.msgLength ≠ 255 := by
  rw [← rawSendLength_le_iff, handleMsg_of_response hr hg hl]
  constructor
  case mp =>
    intro h
    by_contra hn
    rw [if_neg hn] at h
    by_cases hs : calls.send pSendMsg.wire
    case pos => cases h.sent hs
    case neg => cases h.failed hs
  case mpr =>
    intro h
    rw [if_pos h]
    exact ⟨pSendMsg.length_wire, fun hs => if_pos hs, fun hs => if_neg hs⟩

-- The echo server returns the message, and the client gets it back, each in one chunk and into memory
-- with any contents.
def Echoes (m : Msg) (e : StreamEnd) : Prop :=
  ∀ (c : Chunk) (received send : Msg), c.bytes = m.wire →
    (∃ turns handled, handleSendReceive (.echo received send) turns ⟨[c], e⟩ =
      some (.returned (some handled) (some m.wire) .successKeepRunning)) ∧
    ClientReceives m [c] e

-- A message that arrives in one chunk is handled after one turn of the loop.
theorem handleSendReceive_single {c : Chunk} {buffer : Msg} (hb : calls.mallocReceivedMsg = some buffer)
    (hc : c.bytes = m.wire) : handleSendReceive calls (turns + 1) ⟨[c], e⟩ =
      some (handleMsg calls ((buffer.setLength 255).write m.wire)) := by
  have hr := receive_single buffer e hc
  simp only [handleSendReceive, hb, Loop.doWhile, hr]
  rw [if_neg]
  case hnc => simp [serverReceivesAgain, msgLength_write_wire]
  case _ =>
    rw [Option.map_some, if_pos]
    rw [msgLength_write_wire]

theorem wire_write_wire {buffer : Msg} : (buffer.write m.wire).wire = m.wire := by
  rw [Msg.wire, msgLength_write_wire, sizeOfMsgLength, ← m.length_wire, take_write_wire]

-- The response of the echo server has the length and the bytes of the message.
theorem response_echo {received send : Msg} (hm : 0 < m.msgLength.toNat) :
    (ServerCalls.echo received send).response m =
      some (.successKeepRunning, (send.setLength 0).write m.wire) := by
  have hlt := m.msgLength.toNat_lt
  have hne : m.msgLength ≠ 0 := fun h => absurd hm (by simp [h])
  have hmax : ¬maxMsgLength < m.msgLength.toNat := by rw [maxMsgLength, sizeOfMsgLength]; omega
  simp only [ServerCalls.response, ServerCalls.echo, Option.map_some, if_neg hne, if_neg hmax]

theorem handleMsg_echo {received send : Msg} (hm : 0 < m.msgLength.toNat) :
    handleMsg (.echo received send) m =
      if m.msgLength = 255 then .assertFailed (some m)
      else .returned (some m) (some m.wire) .successKeepRunning := by
  have hl : ((send.setLength 0).write m.wire).msgLength = m.msgLength := msgLength_write_wire
  have hsend : (ServerCalls.echo received send).send m.wire = true := rfl
  rw [handleMsg_of_response (response_echo hm) (.inr rfl) (hl ▸ hm), hl, wire_write_wire,
    if_pos hsend]
  by_cases h : m.msgLength = 255
  case pos => rw [if_neg (fun hn => rawSendLength_le_iff.mp hn h), if_pos h]
  case neg => rw [if_pos (rawSendLength_le_iff.mpr h), if_neg h]

theorem handleSendReceive_echo {c : Chunk} {received send : Msg} (hm : 0 < m.msgLength.toNat)
    (hc : c.bytes = m.wire) : handleSendReceive (.echo received send) (turns + 1) ⟨[c], e⟩ =
      let handled := (received.setLength 255).write m.wire
      some (if m.msgLength = 255 then .assertFailed (some handled)
        else .returned (some handled) (some m.wire) .successKeepRunning) := by
  have hb : (ServerCalls.echo received send).mallocReceivedMsg = some received := rfl
  rw [handleSendReceive_single hb hc, handleMsg_echo (by rwa [msgLength_write_wire]),
    msgLength_write_wire, wire_write_wire]

theorem echoes_iff (hm : 0 < m.msgLength.toNat) : Echoes m e ↔ m.msgLength ≠ 255 := by
  constructor
  case mp =>
    rintro h hmax
    have ⟨b, bs, hw⟩ := List.exists_cons_of_ne_nil (wire_ne_nil m)
    have hc : (Chunk.mk b bs).bytes = m.wire := hw.symm
    have ⟨⟨turns, handled, hs⟩, _⟩ := h ⟨b, bs⟩ .zero .zero hc
    cases turns
    case zero => cases hs
    case succ turns =>
      rw [handleSendReceive_echo hm hc] at hs
      simp [hmax] at hs
  case mpr =>
    intro h c received send hc
    have hr : ClientReceives m [c] e := (clientReceives_iff hm (by simpa using hc)).mpr rfl
    refine ⟨⟨1, (received.setLength 255).write m.wire, ?_⟩, hr⟩
    rw [handleSendReceive_echo hm hc]
    simp only [if_neg h]

-- A response that is not an error is sent whole if and only if it has less than the longest `msgLength`,
-- and so does a message come back from the echo server.
theorem response_delivered_iff (calls : ServerCalls) (turns : Nat) (clientSocket : Socket)
    (served : Served) (pReceivedMsg pSendMsg : Msg) (returnCode : ServerReturnCode)
    (h : handleSendReceive calls turns clientSocket = some served)
    (hm : served.handled = some pReceivedMsg)
    (hr : calls.response pReceivedMsg = some (returnCode, pSendMsg)) (hg : returnCode.Good)
    (hl : 0 < pSendMsg.msgLength.toNat) :
    (Delivered calls pReceivedMsg pSendMsg returnCode served ↔ pSendMsg.msgLength ≠ 255) ∧
      ∀ (m : Msg) (e : StreamEnd), 0 < m.msgLength.toNat → (Echoes m e ↔ m.msgLength ≠ 255) := by
  rw [handleMsg_of_handled h hm (hr ▸ rfl)]
  exact ⟨delivered_handleMsg_iff hr hg hl, fun m e hm => echoes_iff hm⟩

-- What the echo server gets when its client sends `m` at once, and what it responds, in memory that has
-- been full of zeros.
def bufferOf (m : Msg) : Msg :=
  (Msg.zero.setLength 255).write m.wire

def echoed (m : Msg) : Msg :=
  (Msg.zero.setLength 0).write (bufferOf m).wire

theorem response_bufferOf (hm : 0 < m.msgLength.toNat) :
    (ServerCalls.echo .zero .zero).response (bufferOf m) = some (.successKeepRunning, echoed m) :=
  response_echo (by rwa [bufferOf, msgLength_write_wire])

-- A message of two bytes, echoed.
theorem response_delivered_iff_shortest :
    (Delivered (.echo .zero .zero) (bufferOf shortest) (echoed shortest) .successKeepRunning
        (.returned (some (bufferOf shortest)) (some shortest.wire) .successKeepRunning) ↔
      (echoed shortest).msgLength ≠ 255) ∧
    ∀ (m : Msg) (e : StreamEnd), 0 < m.msgLength.toNat → (Echoes m e ↔ m.msgLength ≠ 255) :=
  response_delivered_iff (.echo .zero .zero) 1 ⟨[⟨1, [7]⟩], .closed⟩ _ (bufferOf shortest) _
    .successKeepRunning (handleSendReceive_echo (m := shortest) (by decide) (by decide)) rfl
    (response_bufferOf (by decide)) (by decide) (by decide +kernel)

-- The longest message.
def longest : Msg :=
  Msg.filled 255

-- The longest message, sent to the echo server.
theorem response_not_delivered :
    ¬∀ (calls : ServerCalls) (turns : Nat) (clientSocket : Socket) (served : Served)
      (pReceivedMsg pSendMsg : Msg) (returnCode : ServerReturnCode),
      handleSendReceive calls turns clientSocket = some served → served.handled = some pReceivedMsg →
      calls.response pReceivedMsg = some (returnCode, pSendMsg) → returnCode.Good →
      0 < pSendMsg.msgLength.toNat → Delivered calls pReceivedMsg pSendMsg returnCode served := by
  intro h
  have hc : (Chunk.mk 255 (List.replicate 255 255)).bytes = longest.wire := by decide +kernel
  have hm : 0 < longest.msgLength.toNat := by decide
  have hs : 0 < (echoed longest).msgLength.toNat := by
    rwa [echoed, msgLength_write_wire, bufferOf, msgLength_write_wire]
  have hd := h (.echo .zero .zero) 1 ⟨[⟨255, List.replicate 255 255⟩], .closed⟩ _ (bufferOf longest)
    _ _ (handleSendReceive_echo hm hc) rfl (response_bufferOf hm) (.inr rfl) hs
  cases hd.sent rfl

end RoboOne.Messaging
