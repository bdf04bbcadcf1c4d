import RoboOne.BatteryManager.Response

namespace RoboOne.BatteryManager

open Messaging Loop Transition

-- What `batteryManagerServerSendReceive` sends.
def request (pSendMsg : Msg) (msgType : BatteryManagerMsgType) (pSendMsgBody : Option (List UInt8))
    (sendMsgBodyLength : UInt16) : Msg :=
  Messaging.request pSendMsg msgType.toUInt8 pSendMsgBody sendMsgBodyLength

-- What it returns, and the bytes that it copies to `pReceivedMsgSpecifics`. The result is `none` if an
-- ASSERT fails or the receive loop takes more than the given number of turns.
def batteryManagerServerSendReceive (calls : ClientCalls) (turns : Nat) (serverSocket : Socket)
    (mallocSendMsg mallocReceivedMsg : Option Msg) (msgType : BatteryManagerMsgType)
    (pSendMsgBody : Option (List UInt8)) (sendMsgBodyLength : UInt16)
    (pReceivedMsgSpecifics : Bool) : Option (Bool × Option (List UInt8)) :=
  if sendMsgBodyLength.toNat ≤ maxMsgBodyLength then
    match mallocSendMsg, mallocReceivedMsg with
    | some pSendMsg, some pReceivedMsg =>
      let pSendMsg := request pSendMsg msgType pSendMsgBody sendMsgBodyLength
      (runMessagingClient calls turns serverSocket batteryManagerServerPort none (some pSendMsg)
        (some (pReceivedMsg.setLength 0))).map (receiveCnf pReceivedMsgSpecifics)
    | _, _ => some (false, none)
  else
    none

variable {batteryData : List UInt8 → BatteryData} {s s' : State} {b : Battery} {m : Msg}
  {t : BatteryManagerMsgType} {body : List UInt8}

-- The request with the data of a battery, as it is sent.
theorem wire_request (hb : body.length = sizeOfBatteryData) :
    (request m t (some body) sizeOfBatteryData.toUInt16).wire = 23 :: t.toUInt8 :: body := by
  have he : Encoded (request m t (some body) sizeOfBatteryData.toUInt16) t.toUInt8 (some body)
      sizeOfBatteryData.toUInt16 := (encoded_iff (by decide)).mpr (by decide)
  have hl : (request m t (some body) sizeOfBatteryData.toUInt16).msgLength = 23 :=
    UInt8.toNat_inj.mp he.msgLength
  have htake : body.take sizeOfBatteryData.toUInt16.toNat = body :=
    List.take_of_length_le (Nat.le_of_eq hb)
  rw [he.wire body rfl (Nat.le_of_eq hb.symm), hl, htake]

-- What the server finds in a message that arrives as it was sent.
theorem msgType_of_request {pReceivedMsg : Msg} (hb : body.length = sizeOfBatteryData)
    (h : pReceivedMsg.bytes.take 24 = 23 :: t.toUInt8 :: body) :
    pReceivedMsg.msgType = t.toUInt8 ∧ pReceivedMsg.msgBody.take sizeOfBatteryData = body := by
  have hs := List.take_append_drop 24 pReceivedMsg.bytes
  rw [h] at hs
  rw [Msg.msgType, Msg.msgBody, ← hs]
  exact ⟨rfl, by rw [← hb]; exact List.take_left⟩

-- What the client makes of the response to data: it takes whatever was in memory for `success`, and it
-- copies one byte less than the status has.
theorem receiveCnf_data {pReceivedMsg : Msg} {st : BatteryStatus} {b₀ success : UInt8}
    (h : pReceivedMsg.bytes.take 7 = 6 :: b₀ :: success :: st.bytes.take 4) :
    receiveCnf true (.success, some pReceivedMsg) =
      if success ≠ 0 then (true, some (st.bytes.take 4)) else (false, none) := by
  have hs := List.take_append_drop 7 pReceivedMsg.bytes
  rw [h] at hs
  have hl : pReceivedMsg.msgLength = 6 := by rw [Msg.msgLength, ← hs]; rfl
  have hbody : pReceivedMsg.msgBody = success :: (st.bytes.take 4 ++ pReceivedMsg.bytes.drop 7) := by
    rw [Msg.msgBody]
    nth_rewrite 1 [← hs]
    rfl
  simp only [receiveCnf, hl, hbody]
  refine if_congr ⟨fun hc => hc.right.right, fun hc => ⟨by decide, by decide, hc⟩⟩ ?_ rfl
  rfl

section

variable {calls : ClientCalls} {sendBuffer receiveBuffer response : Msg} {c : Chunk}
  {e : StreamEnd}

-- The memory that the two processes get, and what the server makes of a request with data.
structure DataExchange (batteryData : List UInt8 → BatteryData) (b : Battery) (body : List UInt8)
    (sendBuffer : Msg) (s s' : State) (response : Msg) : Prop where
  body_length : body.length = sizeOfBatteryData
  served      : ∃ pReceivedMsg pSendMsg returnCode,
    pReceivedMsg.bytes.take (request sendBuffer b.dataMsg (some body)
        sizeOfBatteryData.toUInt16).wire.length =
      (request sendBuffer b.dataMsg (some body) sizeOfBatteryData.toUInt16).wire ∧
    serverHandleMsg batteryData pReceivedMsg pSendMsg s = some (s', returnCode, response)

-- The call of the client returns what `receiveCnf` makes of the response.
theorem batteryManagerServerSendReceive_iff {result : Bool × Option (List UInt8)}
    (hconnect : ∀ port ip, calls.connect port ip) (hsend : ∀ bs, calls.send bs)
    (hc : c.bytes = response.wire) :
    (∃ turns, batteryManagerServerSendReceive calls turns ⟨[c], e⟩ (some sendBuffer)
        (some receiveBuffer) t (some body) sizeOfBatteryData.toUInt16 true = some result) ↔
      result = receiveCnf true
        (.success, some (((receiveBuffer.setLength 0).setLength 255).write response.wire)) := by
  have hl : sizeOfBatteryData.toUInt16.toNat ≤ maxMsgBodyLength := by decide
  simp only [batteryManagerServerSendReceive, if_pos hl]
  exact runMessagingClient_map_iff hconnect hsend hc

-- The response to data has one byte less than the client would need.
theorem DataExchange.result_ne (hx : DataExchange batteryData b body sendBuffer s s' response)
    (hconnect : ∀ port ip, calls.connect port ip) (hsend : ∀ bs, calls.send bs)
    (hc : c.bytes = response.wire) {turns : Nat} {result : Bool × Option (List UInt8)}
    (hr : batteryManagerServerSendReceive calls turns ⟨[c], e⟩ (some sendBuffer) (some receiveBuffer)
      b.dataMsg (some body) sizeOfBatteryData.toUInt16 true = some result) :
    step s (.data b (batteryData body)) = some s' ∧ result ≠ (true, some (s'.status b).bytes) := by
  have ⟨pReceivedMsg, pSendMsg, returnCode, hreceived, hserved⟩ := hx.served
  rw [wire_request hx.body_length] at hreceived
  have hlen : (23 :: b.dataMsg.toUInt8 :: body).length = 24 := congrArg (· + 2) hx.body_length
  rw [hlen] at hreceived
  have ⟨htype, hbody⟩ := msgType_of_request hx.body_length hreceived
  have ⟨hstep, bs, hbytes⟩ := serverHandleMsg_data htype hserved
  rw [hbody] at hstep
  refine ⟨hstep, fun he => ?_⟩
  have hresult := (batteryManagerServerSendReceive_iff hconnect hsend hc).mp ⟨turns, hr⟩
  have hwire : response.wire = 6 :: b.dataMsg.toUInt8 :: pSendMsg.bytes.getD 2 0 ::
      (s'.status b).bytes.take 4 := by
    rw [Msg.wire_of_bytes hbytes]
    rfl
  have hmsg : (((receiveBuffer.setLength 0).setLength 255).write response.wire).bytes.take
      response.wire.length = response.wire := take_write_wire
  rw [hwire] at hmsg hresult
  rw [receiveCnf_data hmsg, he] at hresult
  split at hresult
  case isTrue =>
    have hlen : 5 = 4 := congrArg List.length <| Option.some.inj (Prod.mk.inj hresult).right
    contradiction
  case isFalse => cases hresult

-- Whatever the status of the battery is, the client does not get to know it.
theorem data_status_not_received (receiveBuffer : Msg) (e : StreamEnd)
    (hx : DataExchange batteryData b body sendBuffer s s' response)
    (hconnect : ∀ port ip, calls.connect port ip) (hsend : ∀ bs, calls.send bs)
    (hc : c.bytes = response.wire) :
    step s (.data b (batteryData body)) = some s' ∧
      (∃ turns result, batteryManagerServerSendReceive calls turns ⟨[c], e⟩ (some sendBuffer)
        (some receiveBuffer) b.dataMsg (some body) sizeOfBatteryData.toUInt16 true = some result) ∧
      ∀ turns result, batteryManagerServerSendReceive calls turns ⟨[c], e⟩ (some sendBuffer)
        (some receiveBuffer) b.dataMsg (some body) sizeOfBatteryData.toUInt16 true = some result →
          result ≠ (true, some (s'.status b).bytes) := by
  have ⟨result, turns, hr⟩ : ∃ result turns, batteryManagerServerSendReceive calls turns ⟨[c], e⟩
      (some sendBuffer) (some receiveBuffer) b.dataMsg (some body) sizeOfBatteryData.toUInt16 true =
        some result :=
    ⟨_, (batteryManagerServerSendReceive_iff hconnect hsend hc).mpr rfl⟩
  refine ⟨(hx.result_ne hconnect hsend hc hr).left, ⟨turns, result, hr⟩, fun turns result hr => ?_⟩
  exact (hx.result_ne hconnect hsend hc hr).right

end

-- An Orangutan reports a temperature that cannot be true.
def frozen : BatteryData :=
  ⟨0, 0, 2000, ⟨0, 0⟩, -30⟩

-- The response to it, in memory in which `success` happens to be set.
def frozenResponse : Chunk :=
  ⟨6, [3, 1, 0, 0, 0, 0]⟩

theorem frozen_exchange : ∃ s' response, DataExchange (fun _ => frozen) .o1
    (List.replicate sizeOfBatteryData 0) .zero (started boot) s' response ∧
      frozenResponse.bytes = response.wire := by
  let received := Msg.zero.write (request .zero .dataO1 (some (List.replicate sizeOfBatteryData 0))
    sizeOfBatteryData.toUInt16).wire
  have ⟨⟨s', returnCode, response⟩, hs, hw⟩ : ∃ r ∈ serverHandleMsg (fun _ => frozen) received
      (Msg.zero.write [0, 0, 1]) (started boot), frozenResponse.bytes = r.2.2.wire := by
    decide +kernel
  exact ⟨s', response, ⟨rfl, received, _, returnCode, take_write_wire, hs⟩, hw⟩

theorem data_status_not_received_frozen : ∃ s', step (started boot) (.data .o1 frozen) = some s' ∧
    ∃ turns result, batteryManagerServerSendReceive .connected turns ⟨[frozenResponse], .closed⟩
      (some .zero) (some .zero) .dataO1 (some (List.replicate sizeOfBatteryData 0))
        sizeOfBatteryData.toUInt16 true = some result ∧
          result ≠ (true, some (s'.status .o1).bytes) := by
  have ⟨s', response, hx, hc⟩ := frozen_exchange
  have hconnect (port : UInt16) (ip : String) : ClientCalls.connected.connect port ip := rfl
  have ⟨hs, ⟨turns, result, hr⟩, hne⟩ :=
    data_status_not_received .zero .closed hx hconnect (fun _ => rfl) hc
  exact ⟨s', hs, turns, result, hr, hne turns result hr⟩

theorem data_status_lost :
    ¬∀ (batteryData : List UInt8 → BatteryData) (s₀ : State) (is : List Input) (s s' : State)
      (b : Battery) (body : List UInt8) (sendBuffer receiveBuffer response : Msg)
      (calls : ClientCalls) (c : Chunk) (e : StreamEnd),
      run step (started s₀) is = some s →
        DataExchange batteryData b body sendBuffer s s' response →
          (∀ port ip, calls.connect port ip) → (∀ bs, calls.send bs) → c.bytes = response.wire →
            ∃ turns, batteryManagerServerSendReceive calls turns ⟨[c], e⟩ (some sendBuffer)
              (some receiveBuffer) b.dataMsg (some body) sizeOfBatteryData.toUInt16 true =
                some (true, some (s'.status b).bytes) := by
  intro h
  have ⟨s', response, hx, hc⟩ := frozen_exchange
  have ⟨turns, hr⟩ := h (fun _ => frozen) boot [] (started boot) s' .o1 _ .zero .zero response
    .connected frozenResponse .closed rfl hx (fun _ _ => rfl) (fun _ => rfl) hc
  exact (hx.result_ne (fun _ _ => rfl) (fun _ => rfl) hc hr).right rfl

end RoboOne.BatteryManager
