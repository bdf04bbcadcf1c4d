import RoboOne.Messaging.Framing

namespace RoboOne.Messaging

open Loop

def sizeOfBool : Nat := 1

-- `pMsg->msgLength += length`.
def Msg.addLength (m : Msg) (length : Nat) : Msg :=
  m.setLength (m.msgLength + .ofNat length)

-- A message with a type, and nothing in its body.
def Msg.begin (m : Msg) (msgType : UInt8) : Msg :=
  ((m.setLength 0).writeAt sizeOfMsgLength [msgType]).addLength sizeOfMsgType

-- The message that all clients put together, in memory with any contents. Their `pSendMsgBody` may be
-- `PNULL`.
def request (pSendMsg : Msg) (msgType : UInt8) (pSendMsgBody : Option (List UInt8))
    (sendMsgBodyLength : UInt16) : Msg :=
  let pSendMsg := pSendMsg.begin msgType
  let pSendMsg :=
    match pSendMsgBody with
    | none      => pSendMsg
    | some body => pSendMsg.writeAt offsetToMsgBody (body.take sendMsgBodyLength.toNat)
  pSendMsg.addLength sendMsgBodyLength.toNat

-- What a client makes of a response that begins with `success`: the value that it returns, and the
-- bytes that it copies to `pReceivedMsgSpecifics`, if that is not `PNULL`.
def receiveCnf (pReceivedMsgSpecifics : Bool) :
    ClientReturnCode × Option Msg → Bool × Option (List UInt8)
  | (.success, some pReceivedMsg) =>
    let receivedMsgBodyLength := pReceivedMsg.msgLength.toNat - sizeOfMsgType
    let success := pReceivedMsg.msgBody.headD 0
    if pReceivedMsg.msgLength.toNat > sizeOfMsgType ∧ receivedMsgBodyLength ≥ sizeOfBool ∧
        success ≠ 0 then
      let specifics := (pReceivedMsg.msgBody.drop sizeOfBool).take (receivedMsgBodyLength - sizeOfBool)
      (true, if pReceivedMsgSpecifics then some specifics else none)
    else
      (false, none)
  | _ => (false, none)

variable {m : Msg} {t : UInt8} {body : Option (List UInt8)} {length : UInt16}

-- The bytes of a message in front of what is put into its body.
theorem exists_bytes (m : Msg) :
    ∃ b₀ b₁ bs, m.bytes = b₀ :: b₁ :: bs ∧ bs.length = maxMsgBodyLength := by
  obtain ⟨b₀, bs₀, h₀⟩ := List.exists_cons_of_length_eq_add_one (n := 258) m.size
  have hs := m.size
  rw [h₀] at hs
  obtain ⟨b₁, bs₁, rfl⟩ := List.exists_cons_of_length_eq_add_one (n := 257) (Nat.succ.inj hs)
  exact ⟨b₀, b₁, bs₁, h₀, Nat.succ.inj (Nat.succ.inj hs)⟩

theorem Msg.msgLength_of_bytes {b : UInt8} {bs : List UInt8} (h : m.bytes = b :: bs) :
    m.msgLength = b := by
  rw [Msg.msgLength, h]
  rfl

theorem Msg.wire_of_bytes {b : UInt8} {bs : List UInt8} (h : m.bytes = b :: bs) :
    m.wire = b :: bs.take b.toNat := by
  rw [Msg.wire, msgLength_of_bytes h, h]
  rfl

-- Bytes that are written behind others, as long as they stay within the message.
theorem Msg.writeAt_bytes {offset : Nat} {as bs cs : List UInt8} (h : m.bytes = as ++ cs)
    (ho : as.length = offset) (hl : bs.length ≤ cs.length) :
    (m.writeAt offset bs).bytes = as ++ bs ++ cs.drop bs.length := by
  subst ho
  have hs : as.length + cs.length = sizeOfMsg := by rw [← m.size, h, List.length_append]
  have ht : (as ++ bs ++ cs.drop bs.length).length ≤ sizeOfMsg := by
    simp only [List.length_append, List.length_drop]
    omega
  have hw : (m.writeAt as.length bs).bytes = (m.bytes.take as.length ++ bs ++
      m.bytes.drop (as.length + bs.length)).take sizeOfMsg := rfl
  rw [hw, h, List.take_left, ← List.drop_drop, List.drop_left, List.take_of_length_le ht]

theorem Msg.setLength_bytes {b₀ b : UInt8} {bs : List UInt8} (h : m.bytes = b₀ :: bs) :
    (m.setLength b).bytes = b :: bs := by
  have hs : bs.length + 1 = sizeOfMsg := by rw [← m.size, h]; rfl
  have hw : (m.setLength b).bytes = ([b] ++ m.bytes.drop 1).take sizeOfMsg := rfl
  rw [hw, h]
  exact List.take_of_length_le (Nat.le_of_eq hs)

theorem Msg.addLength_bytes {b₀ : UInt8} {bs : List UInt8} {length : Nat} (h : m.bytes = b₀ :: bs) :
    (m.addLength length).bytes = (b₀ + UInt8.ofNat length) :: bs := by
  rw [Msg.addLength, setLength_bytes h, msgLength_of_bytes h]

theorem Msg.begin_bytes (t : UInt8) (m : Msg) :
    (m.begin t).bytes = 1 :: t :: m.msgBody ∧ m.msgBody.length = maxMsgBodyLength := by
  have ⟨b₀, b₁, bs, h, hl⟩ := exists_bytes m
  have hzero : (m.setLength 0).bytes = [0] ++ (b₁ :: bs) := setLength_bytes h
  have htype : ((m.setLength 0).writeAt 1 [t]).bytes = [0] ++ [t] ++ bs :=
    writeAt_bytes hzero rfl (by simp)
  have hb : m.msgBody = bs := by rw [msgBody, h]; rfl
  rw [hb, begin, sizeOfMsgLength, addLength_bytes htype]
  exact ⟨rfl, hl⟩

-- The first byte of a request, as it is with the eight bits of `msgLength`.
theorem request_bytes (m : Msg) (t : UInt8) (body : Option (List UInt8))
    (h : length.toNat ≤ maxMsgBodyLength) : ∃ bs,
    (request m t body length).bytes = (1 + UInt8.ofNat length.toNat) :: t :: bs ∧
      ∀ b ∈ body, length.toNat ≤ b.length → bs.take length.toNat = b.take length.toNat := by
  have ⟨hb, hl⟩ := m.begin_bytes t
  cases body
  case none => exact ⟨m.msgBody, Msg.addLength_bytes hb, by simp⟩
  case some body =>
    have hle : (body.take length.toNat).length ≤ m.msgBody.length := by
      rw [hl]
      exact Nat.le_trans (List.length_take_le _ _) h
    let bs := body.take length.toNat ++ m.msgBody.drop (body.take length.toNat).length
    have hb : (m.begin t).bytes = [1, t] ++ m.msgBody := hb
    have hw : ((m.begin t).writeAt offsetToMsgBody (body.take length.toNat)).bytes = 1 :: t :: bs :=
      Msg.writeAt_bytes hb rfl hle
    refine ⟨bs, Msg.addLength_bytes hw, ?_⟩
    rintro _ ⟨rfl⟩ hlen
    have htake : length.toNat ≤ (body.take length.toNat).length :=
      Nat.le_of_eq (List.length_take_of_le hlen).symm
    rw [List.take_append_of_le_length htake, List.take_take, Nat.min_self]

-- `msgLength` counts the type and the whole of the body, and all of that is sent.
structure Encoded (m : Msg) (msgType : UInt8) (pSendMsgBody : Option (List UInt8))
    (sendMsgBodyLength : UInt16) : Prop where
  msgLength : m.msgLength.toNat = sizeOfMsgType + sendMsgBodyLength.toNat
  wire      : ∀ body ∈ pSendMsgBody, sendMsgBodyLength.toNat ≤ body.length →
    m.wire = m.msgLength :: msgType :: body.take sendMsgBodyLength.toNat

-- The check allows for a body that is longer than what `msgLength` can count.
theorem encoded_iff (h : length.toNat ≤ maxMsgBodyLength) :
    Encoded (request m t body length) t body length ↔ length.toNat ≤ 254 := by
  have ⟨bs, hb, hbody⟩ := request_bytes m t body h
  have hl := Msg.msgLength_of_bytes hb
  have hlen : (1 + UInt8.ofNat length.toNat).toNat = (1 + length.toNat) % 256 := by
    simp [UInt8.toNat_add]
  have hmax : maxMsgBodyLength = 257 := rfl
  constructor
  case mp =>
    intro he
    have hm := he.msgLength
    rw [hl, hlen, sizeOfMsgType] at hm
    omega
  case mpr =>
    intro hle
    have hm : (1 + UInt8.ofNat length.toNat).toNat = length.toNat + 1 := by rw [hlen]; omega
    refine ⟨?msgLength, fun b hmem hb' => ?wire⟩
    case msgLength => rw [hl, hm, sizeOfMsgType, Nat.add_comm]
    case wire =>
      rw [Msg.wire_of_bytes hb, hl, hm, List.take_succ_cons, hbody b hmem hb']

-- A response that arrives as it was sent is what the client gets.
theorem runMessagingClient_iff {calls : ClientCalls} {receiveBuffer response : Msg} {c : Chunk}
    {e : StreamEnd} {serverPort : UInt16} {ip : Option String} {pSendMsg : Msg}
    {result : ClientReturnCode × Option Msg} (hconnect : ∀ port ip, calls.connect port ip)
    (hsend : ∀ bs, calls.send bs) (hc : c.bytes = response.wire) :
    (∃ turns, runMessagingClient calls turns ⟨[c], e⟩ serverPort ip (some pSendMsg)
        (some receiveBuffer) = some result) ↔
      result = (.success, some ((receiveBuffer.setLength 255).write response.wire)) := by
  have hr := receive_single receiveBuffer e hc
  have hraw : (Receiver.init receiveBuffer ⟨[c], e⟩).receive.rawReceivedLength =
      (Receiver.init receiveBuffer ⟨[c], e⟩).receive.pReceivedMsg.msgLength.toNat +
        sizeOfMsgLength := by
    rw [hr, msgLength_write_wire]
  have hcode : receivedReturnCode (Receiver.init receiveBuffer ⟨[c], e⟩).receive = .success := by
    rw [receivedReturnCode, if_neg (not_not.mpr hraw), hr]
    exact if_neg (Int.not_lt.mpr (Int.natCast_nonneg _))
  have hends (r' : Receiver) : Ends Receiver.receive clientReceivesAgain
      (.init receiveBuffer ⟨[c], e⟩) r' ↔ r' = (Receiver.init receiveBuffer ⟨[c], e⟩).receive := by
    rw [ends_iff, if_neg (by simp [clientReceivesAgain_of_eq _ hraw])]
  rw [runMessagingClient_eq_some_iff hconnect hsend]
  simp only [hends, exists_eq_left, hcode]
  rw [hr]

-- So the caller of the client gets what it makes of the response.
theorem runMessagingClient_map_iff {β : Type} {f : ClientReturnCode × Option Msg → β} {b : β}
    {calls : ClientCalls} {receiveBuffer response : Msg} {c : Chunk} {e : StreamEnd}
    {serverPort : UInt16} {ip : Option String} {pSendMsg : Msg}
    (hconnect : ∀ port ip, calls.connect port ip) (hsend : ∀ bs, calls.send bs)
    (hc : c.bytes = response.wire) :
    (∃ turns, (runMessagingClient calls turns ⟨[c], e⟩ serverPort ip (some pSendMsg)
        (some receiveBuffer)).map f = some b) ↔
      b = f (.success, some ((receiveBuffer.setLength 255).write response.wire)) := by
  simp only [Option.map_eq_some_iff]
  constructor
  case mp =>
    rintro ⟨turns, r, hr, rfl⟩
    rw [(runMessagingClient_iff hconnect hsend hc).mp ⟨turns, hr⟩]
  case mpr =>
    rintro rfl
    have ⟨turns, hr⟩ : ∃ turns, runMessagingClient calls turns ⟨[c], e⟩ serverPort ip (some pSendMsg)
        (some receiveBuffer) = some _ := (runMessagingClient_iff hconnect hsend hc).mpr rfl
    exact ⟨turns, _, hr, rfl⟩

-- A response that begins with success: the bytes behind it are copied.
theorem receiveCnf_of_take {pReceivedMsg : Msg} {length type success : UInt8} {specifics : List UInt8}
    (hb : pReceivedMsg.bytes.take (specifics.length + 3) = length :: type :: success :: specifics)
    (hl : length.toNat = specifics.length + 2) (hs : success ≠ 0) :
    receiveCnf true (.success, some pReceivedMsg) = (true, some specifics) := by
  have ht := List.take_append_drop (specifics.length + 3) pReceivedMsg.bytes
  rw [hb] at ht
  have hlen : pReceivedMsg.msgLength = length := Msg.msgLength_of_bytes ht.symm
  have hbody : pReceivedMsg.msgBody =
      success :: (specifics ++ pReceivedMsg.bytes.drop (specifics.length + 3)) := by
    rw [Msg.msgBody]
    nth_rewrite 1 [← ht]
    rfl
  have hn : length.toNat - sizeOfMsgType - sizeOfBool = specifics.length := by
    rw [hl, sizeOfMsgType, sizeOfBool]
    rfl
  simp only [receiveCnf, hlen, hbody, hn]
  rw [if_pos]
  case hc =>
    rw [hl, sizeOfMsgType, sizeOfBool]
    exact ⟨by omega, by omega, hs⟩
  case _ => exact congrArg (fun bs => (true, some bs)) List.take_left

end RoboOne.Messaging
