import RoboOne.Messaging.Termination

namespace RoboOne.Messaging

open Loop

variable {m : Msg} {c : Chunk} {cs : List Chunk} {e : StreamEnd} {r r' : Receiver}

-- Whatever is in the memory that it gets, `handleSendReceive` passes on the message as it was sent.
def ServerReceives (m : Msg) (cs : List Chunk) (e : StreamEnd) : Prop :=
  ∀ calls : ServerCalls, calls.mallocReceivedMsg.isSome → calls.mallocSendMsg.isSome →
    ∃ turns served msg, handleSendReceive calls turns ⟨cs, e⟩ = some served ∧
      served.handled = some msg ∧ msg.bytes.take m.wire.length = m.wire

-- Whatever is in `*pReceivedMsg`, `runMessagingClient` puts the response there as it was sent.
def ClientReceives (m : Msg) (cs : List Chunk) (e : StreamEnd) : Prop :=
  ∀ (calls : ClientCalls) (serverPort : UInt16) (ip : Option String) (pSendMsg buffer : Msg),
    (∀ port ip, calls.connect port ip) → (∀ bs, calls.send bs) →
      ∃ turns msg, runMessagingClient calls turns ⟨cs, e⟩ serverPort ip (some pSendMsg)
          (some buffer) = some (.success, some msg) ∧
        msg.bytes.take m.wire.length = m.wire

-- A byte of the buffer that no chunk reaches is never written.
def Untouched (i : Nat) (b : Option UInt8) (r : Receiver) : Prop :=
  (∀ c ∈ r.socket.chunks, c.bytes.length ≤ i) ∧ r.pReceivedMsg.bytes[i]? = b

theorem Chunk.bytes_eq_of_mem {bs : List UInt8} (h : c ∈ Chunk.ofBytes? bs) : c.bytes = bs := by
  cases bs
  case nil  => cases h
  case cons => cases h; rfl

theorem receive_untouched {i : Nat} {b : Option UInt8} (hi : i < sizeOfMsg) (r : Receiver)
    (h : Untouched i b r) : Untouched i b r.receive := by
  have ⟨hc, hb⟩ := h
  cases hcs : r.socket.chunks
  case nil =>
    rw [receive_nil hcs]
    exact ⟨hc, hb⟩
  case cons c cs =>
    have hl : c.bytes.length ≤ i := hc c (by simp [hcs])
    simp only [Receiver.receive, recv, hcs]
    constructor
    case left =>
      intro c' hc'
      rcases List.mem_append.mp hc' with hc' | hc'
      case inl =>
        rw [Chunk.bytes_eq_of_mem (Option.mem_toList.mp hc'), List.length_drop]
        omega
      case inr => exact hc c' (by simp [hcs, hc'])
    case right =>
      refine (Msg.getElem?_write ?_ hi).trans hb
      exact Nat.le_trans (List.length_take_le' _ _) hl

-- If there is more than one chunk, none reaches the last byte of the message.
theorem length_le_of_flatMap (h : cs.flatMap Chunk.bytes = m.wire) (hl : cs.length ≠ 1) :
    ∀ c ∈ cs, c.bytes.length ≤ m.msgLength.toNat := by
  intro c hc
  obtain ⟨a, b, rfl⟩ := List.append_of_mem hc
  have hlen := congrArg List.length h
  have hpos : 0 < (a ++ b).length := by
    rw [List.length_append, List.length_cons] at hl
    rw [List.length_append]
    omega
  have hrest : 0 < ((a ++ b).flatMap Chunk.bytes).length := by
    cases hab : a ++ b
    case nil  => simp [hab] at hpos
    case cons => simp [Chunk.bytes]
  rw [Msg.length_wire] at hlen
  simp only [List.flatMap_append, List.flatMap_cons, List.length_append] at hlen hrest
  omega

-- The byte at the end of the message, in a buffer with another byte there.
theorem not_received_of_untouched {msg : Msg} {b : UInt8} (hb : m.bytes[m.msgLength.toNat]? ≠ some b)
    (h : msg.bytes[m.msgLength.toNat]? = some b) : msg.bytes.take m.wire.length ≠ m.wire := by
  intro ht
  have hlt : m.msgLength.toNat < m.msgLength.toNat + sizeOfMsgLength := Nat.lt_succ_self _
  have hw : m.wire[m.msgLength.toNat]? = m.bytes[m.msgLength.toNat]? := by
    rw [Msg.wire, List.getElem?_take_of_lt hlt]
  rw [← hw, ← ht, m.length_wire, List.getElem?_take_of_lt (Nat.lt_succ_self _)] at hb
  exact hb h

-- A buffer that is filled with one byte.
def Msg.filled (b : UInt8) : Msg where
  bytes := List.replicate sizeOfMsg b
  size  := by simp

theorem init_untouched {b : UInt8} (hm : 0 < m.msgLength.toNat)
    (hc : ∀ c ∈ cs, c.bytes.length ≤ m.msgLength.toNat) :
    Untouched m.msgLength.toNat (some b) (.init (.filled b) ⟨cs, e⟩) := by
  have hl : m.msgLength.toNat < sizeOfMsg := Nat.lt_trans m.msgLength.toNat_lt (by decide)
  refine ⟨hc, ?_⟩
  rw [Receiver.init, Msg.setLength, Msg.getElem?_write hm hl, Msg.filled,
    List.getElem?_replicate_of_lt hl]

-- A byte that differs from the last one of the message.
def otherByte (m : Msg) : UInt8 :=
  m.bytes.getD m.msgLength.toNat 0 + 1

theorem otherByte_ne : m.bytes[m.msgLength.toNat]? ≠ some (otherByte m) := by
  have hl : m.msgLength.toNat < m.bytes.length := by
    rw [m.size]
    exact Nat.lt_trans m.msgLength.toNat_lt (by decide)
  rw [otherByte, List.getD_eq_getElem?_getD, List.getElem?_eq_getElem hl, Option.getD_some]
  intro h
  have h := congrArg UInt8.toNat (Option.some.inj h)
  have hb := m.bytes[m.msgLength.toNat].toNat_lt
  rw [UInt8.toNat_add, UInt8.toNat_one] at h
  omega

-- A message in several chunks is not received, whatever they are.
theorem not_received_of_ends {again : Receiver → Bool} (hm : 0 < m.msgLength.toNat)
    (h : cs.flatMap Chunk.bytes = m.wire) (hl : cs.length ≠ 1)
    (he : Ends Receiver.receive again (.init (.filled (otherByte m)) ⟨cs, e⟩) r') :
    r'.pReceivedMsg.bytes.take m.wire.length ≠ m.wire := by
  have hlt : m.msgLength.toNat < sizeOfMsg := Nat.lt_trans m.msgLength.toNat_lt (by decide)
  have hu := he.invariant (receive_untouched hlt)
    (init_untouched hm (length_le_of_flatMap h hl))
  exact not_received_of_untouched otherByte_ne hu.right

-- A message that arrives in one chunk is received in one turn.
theorem receive_single (buffer : Msg) (e : StreamEnd) (hc : c.bytes = m.wire) :
    (Receiver.init buffer ⟨[c], e⟩).receive = {
      pReceivedMsg      := (buffer.setLength 255).write m.wire
      rawReceivedLength := m.msgLength.toNat + sizeOfMsgLength
      rawBytesReceived  := m.msgLength.toNat + sizeOfMsgLength
      socket            := ⟨[], e⟩ } := by
  have hlt := m.msgLength.toNat_lt
  have hl : c.bytes.length = m.msgLength.toNat + 1 := hc ▸ m.length_wire
  have hr : c.bytes.length ≤
      (Receiver.init buffer ⟨[c], e⟩).pReceivedMsg.msgLength.toNat + sizeOfMsgLength := by
    rw [Receiver.init_msgLength, hl]
    exact Nat.succ_le_succ (Nat.le_of_lt_succ hlt)
  rw [receive_cons rfl hr, hc, Receiver.init]
  simp only [m.length_wire, Nat.zero_add]
  rfl

theorem msgLength_write_wire {buffer : Msg} : (buffer.write m.wire).msgLength = m.msgLength := by
  have h := head?_wire m
  cases hw : m.wire
  case nil  => exact absurd hw (wire_ne_nil m)
  case cons =>
    rw [hw] at h
    exact Option.some.inj h

theorem take_write_wire {buffer : Msg} :
    (buffer.write m.wire).bytes.take m.wire.length = m.wire := by
  refine Msg.take_write ?_
  have hlt := m.msgLength.toNat_lt
  rw [m.length_wire, show sizeOfMsg = 259 from rfl]
  omega

-- Both loops stop when they have got the message in one chunk.
theorem ends_single {again : Receiver → Bool} (buffer : Msg) (e : StreamEnd)
    (hc : c.bytes = m.wire)
    (ha : ∀ r, r.rawReceivedLength = r.pReceivedMsg.msgLength.toNat + sizeOfMsgLength →
      again r = false) :
    ∃ r', Ends Receiver.receive again (.init buffer ⟨[c], e⟩) r' ∧
      r'.rawReceivedLength = r'.pReceivedMsg.msgLength.toNat + sizeOfMsgLength ∧
      0 ≤ r'.rawBytesReceived ∧ r'.pReceivedMsg.bytes.take m.wire.length = m.wire := by
  have hr := receive_single buffer e hc
  have hraw : (Receiver.init buffer ⟨[c], e⟩).receive.rawReceivedLength =
      (Receiver.init buffer ⟨[c], e⟩).receive.pReceivedMsg.msgLength.toNat + sizeOfMsgLength := by
    rw [hr, msgLength_write_wire]
  refine ⟨_, ends_iff.mpr ?_, hraw, ?_, ?_⟩
  case refine_1 => rw [if_neg (by simp [ha _ hraw])]
  case refine_2 =>
    rw [hr]
    exact Int.natCast_nonneg _
  case refine_3 =>
    rw [hr]
    exact take_write_wire

theorem serverReceivesAgain_of_eq (r : Receiver)
    (h : r.rawReceivedLength = r.pReceivedMsg.msgLength.toNat + sizeOfMsgLength) :
    serverReceivesAgain r = false := by
  simp [serverReceivesAgain, h]

theorem clientReceivesAgain_of_eq (r : Receiver)
    (h : r.rawReceivedLength = r.pReceivedMsg.msgLength.toNat + sizeOfMsgLength) :
    clientReceivesAgain r = false := by
  simp [clientReceivesAgain, h]

theorem serverReceives_iff (hm : 0 < m.msgLength.toNat) (h : cs.flatMap Chunk.bytes = m.wire) :
    ServerReceives m cs e ↔ cs.length = 1 := by
  constructor
  case mp =>
    intro hs
    by_contra hl
    have ⟨turns, served, msg, hserved, hh, ht⟩ := hs (.silent (.filled (otherByte m))) rfl rfl
    obtain ⟨r', hr, rfl⟩ := Option.map_eq_some_iff.mp hserved
    have hn := not_received_of_ends hm h hl ⟨turns, hr⟩
    split at hh
    case isFalse => cases hh
    case isTrue =>
      rw [handleMsg_handled rfl] at hh
      exact hn (Option.some.inj hh ▸ ht)
  case mpr =>
    intro hl calls hb hs
    obtain ⟨c, rfl⟩ := List.length_eq_one_iff.mp hl
    obtain ⟨buffer, hb⟩ := Option.isSome_iff_exists.mp hb
    have hc : c.bytes = m.wire := by simpa using h
    have ⟨r', ⟨turns, hr⟩, hraw, _, ht⟩ := ends_single buffer e hc serverReceivesAgain_of_eq
    simp only [handleSendReceive, hb]
    refine ⟨turns, _, _, congrArg (Option.map _) hr, ?_, ht⟩
    simp only [if_pos hraw]
    exact handleMsg_handled hs

theorem clientReceives_iff (hm : 0 < m.msgLength.toNat) (h : cs.flatMap Chunk.bytes = m.wire) :
    ClientReceives m cs e ↔ cs.length = 1 := by
  constructor
  case mp =>
    intro hs
    by_contra hl
    obtain ⟨turns, msg, hr, ht⟩ := hs .connected 0 none .zero (.filled (otherByte m))
      (fun _ _ => rfl) fun _ => rfl
    obtain ⟨r', he, hr⟩ :=
      (runMessagingClient_eq_some_iff (fun _ _ => rfl) fun _ => rfl).mp ⟨turns, hr⟩
    have hmsg : msg = r'.pReceivedMsg := Option.some.inj (Prod.mk.inj hr).right
    exact not_received_of_ends hm h hl he (hmsg ▸ ht)
  case mpr =>
    intro hl calls serverPort ip pSendMsg buffer hconnect hsend
    obtain ⟨c, rfl⟩ := List.length_eq_one_iff.mp hl
    have hc : c.bytes = m.wire := by simpa using h
    obtain ⟨r', he, hraw, hb, ht⟩ := ends_single buffer e hc clientReceivesAgain_of_eq
    have hcode : receivedReturnCode r' = .success := by
      rw [receivedReturnCode, if_neg (not_not.mpr hraw), if_neg (Int.not_lt.mpr hb)]
    obtain ⟨turns, hr⟩ : ∃ turns, runMessagingClient calls turns ⟨[c], e⟩ serverPort ip
        (some pSendMsg) (some buffer) = some (.success, some r'.pReceivedMsg) :=
      (runMessagingClient_eq_some_iff hconnect hsend).mpr ⟨r', he, by rw [hcode]⟩
    exact ⟨turns, r'.pReceivedMsg, hr, ht⟩

-- A message is received as it was sent if and only if it arrives in one chunk.
theorem message_received_iff (m : Msg) (cs : List Chunk) (e : StreamEnd)
    (hm : 0 < m.msgLength.toNat) (h : cs.flatMap Chunk.bytes = m.wire) :
    (ServerReceives m cs e ↔ cs.length = 1) ∧ (ClientReceives m cs e ↔ cs.length = 1) :=
  ⟨serverReceives_iff hm h, clientReceives_iff hm h⟩

-- A message that consists of its length and of one more byte.
def shortest : Msg :=
  Msg.zero.write [1, 7]

theorem message_received_iff_shortest :
    (ServerReceives shortest [⟨1, [7]⟩] .closed ↔ [Chunk.mk 1 [7]].length = 1) ∧
      (ClientReceives shortest [⟨1, [7]⟩] .closed ↔ [Chunk.mk 1 [7]].length = 1) :=
  message_received_iff shortest [⟨1, [7]⟩] .closed (by decide) (by decide)

-- The two bytes arrive one after the other.
theorem message_not_received :
    ¬∀ (m : Msg) (cs : List Chunk) (e : StreamEnd), 0 < m.msgLength.toNat →
      cs.flatMap Chunk.bytes = m.wire → ServerReceives m cs e ∧ ClientReceives m cs e := by
  intro h
  have hc : [Chunk.mk 1 [], Chunk.mk 7 []].flatMap Chunk.bytes = shortest.wire := by decide
  have hr := (h shortest _ .closed (by decide) hc).left
  exact absurd ((serverReceives_iff (by decide) hc).mp hr) (by decide)

end RoboOne.Messaging
