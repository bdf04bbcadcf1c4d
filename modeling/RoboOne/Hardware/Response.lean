import RoboOne.Hardware.Answers
import RoboOne.Hardware.Client

namespace RoboOne.Hardware

open Messaging Bytes Shared

def sizeOfOResponseString : Nat := maxOStringLength + 4

-- The memory of an `OResponseString`, which is packed.
@[ext]
structure OResponseString where
  bytes : List UInt8
  size  : bytes.length = sizeOfOResponseString
deriving DecidableEq

namespace OResponseString

def string (r : OResponseString) : List UInt8 :=
  r.bytes.take maxOStringLength

def stringLength (r : OResponseString) : Nat :=
  leValue (r.bytes.drop maxOStringLength)

-- `memcpy` to the start of the structure: what is behind the new bytes keeps its value.
def put (r : OResponseString) (specifics : List UInt8) : OResponseString where
  bytes := (specifics ++ r.bytes.drop specifics.length).take sizeOfOResponseString
  size  := by
    have := r.size
    simp only [List.length_take, List.length_append, List.length_drop, this]
    omega

-- The one in the body of a `HardwareSendOStringCnf`.
def ofCnf (m : Msg) : OResponseString where
  bytes := (m.msgBody.drop sizeOfBool).take sizeOfOResponseString
  size  := by
    have hs : m.bytes.length = 259 := m.size
    have hm : sizeOfOResponseString = 84 := rfl
    simp [Msg.msgBody, hs, hm, sizeOfBool, offsetToMsgBody, sizeOfMsgLength, sizeOfMsgType]

-- The same length, and the same string of that length, which has the terminator at its end.
structure Agrees (client server : OResponseString) : Prop where
  string       : client.string.take server.stringLength = server.string.take server.stringLength
  stringLength : client.stringLength = server.stringLength

-- How many bytes of `stringLength` are among the first `n + 4` bytes of the structure, which are those
-- that come with a string of the length `n`.
def lengthBytes (n : Nat) : Nat :=
  n + 4 - maxOStringLength

-- The memory of the others happens to hold the rest of the length.
def LengthInPlace (r : OResponseString) (n : Nat) : Prop :=
  r.bytes.drop (maxOStringLength + lengthBytes n) = (leBytes 4 n).drop (lengthBytes n)

instance (r : OResponseString) (n : Nat) : Decidable (r.LengthInPlace n) :=
  inferInstanceAs (Decidable (_ = _))

end OResponseString

open OResponseString

-- The first `k` bytes of `as ++ bs` over `cs`, seen behind `as`.
theorem drop_overlay {as bs cs : List UInt8} {k : Nat} :
    ((as ++ bs).take k ++ cs.drop k).drop as.length =
      bs.take (k - as.length) ++ cs.drop (as.length + (k - as.length)) := by
  rcases Nat.le_total k as.length with h | h
  case inl =>
    have hz : k - as.length = 0 := by omega
    have hl : (as.take k).length = k := List.length_take_of_le h
    rw [hz, List.take_append_of_le_length h, List.drop_append, hl, List.drop_drop,
      List.drop_of_length_le (hl.trans_le h)]
    simp [Nat.add_sub_cancel' h]
  case inr =>
    have hk' : as.length + (k - as.length) = k := by omega
    rw [List.take_append, List.take_of_length_le h, List.append_assoc, List.drop_left, hk']

theorem take_append_eq_iff {bs cs : List UInt8} {k : Nat} : bs.take k ++ cs = bs ↔ cs = bs.drop k := by
  have h := List.take_append_drop k bs
  constructor
  case mp  => exact fun hc => List.append_cancel_left (hc.trans h.symm)
  case mpr => exact fun hc => hc ▸ h

section

variable {bus : OwBus} {body bs string stringLength rest : List UInt8} {m response sendBuffer
  receiveBuffer : Msg} {old : OResponseString} {calls : ClientCalls} {c : Chunk} {e : StreamEnd}
  {type success : UInt8} {n : Nat}

-- The string that is copied always comes with four more bytes.
theorem length_specifics (hstring : string.length = maxOStringLength) (hn : n ≤ maxOStringLength) :
    ((string ++ leBytes 4 n).take (n + 4)).length = n + 4 := by
  rw [List.length_take, List.length_append, hstring, length_leBytes]
  exact Nat.min_eq_left (Nat.add_le_add_right hn 4)

-- The bytes of the confirmation that are sent.
theorem SendOStringCnf.wire (h : SendOStringCnf m (1 + UInt8.ofNat (sizeOfBool + n + 4)) type success
    string (leBytes 4 n) rest) (hn : n ≤ maxOStringLength) :
    m.wire = (1 + UInt8.ofNat (sizeOfBool + n + 4)) :: type :: success ::
        (string ++ leBytes 4 n).take (n + 4) ∧
      (1 + UInt8.ofNat (sizeOfBool + n + 4)).toNat = n + 6 := by
  have hmax : maxOStringLength = 80 := rfl
  have hl : (1 + UInt8.ofNat (sizeOfBool + n + 4)).toNat = n + 6 := by
    simp only [UInt8.toNat_add, UInt8.toNat_one, UInt8.toNat_ofNat', sizeOfBool]
    omega
  have hle : n + 4 ≤ (string ++ leBytes 4 n).length := by
    rw [List.length_append, h.string, length_leBytes]
    omega
  refine ⟨?_, hl⟩
  rw [Msg.wire_of_bytes h.bytes, hl, ← List.append_assoc]
  exact congrArg _ (congrArg _ (congrArg _ (List.take_append_of_le_length hle)))

-- What is in the message for the client to see.
theorem SendOStringCnf.ofCnf {length : UInt8} (h : SendOStringCnf m length type success string
    (leBytes 4 n) rest) (hn : n ≤ maxOStringLength) :
    (OResponseString.ofCnf m).string = string ∧ (OResponseString.ofCnf m).stringLength = n := by
  have hb : (OResponseString.ofCnf m).bytes = string ++ leBytes 4 n := by
    have hbody : m.msgBody.drop sizeOfBool = (string ++ leBytes 4 n) ++ rest := by
      rw [Msg.msgBody, h.bytes, List.append_assoc]
      rfl
    have hl : (string ++ leBytes 4 n).length = sizeOfOResponseString := by
      rw [List.length_append, h.string, length_leBytes]
      rfl
    have hdef : (OResponseString.ofCnf m).bytes =
        (m.msgBody.drop sizeOfBool).take sizeOfOResponseString := rfl
    rw [hdef, hbody, ← hl, List.take_left]
  have hlt : n < 256 ^ 4 := Nat.lt_of_le_of_lt hn (by decide)
  rw [OResponseString.string, OResponseString.stringLength, hb, ← h.string, List.take_left,
    List.drop_left, leValue_leBytes, Nat.mod_eq_of_lt hlt]
  exact ⟨rfl, rfl⟩

theorem put_bytes (old : OResponseString) (h : bs.length ≤ sizeOfOResponseString) :
    (old.put bs).bytes = bs ++ old.bytes.drop bs.length := by
  refine List.take_of_length_le ?_
  rw [List.length_append, List.length_drop, old.size]
  omega

-- What is then in a structure over which the first `n + 4` bytes of another one have been copied.
theorem put_specifics_bytes (hstring : string.length = maxOStringLength) (hn : n ≤ maxOStringLength) :
    (old.put ((string ++ leBytes 4 n).take (n + 4))).bytes =
      (string ++ leBytes 4 n).take (n + 4) ++ old.bytes.drop (n + 4) := by
  have hl := length_specifics hstring hn
  have hsize : ((string ++ leBytes 4 n).take (n + 4)).length ≤ sizeOfOResponseString :=
    hl.trans_le (Nat.add_le_add_right hn 4)
  rw [put_bytes old hsize, hl]

-- All bytes of the string are there.
theorem string_put (hstring : string.length = maxOStringLength) (hn : n ≤ maxOStringLength) :
    (old.put ((string ++ leBytes 4 n).take (n + 4))).string.take n = string.take n := by
  have hl : n ≤ ((string ++ leBytes 4 n).take (n + 4)).length :=
    (Nat.le_add_right n 4).trans_eq (length_specifics hstring hn).symm
  rw [OResponseString.string, put_specifics_bytes hstring hn, List.take_take, Nat.min_eq_left hn,
    List.take_append_of_le_length hl, List.take_take, Nat.min_eq_left (Nat.le_add_right n 4),
    List.take_append_of_le_length (hn.trans_eq hstring.symm)]

-- The bytes of the length are there as far as they are among those that have been copied.
theorem stringLength_put_iff (hstring : string.length = maxOStringLength)
    (hn : n ≤ maxOStringLength) :
    (old.put ((string ++ leBytes 4 n).take (n + 4))).stringLength = n ↔ old.LengthInPlace n := by
  have hlt : n < 256 ^ 4 := Nat.lt_of_le_of_lt hn (by decide)
  have hv : leValue (leBytes 4 n) = n := by rw [leValue_leBytes, Nat.mod_eq_of_lt hlt]
  have hl : ((old.put ((string ++ leBytes 4 n).take (n + 4))).bytes.drop maxOStringLength).length =
      (leBytes 4 n).length := by
    rw [List.length_drop, OResponseString.size, length_leBytes]
    rfl
  have hi := leValue_inj hl
  rw [hv] at hi
  refine hi.trans ?_
  rw [put_specifics_bytes hstring hn, ← hstring, drop_overlay, take_append_eq_iff, hstring]
  rfl

theorem agrees_put_iff {server : OResponseString} (hs : server.string = string)
    (hsl : server.stringLength = n) (hstring : string.length = maxOStringLength)
    (hn : n ≤ maxOStringLength) :
    (old.put ((string ++ leBytes 4 n).take (n + 4))).Agrees server ↔ old.LengthInPlace n := by
  have hlen : (old.put ((string ++ leBytes 4 n).take (n + 4))).stringLength = n ↔ _ :=
    stringLength_put_iff hstring hn
  have hstr : (old.put ((string ++ leBytes 4 n).take (n + 4))).string.take n = _ :=
    string_put hstring hn
  constructor
  case mp  => exact fun h => hlen.mp (h.stringLength.trans hsl)
  case mpr => exact fun h => ⟨by rw [hsl, hstr, hs], (hlen.mpr h).trans hsl.symm⟩

-- What the client finds in the confirmation.
theorem SendOStringCnf.receiveCnf (receiveBuffer : Msg) (h : SendOStringCnf m
    (1 + UInt8.ofNat (sizeOfBool + n + 4)) type 1 string (leBytes 4 n) rest)
    (hn : n ≤ maxOStringLength) :
    Messaging.receiveCnf true (.success,
      some (((receiveBuffer.setLength 0).setLength 255).write m.wire)) =
        (true, some ((string ++ leBytes 4 n).take (n + 4))) := by
  have ⟨hwire, hlength⟩ := h.wire hn
  have hspecifics := length_specifics h.string hn
  have hlen : m.wire.length = ((string ++ leBytes 4 n).take (n + 4)).length + 3 := by
    rw [hwire]
    rfl
  have hone : (1 : UInt8) ≠ 0 := by decide
  exact receiveCnf_of_take (by rw [← hlen, take_write_wire, hwire]) (by rw [hlength, hspecifics]) hone

-- The client gets the response of the server in one chunk, and copies it to where `old` is.
def ResponseReceived (calls : ClientCalls) (sendBuffer receiveBuffer : Msg)
    (pSendMsgBody : List UInt8) (response : Msg) (c : Chunk) (e : StreamEnd)
    (old : OResponseString) : Prop :=
  ∃ turns specifics, hardwareServerSendReceive calls turns ⟨[c], e⟩ (some sendBuffer)
      (some receiveBuffer) .sendOString (some pSendMsgBody) (.ofNat pSendMsgBody.length) true =
        some (true, some specifics) ∧
    (old.put specifics).Agrees (.ofCnf response)

-- What the client makes of the response.
theorem hardwareServerSendReceive_iff {result : Bool × Option (List UInt8)} {length : UInt16}
    (sendBuffer : Msg) (t : HardwareMsgType) (pSendMsgBody : Option (List UInt8))
    (hconnect : ∀ port ip, calls.connect port ip) (hsend : ∀ bs, calls.send bs)
    (hl : length.toNat ≤ maxMsgBodyLength) (hc : c.bytes = response.wire) :
    (∃ turns, hardwareServerSendReceive calls turns ⟨[c], e⟩ (some sendBuffer) (some receiveBuffer) t
        pSendMsgBody length true = some result) ↔
      result = receiveCnf true
        (.success, some (((receiveBuffer.setLength 0).setLength 255).write response.wire)) := by
  simp only [hardwareServerSendReceive, if_pos hl]
  exact runMessagingClient_map_iff hconnect hsend hc

-- A string for the Orangutan, as it is put into the body of a request.
structure OInputContainer where
  waitForResponse : Bool
  string          : List UInt8
  size            : string.length = maxOStringLength

def sizeOfOInputContainer : Nat := sizeOfBool + maxOStringLength

def OInputContainer.bytes (input : OInputContainer) : List UInt8 :=
  input.waitForResponse.toUInt8 :: input.string

theorem OInputContainer.length_bytes (input : OInputContainer) : input.bytes.length = 81 :=
  congrArg (· + 1) input.size

-- The body of a request, as the server finds it at the start of the memory that it gets it into.
theorem sent_of_take (bus : OwBus) {input : OInputContainer} (hw : input.waitForResponse)
    (hb : body.take sizeOfOInputContainer = input.bytes) : body.headD 0 ≠ 0 ∧
      bus.sent body =
        bus.orangutan.sendStringToOrangutan (body.drop sizeOfBool) (some maxOStringLength) := by
  have hs := List.take_append_drop sizeOfOInputContainer body
  rw [hb, OInputContainer.bytes, hw, List.cons_append] at hs
  have hhead : body.headD 0 = 1 := by rw [← hs]; rfl
  refine ⟨by rw [hhead]; decide, ?_⟩
  rw [OwBus.sent, hhead]
  rfl

theorem responseReceived_iff {input : OInputContainer} {answer : List UInt8} {pSendMsg : Msg}
    {returnCode : ServerReturnCode} (hw : input.waitForResponse)
    (hb : body.take sizeOfOInputContainer = input.bytes)
    (hs : bus.orangutan.sendStringToOrangutan (body.drop sizeOfBool) (some maxOStringLength) =
      (true, some answer))
    (hd : doAction bus .sendOString body pSendMsg = some (returnCode, response))
    (hconnect : ∀ port ip, calls.connect port ip) (hsend : ∀ bs, calls.send bs)
    (hc : c.bytes = response.wire) :
    ResponseReceived calls sendBuffer receiveBuffer input.bytes response c e old ↔
      old.LengthInPlace answer.length := by
  have ⟨hwait, hsent⟩ := sent_of_take bus hw hb
  rw [hs] at hsent
  have hn : bus.stringLength body = answer.length := by rw [OwBus.stringLength, hsent]; rfl
  have hle : answer.length ≤ maxOStringLength := hn ▸ stringLength_le
  have hdisplay : Displayable maxOStringLength (body.drop sizeOfBool) := by
    by_contra hn
    rw [doAction_of_not_answerable fun ha => hn (ha.right rfl)] at hd
    cases hd
  have ⟨m', string, rest, hd', h, _⟩ := doAction_sendOString bus pSendMsg hdisplay
  obtain rfl : m' = response := (Prod.mk.inj (Option.some.inj (hd'.symm.trans hd))).right
  rw [hn, hsent] at h
  have ⟨hstring, hstringLength⟩ := h.ofCnf hle
  have hreceived := h.receiveCnf receiveBuffer hle
  have hl : (UInt16.ofNat input.bytes.length).toNat ≤ maxMsgBodyLength := by
    rw [input.length_bytes]
    decide
  rw [← agrees_put_iff hstring hstringLength h.string hle]
  constructor
  case mp =>
    rintro ⟨turns, specifics, hr, ha⟩
    have hr := (hardwareServerSendReceive_iff _ _ _ hconnect hsend hl hc).mp ⟨turns, hr⟩
    rw [hreceived] at hr
    exact Option.some.inj (Prod.mk.inj hr).right ▸ ha
  case mpr =>
    intro ha
    have hr := (hardwareServerSendReceive_iff (e := e) sendBuffer .sendOString (some input.bytes)
      hconnect hsend hl hc).mpr hreceived.symm
    obtain ⟨turns, hr⟩ := hr
    exact ⟨turns, _, hr, ha⟩

end

-- The client gets the string and its length if and only if the part of the length that does not come
-- with the response is already in its memory. A response that fills the string array has all of it.
theorem orangutan_response_received_iff (bus : OwBus) (input : OInputContainer)
    (answer body : List UInt8) (pSendMsg response sendBuffer receiveBuffer : Msg)
    (returnCode : ServerReturnCode) (calls : ClientCalls) (c : Chunk) (e : StreamEnd)
    (old : OResponseString) (hw : input.waitForResponse)
    (hb : body.take sizeOfOInputContainer = input.bytes)
    (hs : bus.orangutan.sendStringToOrangutan (body.drop sizeOfBool) (some maxOStringLength) =
      (true, some answer))
    (hd : doAction bus .sendOString body pSendMsg = some (returnCode, response))
    (hconnect : ∀ port ip, calls.connect port ip) (hsend : ∀ bs, calls.send bs)
    (hc : c.bytes = response.wire) :
    ResponseReceived calls sendBuffer receiveBuffer input.bytes response c e old ↔
      old.LengthInPlace answer.length :=
  responseReceived_iff hw hb hs hd hconnect hsend hc

-- The Hindbrain is asked if it is there, and says "OK".
def pingInput : OInputContainer where
  waitForResponse := true
  string          := 33 :: 10 :: List.replicate 78 0
  size            := by decide

def okBus : OwBus :=
  { goodBus with orangutan := { goodBus.orangutan with reads := [[79, 75], [13]] } }

-- A structure with an empty string, and a length.
def OResponseString.cleared (stringLength : UInt8) : OResponseString where
  bytes := List.replicate maxOStringLength 0 ++ [stringLength, 0, 0, 0]
  size  := by simp [sizeOfOResponseString]

theorem okBus_sent : okBus.orangutan.sendStringToOrangutan (pingInput.bytes.drop sizeOfBool)
    (some maxOStringLength) = (true, some [79, 75, 13, 0]) := by
  decide +kernel

theorem displayable_ping : Displayable maxOStringLength (pingInput.bytes.drop sizeOfBool) := by
  decide +kernel

theorem orangutan_response_received_iff_ok :
    ∃ response c, doAction okBus .sendOString pingInput.bytes .zero =
        some (.successKeepRunning, response) ∧
      (ResponseReceived .connected .zero .zero pingInput.bytes response c .closed (.cleared 4) ↔
        (OResponseString.cleared 4).LengthInPlace 4) := by
  have ⟨response, _, _, hd, _⟩ := doAction_sendOString okBus .zero displayable_ping
  have ⟨b, bs, hw⟩ := List.exists_cons_of_ne_nil (wire_ne_nil response)
  exact ⟨response, ⟨b, bs⟩, hd, orangutan_response_received_iff okBus pingInput [79, 75, 13, 0]
    pingInput.bytes .zero response .zero .zero .successKeepRunning .connected ⟨b, bs⟩ .closed
    (.cleared 4) rfl rfl okBus_sent hd (fun _ _ => rfl) (fun _ => rfl) hw.symm⟩

-- The length of the response stays zero, as it was in the memory of the client.
theorem orangutan_response_not_received :
    ¬∀ (bus : OwBus) (input : OInputContainer) (answer body : List UInt8)
      (pSendMsg response sendBuffer receiveBuffer : Msg) (returnCode : ServerReturnCode)
      (calls : ClientCalls) (c : Chunk) (e : StreamEnd) (old : OResponseString),
      input.waitForResponse → body.take sizeOfOInputContainer = input.bytes →
      bus.orangutan.sendStringToOrangutan (body.drop sizeOfBool) (some maxOStringLength) = (true, some answer) →
      doAction bus .sendOString body pSendMsg = some (returnCode, response) →
      (∀ port ip, calls.connect port ip) → (∀ bs, calls.send bs) → c.bytes = response.wire →
      ResponseReceived calls sendBuffer receiveBuffer input.bytes response c e old := by
  intro h
  have ⟨response, _, _, hd, _⟩ := doAction_sendOString okBus .zero displayable_ping
  have ⟨b, bs, hw⟩ := List.exists_cons_of_ne_nil (wire_ne_nil response)
  have hc : (Chunk.mk b bs).bytes = response.wire := hw.symm
  have hr := h okBus pingInput [79, 75, 13, 0] pingInput.bytes .zero response .zero .zero
    .successKeepRunning .connected ⟨b, bs⟩ .closed (.cleared 0) rfl rfl okBus_sent hd
    (fun _ _ => rfl) (fun _ => rfl) hc
  have hl := (responseReceived_iff rfl rfl okBus_sent hd (fun _ _ => rfl) (fun _ => rfl) hc).mp hr
  exact absurd hl (by decide)

end RoboOne.Hardware
