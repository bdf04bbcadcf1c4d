import RoboOne.Messaging.Client
import RoboOne.Messaging.Receive
import RoboOne.Messaging.Server

namespace RoboOne.Messaging

open Loop

variable {c : Chunk} {cs : List Chunk} {r r' : Receiver}

-- The loop of the server stops.
def ServerDone (raw : Nat) (length : UInt8) : Prop :=
  raw = length.toNat + sizeOfMsgLength ∨ maxMsgLength + sizeOfMsgLength ≤ raw ∨ length = 0

instance (raw : Nat) (length : UInt8) : Decidable (ServerDone raw length) :=
  inferInstanceAs (Decidable (_ ∨ _ ∨ _))

-- The loop of the client stops.
def ClientDone (raw : Nat) (length : UInt8) : Prop :=
  length.toNat + sizeOfMsgLength ≤ raw ∨ maxMsgLength + sizeOfMsgLength ≤ raw ∨ length = 0

instance (raw : Nat) (length : UInt8) : Decidable (ClientDone raw length) :=
  inferInstanceAs (Decidable (_ ∨ _ ∨ _))

theorem serverReceivesAgain_iff : serverReceivesAgain r = true ↔
    ¬ServerDone r.rawReceivedLength r.pReceivedMsg.msgLength ∧ 0 ≤ r.rawBytesReceived := by
  simp [serverReceivesAgain, ServerDone, ← UInt8.toNat_inj]
  omega

theorem clientReceivesAgain_iff : clientReceivesAgain r = true ↔
    ¬ClientDone r.rawReceivedLength r.pReceivedMsg.msgLength ∧ 0 ≤ r.rawBytesReceived := by
  simp [clientReceivesAgain, ClientDone, ← UInt8.toNat_inj]
  omega

-- Fewer bytes have been sent than the first one calls for.
def Incomplete : List Chunk → Prop
  | []      => True
  | c :: cs => total (c :: cs) < c.first.toNat + sizeOfMsgLength

instance : (cs : List Chunk) → Decidable (Incomplete cs)
  | []      => inferInstanceAs (Decidable True)
  | c :: cs => inferInstanceAs (Decidable (total (c :: cs) < c.first.toNat + sizeOfMsgLength))

-- When the peer sends the chunks and closes the connection, `handleSendReceive` returns, and it reports
-- an incomplete message if there is one.
def ServerEnds (cs : List Chunk) : Prop :=
  ∀ calls : ServerCalls, calls.mallocReceivedMsg.isSome → calls.mallocSendMsg.isSome →
    ∃ turns served, handleSendReceive calls turns ⟨cs, .closed⟩ = some served ∧
      (Incomplete cs → served = .returned none none .errMessageFromClientIncompleteOrTooLong)

-- When the server closes the connection behind its response, `runMessagingClient` returns, and it
-- reports an incomplete message if there is one.
def ClientEnds (cs : List Chunk) : Prop :=
  ∀ (calls : ClientCalls) (serverPort : UInt16) (ip : Option String) (pSendMsg buffer : Msg),
    (∀ port ip, calls.connect port ip) → (∀ bs, calls.send bs) →
      ∃ turns returnCode msg, runMessagingClient calls turns ⟨cs, .closed⟩ serverPort ip
          (some pSendMsg) (some buffer) = some (returnCode, msg) ∧
        (Incomplete cs → returnCode = .errMessageFromServerIncompleteOrTooLong)

-- The number of bytes is not the one that a complete message would have, if the message is not complete.
def ReportsIncomplete (cs : List Chunk) (raw : Nat) (length : UInt8) : Prop :=
  Incomplete cs → raw ≠ length.toNat + sizeOfMsgLength

theorem handleMsg_handled {calls : ServerCalls} {msg : Msg} (h : calls.mallocSendMsg.isSome) :
    (handleMsg calls msg).handled = some msg := by
  obtain ⟨pSendMsg, hs⟩ := Option.isSome_iff_exists.mp h
  simp only [handleMsg, hs]
  split_ifs <;> rfl

theorem serverEnds_iff (hf : Feasible (maxMsgLength + sizeOfMsgLength) cs) :
    ServerEnds cs ↔ Stops ServerDone (ReportsIncomplete cs) cs := by
  constructor
  case mp =>
    intro h
    have ⟨turns, served, hs, hi⟩ := h (.silent .zero) rfl rfl
    obtain ⟨r', hr, hserved⟩ := Option.map_eq_some_iff.mp hs
    refine (exists_ends_init_iff .zero (fun _ => serverReceivesAgain_iff) (by decide) hf).mp
      ⟨r', ⟨turns, hr⟩, fun hc he => ?_⟩
    have hm : (handleMsg (.silent .zero) r'.pReceivedMsg).handled = some r'.pReceivedMsg :=
      handleMsg_handled rfl
    rw [if_pos he] at hserved
    rw [hserved, hi hc] at hm
    cases hm
  case mpr =>
    intro h calls hb hsend
    obtain ⟨buffer, hb⟩ := Option.isSome_iff_exists.mp hb
    have ⟨r', ⟨turns, hr⟩, hok⟩ :=
      (exists_ends_init_iff buffer (fun _ => serverReceivesAgain_iff) (by decide) hf).mpr h
    simp only [handleSendReceive, hb]
    refine ⟨turns, _, congrArg (Option.map _) hr, fun hc => if_neg (hok hc)⟩

theorem clientReceivesAgain_init {buffer : Msg} {socket : Socket} :
    clientReceivesAgain (.init buffer socket) := by
  rw [clientReceivesAgain_iff, Receiver.init_msgLength]
  exact ⟨(by decide : ¬ClientDone 0 255), Int.le_refl 0⟩

-- With a connection, `runMessagingClient` comes down to its loop.
theorem runMessagingClient_eq_some_iff {calls : ClientCalls} {socket : Socket} {serverPort : UInt16}
    {ip : Option String} {pSendMsg buffer : Msg} {result : ClientReturnCode × Option Msg}
    (hc : ∀ port ip, calls.connect port ip) (hs : ∀ bs, calls.send bs) :
    (∃ turns, runMessagingClient calls turns socket serverPort ip (some pSendMsg) (some buffer) =
        some result) ↔
      ∃ r', Ends Receiver.receive clientReceivesAgain (.init buffer socket) r' ∧
        result = (receivedReturnCode r', some r'.pReceivedMsg) := by
  simp only [runMessagingClient, hc, hs, ↓reduceIte, Option.map_eq_some_iff]
  constructor
  case mp =>
    rintro ⟨_ | turns, r', hr, rfl⟩
    case zero => cases hr
    case succ =>
      rw [whileDo_of_again clientReceivesAgain_init] at hr
      exact ⟨r', ⟨turns, hr⟩, rfl⟩
  case mpr =>
    rintro ⟨r', ⟨turns, hr⟩, rfl⟩
    refine ⟨turns + 1, r', ?_, rfl⟩
    rw [whileDo_of_again clientReceivesAgain_init, hr]

theorem clientEnds_iff (hf : Feasible (maxMsgLength + sizeOfMsgLength) cs) :
    ClientEnds cs ↔ Stops ClientDone (ReportsIncomplete cs) cs := by
  constructor
  case mp =>
    intro h
    have ⟨turns, returnCode, msg, hs, hi⟩ :=
      h .connected 0 none .zero .zero (fun _ _ => rfl) fun _ => rfl
    have ⟨r', he, hr⟩ :=
      (runMessagingClient_eq_some_iff (fun _ _ => rfl) fun _ => rfl).mp ⟨turns, hs⟩
    refine (exists_ends_init_iff .zero (fun _ => clientReceivesAgain_iff) (by decide) hf).mp
      ⟨r', he, fun hc hraw => ?_⟩
    have hb := Int.not_lt.mpr (ends_init_nonneg he)
    have hcode : returnCode = .success := by
      rw [(Prod.mk.inj hr).left, receivedReturnCode, if_neg (not_not.mpr hraw), if_neg hb]
    rw [hi hc] at hcode
    cases hcode
  case mpr =>
    intro h calls serverPort ip pSendMsg buffer hc hs
    have ⟨r', he, hok⟩ :=
      (exists_ends_init_iff buffer (fun _ => clientReceivesAgain_iff) (by decide) hf).mpr h
    have ⟨turns, hr⟩ : ∃ turns, runMessagingClient calls turns ⟨cs, .closed⟩ serverPort ip
        (some pSendMsg) (some buffer) = some (receivedReturnCode r', some r'.pReceivedMsg) :=
      (runMessagingClient_eq_some_iff hc hs).mpr ⟨r', he, rfl⟩
    exact ⟨turns, _, _, hr, fun hinc => if_pos (hok hinc)⟩

-- When the peer sends some chunks and closes the connection, the receive loops end and report what is
-- incomplete if and only if they stop at one of the chunks, and not because the number of bytes happens
-- to fit the first byte of that chunk.
theorem receive_loops_end_iff (cs : List Chunk)
    (hf : Feasible (maxMsgLength + sizeOfMsgLength) cs) :
    (ServerEnds cs ↔ Stops ServerDone (ReportsIncomplete cs) cs) ∧
      (ClientEnds cs ↔ Stops ClientDone (ReportsIncomplete cs) cs) :=
  ⟨serverEnds_iff hf, clientEnds_iff hf⟩

-- Four of six bytes arrive before the connection is closed, in two parts: the loop stops at the second
-- part, whose first byte is zero.
def interrupted : List Chunk :=
  [⟨5, [1]⟩, ⟨0, [2]⟩]

theorem receive_loops_end_iff_interrupted :
    Incomplete interrupted ∧
      (ServerEnds interrupted ↔ Stops ServerDone (ReportsIncomplete interrupted) interrupted) ∧
      (ClientEnds interrupted ↔ Stops ClientDone (ReportsIncomplete interrupted) interrupted) :=
  ⟨by decide, receive_loops_end_iff interrupted (by decide)⟩

-- Two of six bytes arrive before the connection is closed.
theorem receive_loops_do_not_end :
    ¬∀ cs, Feasible (maxMsgLength + sizeOfMsgLength) cs → ServerEnds cs ∧ ClientEnds cs := by
  intro h
  have hf : Feasible (maxMsgLength + sizeOfMsgLength) [⟨5, [1]⟩] := by decide
  exact not_stops_singleton (by decide) <| (serverEnds_iff hf).mp (h _ hf).left

end RoboOne.Messaging
