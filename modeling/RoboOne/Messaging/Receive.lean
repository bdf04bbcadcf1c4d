import Mathlib.Algebra.GroupWithZero.Nat
import RoboOne.Library.Loop
import RoboOne.Messaging.Socket

namespace RoboOne.Messaging

open Loop

variable {m : Msg} {b : UInt8} {bs : List UInt8} {c : Chunk} {cs : List Chunk} {e : StreamEnd}
  {r r' : Receiver} {i size : Nat}

theorem Msg.msgLength_write_cons : (m.write (b :: bs)).msgLength = b :=
  rfl

theorem Msg.msgLength_setLength : (m.setLength b).msgLength = b :=
  msgLength_write_cons

-- Bytes behind the new ones keep their values.
theorem Msg.getElem?_write (hb : bs.length ≤ i) (hi : i < sizeOfMsg) :
    (m.write bs).bytes[i]? = m.bytes[i]? := by
  rw [write, List.getElem?_take_of_lt hi, List.getElem?_append_right hb, List.getElem?_drop,
    Nat.add_sub_cancel' hb]

theorem Msg.take_write (hb : bs.length ≤ sizeOfMsg) : (m.write bs).bytes.take bs.length = bs := by
  rw [write, List.take_take, Nat.min_eq_left hb, List.take_left]

theorem wire_ne_nil (m : Msg) : m.wire ≠ [] := by
  intro h
  have := m.length_wire
  simp [h] at this

theorem head?_wire (m : Msg) : m.wire.head? = some m.msgLength := by
  have h := m.size
  cases hb : m.bytes
  case nil  => exact absurd (hb ▸ h) (by decide)
  case cons => simp [Msg.wire, Msg.msgLength, hb, sizeOfMsgLength]

-- What one turn of the loop reads.
theorem receive_nil (h : r.socket.chunks = []) :
    r.receive = { r with rawBytesReceived := r.socket.ending.returns } := by
  cases he : r.socket.ending <;> simp [Receiver.receive, recv, h, he, StreamEnd.returns]

theorem receive_cons (h : r.socket.chunks = c :: cs)
    (hc : c.bytes.length ≤ r.pReceivedMsg.msgLength.toNat + sizeOfMsgLength) : r.receive = {
      pReceivedMsg      := r.pReceivedMsg.write c.bytes
      rawReceivedLength := r.rawReceivedLength + c.bytes.length
      rawBytesReceived  := c.bytes.length
      socket            := { r.socket with chunks := cs } } := by
  have ht : c.bytes.take (r.pReceivedMsg.msgLength.toNat + sizeOfMsgLength) = c.bytes :=
    List.take_of_length_le hc
  have hd : c.bytes.drop (r.pReceivedMsg.msgLength.toNat + sizeOfMsgLength) = [] :=
    List.drop_of_length_le hc
  have hpos : (c.bytes.length : Int) > 0 := Int.natCast_pos.mpr (Nat.succ_pos _)
  simp only [Receiver.receive, recv, h, ht, hd, if_pos hpos]
  rfl

-- `recv` returns the chunks as they are if none of them is longer than what it is asked for, which is
-- `size` at first, and then what the first byte of the previous chunk tells.
def Feasible : Nat → List Chunk → Prop
  | _,    []      => True
  | size, c :: cs => c.bytes.length ≤ size ∧ Feasible (c.first.toNat + sizeOfMsgLength) cs

instance Feasible.decidable : (size : Nat) → (cs : List Chunk) → Decidable (Feasible size cs)
  | _,    []      => inferInstanceAs (Decidable True)
  | size, c :: cs =>
    have : Decidable (Feasible (c.first.toNat + sizeOfMsgLength) cs) := Feasible.decidable _ cs
    inferInstanceAs (Decidable (c.bytes.length ≤ size ∧ _))

-- The bytes of all chunks.
def total (cs : List Chunk) : Nat :=
  (cs.map (·.bytes.length)).sum

-- A loop that stops when `done` holds of the number of bytes and of the first byte of the buffer does so
-- behind the chunk `c`, and not earlier.
structure StopsAt (done : Nat → UInt8 → Prop) (cs before : List Chunk) (c : Chunk) : Prop where
  reads    : before ++ [c] <+: cs
  stops    : done (total (before ++ [c])) c.first
  not_done : ∀ before' c', before' ++ [c'] <+: before → ¬done (total (before' ++ [c'])) c'.first

section

variable {done : Nat → UInt8 → Prop} {ok : Nat → UInt8 → Prop} {again : Receiver → Bool} {raw : Nat}

-- The loop stops at a chunk for which `ok` holds.
def Stops (done ok : Nat → UInt8 → Prop) (cs : List Chunk) : Prop :=
  ∃ before c, StopsAt done cs before c ∧ ok (total (before ++ [c])) c.first

theorem not_stops_nil : ¬Stops done ok [] := by
  rintro ⟨before, c, h, _⟩
  have := h.reads.length_le
  simp at this

theorem not_stops_singleton (hd : ¬done c.bytes.length c.first) : ¬Stops done ok [c] := by
  rintro ⟨before, c', h, _⟩
  cases before
  case nil =>
    obtain rfl : c' = c := by simpa using h.reads
    exact hd (by simpa [total] using h.stops)
  case cons =>
    have := h.reads.length_le
    simp at this

theorem stops_cons_of_done (hd : done (raw + c.bytes.length) c.first) :
    Stops (fun n => done (raw + n)) (fun n => ok (raw + n)) (c :: cs) ↔
      ok (raw + c.bytes.length) c.first := by
  constructor
  case mp =>
    rintro ⟨before, c', h, hok⟩
    cases before
    case nil =>
      obtain rfl : c' = c := by simpa using h.reads
      simpa [total] using hok
    case cons c'' before =>
      obtain rfl : c'' = c := (List.cons_prefix_cons.mp h.reads).left
      exact absurd (by simpa [total] using hd) (h.not_done [] c'' (by simp))
  case mpr =>
    intro hok
    refine ⟨[], c, ⟨by simp, by simpa [total] using hd, fun _ _ h => ?_⟩, by simpa [total] using hok⟩
    have := h.length_le
    simp at this

theorem stops_cons_of_not_done (hd : ¬done (raw + c.bytes.length) c.first) :
    Stops (fun n => done (raw + n)) (fun n => ok (raw + n)) (c :: cs) ↔
      Stops (fun n => done (raw + c.bytes.length + n)) (fun n => ok (raw + c.bytes.length + n)) cs := by
  constructor
  case mp =>
    rintro ⟨before, c', h, hok⟩
    cases before
    case nil =>
      obtain rfl : c' = c := by simpa using h.reads
      exact absurd (by simpa [total] using h.stops) hd
    case cons c'' before =>
      obtain ⟨rfl, hr⟩ := List.cons_prefix_cons.mp h.reads
      refine ⟨before, c', ⟨hr, ?_, fun before' d hp => ?_⟩, ?_⟩
      case refine_1 => simpa [total, Nat.add_assoc] using h.stops
      case refine_2 =>
        have := h.not_done (c'' :: before') d (List.cons_prefix_cons.mpr ⟨rfl, hp⟩)
        simpa [total, Nat.add_assoc] using this
      case refine_3 => simpa [total, Nat.add_assoc] using hok
  case mpr =>
    rintro ⟨before, c', h, hok⟩
    refine ⟨c :: before, c', ⟨List.cons_prefix_cons.mpr ⟨rfl, h.reads⟩, ?_, fun before' d hp => ?_⟩,
      ?_⟩
    case refine_1 => simpa [total, Nat.add_assoc] using h.stops
    case refine_2 =>
      cases before'
      case nil =>
        obtain rfl : d = c := by simpa using hp
        simpa [total] using hd
      case cons c'' before' =>
        obtain ⟨rfl, hp'⟩ := List.cons_prefix_cons.mp hp
        have := h.not_done before' d hp'
        simpa [total, Nat.add_assoc] using this
    case refine_3 => simpa [total, Nat.add_assoc] using hok

-- A loop that has not got all it waits for when the peer closes the connection does not end. If it ends,
-- it does so behind the chunk at which it stops.
theorem exists_ends_iff (ha : ∀ r, again r = true ↔
      ¬done r.rawReceivedLength r.pReceivedMsg.msgLength ∧ 0 ≤ r.rawBytesReceived)
    (hd : ¬done r.rawReceivedLength r.pReceivedMsg.msgLength) (he : r.socket.ending = .closed)
    (hf : Feasible (r.pReceivedMsg.msgLength.toNat + sizeOfMsgLength) r.socket.chunks) :
    (∃ r', Ends Receiver.receive again r r' ∧ 0 ≤ r'.rawBytesReceived ∧
        ok r'.rawReceivedLength r'.pReceivedMsg.msgLength) ↔
      Stops (fun n => done (r.rawReceivedLength + n)) (fun n => ok (r.rawReceivedLength + n))
        r.socket.chunks := by
  generalize hcs : r.socket.chunks = cs at hf
  induction cs generalizing r
  case nil =>
    have hr := receive_nil hcs
    have hag : again r.receive := by
      rw [ha, hr, he]
      exact ⟨hd, Int.le_refl _⟩
    have hfix : r.receive.receive = r.receive := by
      rw [hr]
      exact receive_nil hcs
    simp only [ends_iff (s := r), if_pos hag, not_ends_of_fixed hfix hag, false_and, exists_false,
      not_stops_nil]
  case cons c cs hi =>
    have hr := receive_cons hcs hf.left
    have hb : 0 ≤ r.receive.rawBytesReceived := by
      rw [hr]
      exact Int.natCast_nonneg _
    have hag : again r.receive ↔ ¬done (r.rawReceivedLength + c.bytes.length) c.first := by
      rw [ha, and_iff_left hb, hr, Chunk.bytes, Msg.msgLength_write_cons]
    by_cases hdone : done (r.rawReceivedLength + c.bytes.length) c.first
    case pos =>
      have hn : ¬again r.receive := fun h => hag.mp h hdone
      rw [stops_cons_of_done hdone]
      simp only [ends_iff (s := r), if_neg hn, exists_eq_left, hb, true_and]
      rw [hr, Chunk.bytes, Msg.msgLength_write_cons]
    case neg =>
      rw [stops_cons_of_not_done hdone]
      simp only [ends_iff (s := r), if_pos (hag.mpr hdone)]
      rw [hr]
      exact hi hdone he rfl hf.right

end

-- As long as the connection is there, `recv` does not fail.
theorem receive_closed (h : r.socket.ending = .closed) :
    r.receive.socket.ending = .closed ∧ 0 ≤ r.receive.rawBytesReceived := by
  cases hc : r.socket.chunks
  case nil =>
    rw [receive_nil hc]
    exact ⟨h, h ▸ Int.le_refl 0⟩
  case cons =>
    simp only [Receiver.receive, recv, hc]
    exact ⟨h, Int.natCast_nonneg _⟩

theorem Receiver.init_msgLength {buffer : Msg} {socket : Socket} :
    (init buffer socket).pReceivedMsg.msgLength = 255 :=
  Msg.msgLength_setLength

section

variable {done ok : Nat → UInt8 → Prop} {again : Receiver → Bool} {buffer : Msg}

theorem ends_init_nonneg
    (h : Ends Receiver.receive again (.init buffer ⟨cs, .closed⟩) r') : 0 ≤ r'.rawBytesReceived := by
  have hi := h.invariant (I := fun r => r.socket.ending = .closed ∧ 0 ≤ r.rawBytesReceived)
    (fun _ h => receive_closed h.left) ⟨rfl, Int.le_refl 0⟩
  exact hi.right

-- When the peer sends some chunks and closes the connection, a loop ends if and only if it stops.
theorem exists_ends_init_iff (buffer : Msg) (ha : ∀ r, again r = true ↔
      ¬done r.rawReceivedLength r.pReceivedMsg.msgLength ∧ 0 ≤ r.rawBytesReceived)
    (hd : ¬done 0 255) (hf : Feasible (maxMsgLength + sizeOfMsgLength) cs) :
    (∃ r', Ends Receiver.receive again (.init buffer ⟨cs, .closed⟩) r' ∧
      ok r'.rawReceivedLength r'.pReceivedMsg.msgLength) ↔ Stops done ok cs := by
  have h : (∃ r', Ends Receiver.receive again (.init buffer ⟨cs, .closed⟩) r' ∧
      0 ≤ r'.rawBytesReceived ∧ ok r'.rawReceivedLength r'.pReceivedMsg.msgLength) ↔
      Stops (fun n => done (0 + n)) (fun n => ok (0 + n)) cs :=
    exists_ends_iff ha hd rfl hf
  simp only [Nat.zero_add] at h
  rw [← h]
  constructor
  case mp  => exact fun ⟨r', he, hok⟩ => ⟨r', he, ends_init_nonneg he, hok⟩
  case mpr => exact fun ⟨r', he, _, hok⟩ => ⟨r', he, hok⟩

end

end RoboOne.Messaging
