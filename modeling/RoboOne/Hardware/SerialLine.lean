import RoboOne.Hardware.Orangutan

namespace RoboOne.Hardware.SerialLine

open Orangutan

-- What `read` puts into the buffer when it returns more than zero.
structure Chunk where
  bytes     : List UInt8
  nonempty  : bytes ≠ []
  length_le : bytes.length ≤ orangutanBufferSize

-- What has been written at each offset of `pReceiveString`, and `*pReceiveStringLength`.
structure Received where
  memory : Nat → Option UInt8
  length : UInt32

def memcpy (memory : Nat → Option UInt8) (offset : Nat) (bs : List UInt8) : Nat → Option UInt8 :=
  fun i => if offset ≤ i ∧ i < offset + bs.length then bs[i - offset]? else memory i

-- The clamp that is to stop overruns. The sum is one of unsigned numbers.
def stopOverruns (maxBytesToReceive length bytesReceived : UInt32) : UInt32 :=
  if length + bytesReceived > maxBytesToReceive - 1 then maxBytesToReceive - length - 1
  else bytesReceived

-- A turn of the loop in which something has been read, and if the terminator was there.
def receiveChunk (maxBytesToReceive : UInt32) (s : Received) (buffer : List UInt8) :
    Received × Bool :=
  let (chopped, done) := chop buffer
  let bytesReceived := stopOverruns maxBytesToReceive s.length (.ofNat chopped.length)
  let memory := memcpy s.memory s.length.toNat (chopped.take bytesReceived.toNat)
  (⟨memory, s.length + bytesReceived⟩, done)

-- The loop. Behind the last chunk, `read` returns zero or less.
def receiveLoop (maxBytesToReceive : UInt32) : Received → List Chunk → Received
  | s, []              => s
  | s, buffer :: reads =>
    let (s, done) := receiveChunk maxBytesToReceive s buffer.bytes
    if done then s else receiveLoop maxBytesToReceive s reads

-- Behind the loop, a null terminator is added.
def readStringFromOrangutan (gFd : Int32) (pReceiveStringLength : UInt32) (reads : List Chunk) :
    Received :=
  if gFd ≥ 0 ∧ pReceiveStringLength > 0 then
    let s := receiveLoop pReceiveStringLength ⟨fun _ => none, 0⟩ reads
    ⟨memcpy s.memory s.length.toNat [0], s.length + 1⟩
  else
    ⟨fun _ => none, pReceiveStringLength⟩

-- The bytes of the stream up to its first terminator.
def line (stream : List UInt8) : List UInt8 :=
  (chop stream).1

def stream (reads : List Chunk) : List UInt8 :=
  reads.flatMap Chunk.bytes

-- What is to be stored of a stream.
def stored (max : Nat) (stream : List UInt8) : List UInt8 :=
  (line stream).take (max - 1)

-- The start of the line is stored with a terminator behind it, and nothing else is written.
structure Reassembled (max : Nat) (stream : List UInt8) (s : Received) : Prop where
  memory : s.memory = fun i => (stored max stream ++ [0])[i]?
  length : s.length.toNat = (stored max stream).length + 1
  fits   : s.length.toNat ≤ max

-- The sum in the clamp does not wrap when `n` bytes have been read before.
def SumFits (max : Nat) : Nat → List Chunk → Prop
  | _, []              => True
  | n, buffer :: reads => min n (max - 1) + (line buffer.bytes).length < 2 ^ 32 ∧
    (orangutanResponseTerminator ∉ buffer.bytes → SumFits max (n + buffer.bytes.length) reads)

variable {max length received : UInt32} {bs cs : List UInt8} {reads : List Chunk} {s : Received}
  {memory : Nat → Option UInt8}

theorem chop_of_notMem (h : orangutanResponseTerminator ∉ bs) : chop bs = (bs, false) := by
  induction bs
  case nil => rfl
  case cons b bs hi =>
    rw [List.mem_cons, not_or] at h
    rw [chop, if_neg (Ne.symm h.left), hi h.right]

theorem chop_done : (chop bs).2 = decide (orangutanResponseTerminator ∈ bs) := by
  induction bs
  case nil => rfl
  case cons b bs hi =>
    rw [chop]
    split
    case isTrue h  => simp [h]
    case isFalse h => simp [hi, Ne.symm h]

theorem chop_eq : chop bs = (line bs, decide (orangutanResponseTerminator ∈ bs)) := by
  rw [← chop_done, line]

-- The line goes on in what follows if its end has not been found.
theorem line_append_of_notMem (h : orangutanResponseTerminator ∉ bs) :
    line (bs ++ cs) = bs ++ line cs := by
  induction bs
  case nil => rfl
  case cons b bs hi =>
    rw [List.mem_cons, not_or] at h
    rw [List.cons_append, line, chop, if_neg (Ne.symm h.left)]
    exact congrArg (b :: ·) (hi h.right)

theorem line_append_of_mem (h : orangutanResponseTerminator ∈ bs) : line (bs ++ cs) = line bs := by
  induction bs
  case nil => cases h
  case cons b bs hi =>
    rw [List.cons_append, line, line, chop, chop]
    split
    case isTrue => rfl
    case isFalse hb =>
      rw [List.mem_cons, or_iff_right (Ne.symm hb)] at h
      exact congrArg (b :: ·) (hi h)

theorem line_of_notMem (h : orangutanResponseTerminator ∉ bs) : line bs = bs := by
  rw [line, chop_of_notMem h]

theorem length_line_le : (line bs).length ≤ bs.length := by
  induction bs
  case nil => exact Nat.le_refl _
  case cons b bs hi =>
    rw [line, chop]
    split
    case isTrue  => simp
    case isFalse => exact Nat.succ_le_succ hi

theorem memcpy_apply {offset i : Nat} : memcpy memory offset bs i =
    if offset ≤ i ∧ i < offset + bs.length then bs[i - offset]? else memory i :=
  rfl

theorem memcpy_append : memcpy (fun i => bs[i]?) bs.length cs = fun i => (bs ++ cs)[i]? := by
  funext i
  rw [memcpy_apply, List.getElem?_append]
  grind

theorem stopOverruns_toNat : (stopOverruns max length received).toNat =
    if (length.toNat + received.toNat) % 2 ^ 32 > (2 ^ 32 - 1 + max.toNat) % 2 ^ 32 then
      (2 ^ 32 - 1 + (2 ^ 32 - length.toNat + max.toNat) % 2 ^ 32) % 2 ^ 32
    else received.toNat := by
  simp only [stopOverruns, GT.gt, UInt32.lt_iff_toNat_lt, UInt32.toNat_add, UInt32.toNat_sub,
    UInt32.toNat_one, apply_ite UInt32.toNat]

-- Without a wrap, there is room for one more byte afterwards.
theorem stopOverruns_of_fits (hm : 0 < max.toNat) (hl : length.toNat ≤ max.toNat - 1)
    (hs : length.toNat + received.toNat < 2 ^ 32) :
    (stopOverruns max length received).toNat =
      min received.toNat (max.toNat - 1 - length.toNat) := by
  have hmax := max.toNat_lt
  rw [stopOverruns_toNat]
  split
  case isTrue  => omega
  case isFalse => omega

-- With a wrap, nothing is clamped.
theorem stopOverruns_of_wraps (hl : length.toNat ≤ max.toNat - 1) (hr : received.toNat ≤ 255)
    (hs : 2 ^ 32 ≤ length.toNat + received.toNat) :
    stopOverruns max length received = received := by
  have hmax := max.toNat_lt
  have hlength := length.toNat_lt
  rw [← UInt32.toNat_inj, stopOverruns_toNat, if_neg (by omega)]

-- The start of what has been read has been stored.
structure Stores (max : Nat) (bs : List UInt8) (s : Received) : Prop where
  memory : s.memory = fun i => (bs.take (max - 1))[i]?
  length : s.length.toNat = min bs.length (max - 1)

-- Something has been written behind the end.
def Overrun (max : Nat) (s : Received) : Prop :=
  ∃ i, max ≤ i ∧ s.memory i ≠ none

theorem toNat_ofNat_length (h : bs.length ≤ orangutanBufferSize) :
    (UInt32.ofNat bs.length).toNat = bs.length := by
  rw [orangutanBufferSize] at h
  rw [UInt32.toNat_ofNat']
  omega

-- How much of the line in a buffer is stored.
def receivedOf (max : UInt32) (s : Received) (buffer : List UInt8) : UInt32 :=
  stopOverruns max s.length (.ofNat (line buffer).length)

theorem receiveChunk_eq : receiveChunk max s cs =
    (⟨memcpy s.memory s.length.toNat ((line cs).take (receivedOf max s cs).toNat),
      s.length + receivedOf max s cs⟩, decide (orangutanResponseTerminator ∈ cs)) := by
  rw [receiveChunk, chop_eq, receivedOf]

theorem receiveLoop_cons {buffer : Chunk} : receiveLoop max s (buffer :: reads) =
    if orangutanResponseTerminator ∈ buffer.bytes then (receiveChunk max s buffer.bytes).1
    else receiveLoop max (receiveChunk max s buffer.bytes).1 reads := by
  rw [receiveLoop]
  simp only [receiveChunk_eq, decide_eq_true_eq]

-- What is taken of the line fills the room that is left.
theorem take_append_take {M : Nat} : bs.take M ++ cs.take (min cs.length (M - min bs.length M)) =
    (bs ++ cs).take M := by
  rw [List.take_append]
  congr 1
  rw [List.take_eq_take_iff]
  omega

theorem Stores.receiveChunk (h : Stores max.toNat bs s) (hm : 0 < max.toNat)
    (hc : cs.length ≤ orangutanBufferSize)
    (hs : min bs.length (max.toNat - 1) + (line cs).length < 2 ^ 32) :
    Stores max.toNat (bs ++ line cs) (receiveChunk max s cs).1 := by
  have hnat : (UInt32.ofNat (line cs).length).toNat = (line cs).length :=
    toNat_ofNat_length <| length_line_le.trans hc
  have hn : (receivedOf max s cs).toNat =
      min (line cs).length (max.toNat - 1 - min bs.length (max.toNat - 1)) := by
    rw [receivedOf, stopOverruns_of_fits hm, hnat, h.length]
    case hl => rw [h.length]; exact Nat.min_le_right _ _
    case hs => rw [hnat, h.length]; exact hs
  have hlen : s.length.toNat = (bs.take (max.toNat - 1)).length := by
    rw [h.length, List.length_take, Nat.min_comm]
  rw [receiveChunk_eq]
  constructor
  case memory => rw [hn, h.memory, hlen, memcpy_append, take_append_take]
  case length =>
    have hmax := max.toNat_lt
    rw [UInt32.toNat_add, hn, h.length, List.length_append]
    omega

-- All bytes of the line are copied, although there is no room for the last ones.
theorem Stores.receiveChunk_overrun (h : Stores max.toNat bs s)
    (hc : cs.length ≤ orangutanBufferSize)
    (hs : 2 ^ 32 ≤ min bs.length (max.toNat - 1) + (line cs).length) :
    Overrun max.toNat (SerialLine.receiveChunk max s cs).1 := by
  have hlt := s.length.toNat_lt
  have hmax := max.toNat_lt
  have hle := length_line_le.trans hc
  have hnat := toNat_ofNat_length hle
  have hr : receivedOf max s cs = .ofNat (line cs).length := by
    refine stopOverruns_of_wraps ?_ (by rwa [hnat]) ?_
    case refine_1 => rw [h.length]; exact Nat.min_le_right _ _
    case refine_2 => rw [hnat, h.length]; exact hs
  rw [receiveChunk_eq, hr, hnat, List.take_length]
  rw [← h.length] at hs
  refine ⟨2 ^ 32 - 1, by omega, ?_⟩
  change memcpy _ _ _ _ ≠ none
  rw [memcpy_apply, if_pos (by omega), Ne, List.getElem?_eq_none_iff]
  omega

theorem Overrun.memcpy {n : Nat} (h : Overrun n s) {offset : Nat} {l : UInt32} :
    Overrun n ⟨memcpy s.memory offset bs, l⟩ := by
  have ⟨i, hi, hm⟩ := h
  refine ⟨i, hi, ?_⟩
  change SerialLine.memcpy _ _ _ _ ≠ none
  rw [memcpy_apply]
  split
  case isTrue h  => rw [Ne, List.getElem?_eq_none_iff]; omega
  case isFalse h => exact hm

theorem Overrun.receiveLoop {n : Nat} (h : Overrun n s) : Overrun n (receiveLoop max s reads) := by
  induction reads generalizing s
  case nil => exact h
  case cons buffer reads hi =>
    have h : Overrun n (receiveChunk max s buffer.bytes).1 := receiveChunk_eq ▸ h.memcpy
    rw [receiveLoop_cons]
    split
    case isTrue  => exact h
    case isFalse => exact hi h

theorem stream_cons {buffer : Chunk} : stream (buffer :: reads) = buffer.bytes ++ stream reads :=
  List.flatMap_cons

-- The loop goes through the stream as if it had come in at once.
theorem Stores.receiveLoop (h : Stores max.toNat bs s) (hm : 0 < max.toNat)
    (hb : orangutanResponseTerminator ∉ bs) (hs : SumFits max.toNat bs.length reads) :
    Stores max.toNat (line (bs ++ stream reads)) (receiveLoop max s reads) := by
  induction reads generalizing bs s
  case nil =>
    rw [stream, List.flatMap_nil, List.append_nil, line_of_notMem hb]
    exact h
  case cons buffer reads hi =>
    have ⟨hfits, hmore⟩ := hs
    have hnext := h.receiveChunk hm buffer.length_le hfits
    rw [stream_cons, receiveLoop_cons]
    split
    case isTrue hc =>
      rwa [line_append_of_notMem hb, line_append_of_mem hc]
    case isFalse hc =>
      rw [line_of_notMem hc] at hnext
      rw [← List.append_assoc]
      refine hi hnext ?_ ?_
      case refine_1 => simp [hb, hc]
      case refine_2 => rw [List.length_append]; exact hmore hc

theorem Stores.receiveLoop_overrun (h : Stores max.toNat bs s) (hm : 0 < max.toNat)
    (hs : ¬SumFits max.toNat bs.length reads) :
    Overrun max.toNat (SerialLine.receiveLoop max s reads) := by
  induction reads generalizing bs s
  case nil => exact absurd trivial hs
  case cons buffer reads hi =>
    by_cases hfits : min bs.length (max.toNat - 1) + (line buffer.bytes).length < 2 ^ 32
    case neg =>
      have hover := h.receiveChunk_overrun buffer.length_le (Nat.le_of_not_lt hfits)
      rw [receiveLoop_cons]
      split
      case isTrue  => exact hover
      case isFalse => exact hover.receiveLoop
    case pos =>
      have hnext := h.receiveChunk hm buffer.length_le hfits
      have hc : orangutanResponseTerminator ∉ buffer.bytes := fun hc =>
        hs ⟨hfits, fun hn => absurd hc hn⟩
      rw [receiveLoop_cons, if_neg hc]
      rw [line_of_notMem hc] at hnext
      refine hi hnext fun hmore => hs ⟨hfits, fun _ => ?_⟩
      rwa [← List.length_append]

theorem stores_nil {n : Nat} : Stores n [] ⟨fun _ => none, 0⟩ where
  memory := by simp
  length := by simp

theorem Stores.reassembled (h : Stores max.toNat (line bs) s) (hm : 0 < max.toNat) :
    Reassembled max.toNat bs ⟨memcpy s.memory s.length.toNat [0], s.length + 1⟩ := by
  have hlen : s.length.toNat = (stored max.toNat bs).length := by
    rw [h.length, stored, List.length_take, Nat.min_comm]
  have hle : (stored max.toNat bs).length ≤ max.toNat - 1 := List.length_take_le ..
  have hmax := max.toNat_lt
  have hsum : (s.length + 1).toNat = (stored max.toNat bs).length + 1 := by
    rw [UInt32.toNat_add, hlen, UInt32.toNat_one]
    omega
  constructor
  case memory => rw [h.memory, hlen]; exact memcpy_append
  case length => exact hsum
  case fits   => rw [hsum]; omega

theorem Overrun.not_reassembled {n : Nat} (h : Overrun n s) (hn : 0 < n) :
    ¬Reassembled n bs s := by
  intro hr
  have ⟨i, hi, hm⟩ := h
  have hle : (stored n bs).length ≤ n - 1 := List.length_take_le ..
  refine hm ?_
  rw [hr.memory, List.getElem?_eq_none_iff, List.length_append, List.length_singleton]
  omega

theorem readStringFromOrangutan_reassembled {gFd : Int32} (hf : gFd ≥ 0) (hm : max > 0)
    (hs : SumFits max.toNat 0 reads) :
    Reassembled max.toNat (stream reads) (readStringFromOrangutan gFd max reads) := by
  rw [readStringFromOrangutan, if_pos ⟨hf, hm⟩]
  exact (stores_nil.receiveLoop (UInt32.lt_iff_toNat_lt.mp hm) List.not_mem_nil hs).reassembled
    (UInt32.lt_iff_toNat_lt.mp hm)

theorem readStringFromOrangutan_overrun {gFd : Int32} (hf : gFd ≥ 0) (hm : max > 0)
    (hs : ¬SumFits max.toNat 0 reads) :
    Overrun max.toNat (readStringFromOrangutan gFd max reads) := by
  rw [readStringFromOrangutan, if_pos ⟨hf, hm⟩]
  exact (stores_nil.receiveLoop_overrun (UInt32.lt_iff_toNat_lt.mp hm) hs).memcpy

-- What a reassembly stores and counts is given by the stream.
theorem Reassembled.eq {n : Nat} {s' : Received} (h : Reassembled n bs s)
    (h' : Reassembled n bs s') : s = s' := by
  have hl : s.length = s'.length := UInt32.toNat_inj.mp <| h.length.trans h'.length.symm
  cases s
  cases s'
  cases h.memory.trans h'.memory.symm
  cases hl
  rfl

-- With less room than 2^32 bytes by a buffer, there is nothing to wrap.
theorem sumFits_of_le {n m : Nat} (hm : m + orangutanBufferSize ≤ 2 ^ 32) : SumFits m n reads := by
  induction reads generalizing n
  case nil => trivial
  case cons buffer reads hi =>
    have hle := length_line_le.trans buffer.length_le
    refine ⟨?_, fun _ => hi⟩
    rw [orangutanBufferSize] at hm hle
    omega

-- The line is reassembled, whatever the chunks, exactly if the sum in the clamp never wraps.
theorem line_reassembled_iff {gFd : Int32} (hf : gFd ≥ 0) (hm : max > 0) :
    (Reassembled max.toNat (stream reads) (readStringFromOrangutan gFd max reads) ↔
      SumFits max.toNat 0 reads) ∧
    ∀ reads', stream reads' = stream reads → SumFits max.toNat 0 reads →
      SumFits max.toNat 0 reads' →
      readStringFromOrangutan gFd max reads = readStringFromOrangutan gFd max reads' := by
  have hpos := UInt32.lt_iff_toNat_lt.mp hm
  refine ⟨⟨fun h => ?_, readStringFromOrangutan_reassembled hf hm⟩, fun reads' he hs hs' => ?_⟩
  case refine_1 =>
    by_contra hs
    exact (readStringFromOrangutan_overrun hf hm hs).not_reassembled hpos h
  case refine_2 =>
    have h' := readStringFromOrangutan_reassembled hf hm hs'
    rw [he] at h'
    exact (readStringFromOrangutan_reassembled hf hm hs).eq h'

-- The size that an object in memory can have, where a pointer and a `UInt32` have 32 bits.
def maxObjectSize : Nat := 2 ^ 31 - 1

-- There the sum never wraps: the line is reassembled, whatever the chunks.
theorem line_reassembled {gFd : Int32} (hf : gFd ≥ 0) (hm : max > 0)
    (ho : max.toNat ≤ maxObjectSize) :
    Reassembled max.toNat (stream reads) (readStringFromOrangutan gFd max reads) ∧
    ∀ reads', stream reads' = stream reads →
      readStringFromOrangutan gFd max reads = readStringFromOrangutan gFd max reads' := by
  have hfits (reads : List Chunk) : SumFits max.toNat 0 reads :=
    sumFits_of_le (Nat.le_trans (Nat.add_le_add_right ho _) (by decide))
  have ⟨hr, he⟩ := @line_reassembled_iff max reads gFd hf hm
  exact ⟨hr.mpr (hfits reads), fun reads' hs => he reads' hs (hfits reads) (hfits reads')⟩

def chunkOf (n : Nat) (h : n ≠ 0 ∧ n ≤ orangutanBufferSize) (b : UInt8) : Chunk where
  bytes     := List.replicate n b
  nonempty  := by simp [h.left]
  length_le := by simp [h.right]

theorem line_reassembled_in_two_chunks :
    Reassembled (5 : UInt32).toNat (stream [chunkOf 3 (by decide) 65, chunkOf 1 (by decide) 13])
        (readStringFromOrangutan 3 5 [chunkOf 3 (by decide) 65, chunkOf 1 (by decide) 13]) ∧
    ∀ reads', stream reads' = stream [chunkOf 3 (by decide) 65, chunkOf 1 (by decide) 13] →
      readStringFromOrangutan 3 5 [chunkOf 3 (by decide) 65, chunkOf 1 (by decide) 13] =
        readStringFromOrangutan 3 5 reads' :=
  line_reassembled (by decide) (by decide) (by decide)

theorem readLoop_eq_take {m : Nat} (hb : orangutanResponseTerminator ∉ bs) :
    readLoop m (bs.take (m - 1)) (reads.map Chunk.bytes) = stored m (bs ++ stream reads) := by
  induction reads generalizing bs
  case nil =>
    rw [stream, List.flatMap_nil, List.append_nil, stored, line_of_notMem hb]
    rfl
  case cons buffer reads hi =>
    have htake : buffer.bytes.take orangutanBufferSize = buffer.bytes :=
      List.take_of_length_le buffer.length_le
    have hstep : bs.take (m - 1) ++ (line buffer.bytes).take
        (if (bs.take (m - 1)).length + (line buffer.bytes).length > m - 1 then
          m - (bs.take (m - 1)).length - 1 else (line buffer.bytes).length) =
        (bs ++ line buffer.bytes).take (m - 1) := by
      rw [← take_append_take, List.length_take]
      congr 2
      split <;> omega
    rw [List.map_cons, readLoop, if_neg buffer.nonempty, htake, stream_cons]
    simp only [chop_eq, decide_eq_true_eq]
    rw [hstep]
    split
    case isTrue hc =>
      rw [stored, line_append_of_notMem hb, line_append_of_mem hc]
    case isFalse hc =>
      rw [line_of_notMem hc, ← List.append_assoc]
      refine hi ?_
      simp [hb, hc]

-- Where nothing wraps, the memory holds what the function on lists puts there.
theorem readStringFromOrangutan_refines {o : Orangutan} (hf : o.gFd ≥ 0) (hm : max > 0)
    (hr : o.reads = reads.map Chunk.bytes) (hs : SumFits max.toNat 0 reads) :
    ∃ string, o.readStringFromOrangutan max.toNat = some string ∧
      (readStringFromOrangutan o.gFd max reads).memory = fun i => string[i]? := by
  have hpos := UInt32.lt_iff_toNat_lt.mp hm
  refine ⟨stored max.toNat (stream reads) ++ [0], ?_, ?_⟩
  case refine_1 =>
    have hloop : readLoop max.toNat (List.take _ []) (reads.map Chunk.bytes) = _ :=
      readLoop_eq_take List.not_mem_nil
    rw [List.take_nil, List.nil_append] at hloop
    rw [Orangutan.readStringFromOrangutan, if_pos ⟨hf, hpos⟩, hr, hloop]
  case refine_2 => exact (readStringFromOrangutan_reassembled hf hm hs).memory

-- The answer OK.
def okChunk : Chunk where
  bytes     := [79, 75, 13]
  nonempty  := by decide
  length_le := by decide

theorem readStringFromOrangutan_refines_ok :
    ∃ string, (⟨3, fun _ => 0, [okChunk.bytes]⟩ : Orangutan).readStringFromOrangutan 5 =
        some string ∧
      (readStringFromOrangutan 3 5 [okChunk]).memory = fun i => string[i]? :=
  @readStringFromOrangutan_refines 5 [okChunk] ⟨3, fun _ => 0, [okChunk.bytes]⟩ (by decide)
    (by decide) rfl ⟨by decide, fun _ => trivial⟩

end RoboOne.Hardware.SerialLine
