import RoboOne.OneWire.Ds2408

namespace RoboOne.OneWire

open Interaction BitBuffer Crc

-- What comes back of what a device sends: the bytes themselves, or some with errors that a register of
-- so many places shows.
def Disturbed (places : Nat) (sent bs : List UInt8) : Prop :=
  bs = sent ∨ ∃ e, e.length = 8 * sent.length ∧ Detectable places e ∧
    bits bs = differences (bits sent) e

variable {bs sent : List UInt8} {m : Unit} {page : UInt16} {size : Nat} {d d' : Ds2408} {data : UInt8}

theorem Disturbed.length_eq {places : Nat} (h : Disturbed places sent bs) :
    bs.length = sent.length := by
  rcases h with rfl | ⟨e, he, _, hbits⟩
  case inl => rfl
  case inr =>
    have hlength := congrArg List.length hbits
    rw [length_bits, differences, List.length_zipWith, length_bits, he, Nat.min_self] at hlength
    omega

-- The check of the CRC lets nothing through but what was sent.
theorem eq_of_crcMatches (h : Disturbed 16 (Ds2408.withCRC sent) bs) (hm : Bus.crcMatches bs) :
    bs = Ds2408.withCRC sent := by
  have hlength := h.length_eq
  rcases h with rfl | ⟨e, he, hd, hbits⟩
  case inl => rfl
  case inr =>
    rw [Ds2408.length_withCRC] at hlength
    have hread := feed_of_crcMatches hm (by omega)
    have hsent := feed_of_crcMatches (@crcMatches_withCRC sent)
      (by rw [Ds2408.length_withCRC]; omega)
    rw [hbits, ← hsent] at hread
    refine absurd hread <| feed_differences_ne rfl rfl ?_ hd
    rw [length_bits, he]

namespace Ds2408

-- A device on a line with such errors. Nothing is known of what it takes from a write.
def MayRespond (d : Ds2408) : (c : BusCall) → c.Answer → Ds2408 → Prop
  | .owBlock tranBuf, buffer, d' =>
    tranBuf.head? = some ds2408CommandReadPIORegisters →
      d' = d ∧ ∀ bs, Option.map Vector.toList buffer = some bs → Disturbed 16 (d.sends tranBuf) bs
  | _,                _,      d' => d' = d

end Ds2408

theorem evolves_owAccess {accessed : Bool} {calls : History BusCall.Answer}
    (h : Evolves Ds2408.MayRespond d (⟨.owAccess, accessed⟩ :: calls) d') :
    Evolves Ds2408.MayRespond d calls d' := by
  have ⟨d₁, h₁, hd⟩ := Evolves.cons_iff.mp h
  obtain rfl : d₁ = d := h₁
  exact hd

-- A read fails, or it is of what the device has.
theorem readMemoryDS2408_traces (hf : ds2408FirstPage ≤ page) (hl : page ≤ ds2408LastUsefulPage)
    (hs : size ≤ ds2408NumUsefulPages) (hm : page.toNat + size ≤ 0x90) :
    Traces m (Bus.readMemoryDS2408 page size) fun calls read _ =>
      ∀ d d', Evolves Ds2408.MayRespond d calls d' →
        d' = d ∧ ∀ mem, read = some mem → mem = (d.memory page).take size := by
  have hlast : page ≤ ds2408LastPage := UInt16.le_trans hl (by decide)
  refine .bind <| .assert (decide_eq_true hf) <| .bind <| .assert (decide_eq_true hl) <|
    .bind <| .assert (decide_eq_true hs) <| .bind <| .call fun accessed =>
      .ite (fun _ => .bind <| .call fun buffer => ?_) fun _ => .pure fun d d' hd => ?_
  case refine_2 => exact ⟨Evolves.nil_iff.mp <| evolves_owAccess hd, nofun⟩
  case refine_1 =>
    have hresponse {d d' : Ds2408} {calls : History BusCall.Answer}
        (hd : Evolves Ds2408.MayRespond d
          (⟨.owAccess, accessed⟩ :: ⟨.owBlock (Bus.readBlock page), buffer⟩ :: calls) d')
        (hc : calls = []) : d' = d ∧ ∀ bs, Option.map Vector.toList buffer = some bs →
          Disturbed 16 (d.sends (Bus.readBlock page)) bs := by
      subst hc
      have ⟨d₁, h₁, hd⟩ := Evolves.cons_iff.mp <| evolves_owAccess hd
      obtain rfl := Evolves.nil_iff.mp hd
      exact h₁ rfl
    cases hb : Option.map Vector.toList buffer
    case none => exact .pure fun d d' hd => ⟨(hresponse hd rfl).left, nofun⟩
    case some bs =>
      refine .ite (fun hcrc => .pure fun d d' hd => ?_) fun _ => .pure fun d d' hd =>
        ⟨(hresponse hd rfl).left, nofun⟩
      have ⟨he, hdisturbed⟩ := hresponse hd rfl
      refine ⟨he, ?_⟩
      rintro _ ⟨⟩
      have hsent := hdisturbed bs hb
      rw [Ds2408.sends_readBlock hf hlast] at hsent
      rw [eq_of_crcMatches hsent hcrc]
      refine List.take_append_of_le_length ?_
      rw [Ds2408.length_memory hf]
      omega

theorem readRegisterDS2408_traces (hf : ds2408FirstPage ≤ page) (hl : page ≤ ds2408LastUsefulPage) :
    Traces m (Bus.readRegisterDS2408 page) fun calls read _ =>
      ∀ d d', Evolves Ds2408.MayRespond d calls d' →
        d' = d ∧ ∀ b, read = some b → b = d.register page := by
  have hlast := UInt16.le_iff_toNat_le.mp hl
  have h8D : ds2408LastUsefulPage.toNat = 0x8D := rfl
  refine .bind <| (readMemoryDS2408_traces hf hl (by decide) (by omega)).mono
    fun calls read _ hread => .pure fun d d' hd => ?_
  rw [List.append_nil] at hd
  have ⟨he, hmem⟩ := hread d d' hd
  refine ⟨he, fun b hb => ?_⟩
  have ⟨mem, hr, hget⟩ := Option.map_eq_some_iff.mp hb
  rw [← hget, hmem mem hr]
  exact Ds2408.getD_memory hf hl

theorem writeMemoryDS2408_traces {mem : List UInt8} (hf : ds2408FirstWriteablePage ≤ page)
    (hl : page ≤ ds2408LastPage) (hs : mem.length ≤ ds2408NumUsefulPages) :
    Traces m (Bus.writeMemoryDS2408 page mem) fun _ _ _ => True :=
  .bind <| .assert (decide_eq_true hf) <| .bind <| .assert (decide_eq_true hl) <|
    .bind <| .assert (decide_eq_true hs) <| .bind <| .call fun _ =>
      .ite (fun _ => .bind <| .call fun _ => .pure trivial) fun _ => .pure trivial

-- A write that succeeds has reached the device, whatever has happened to it on the way.
theorem writeRegisterDS2408_traces {writeable : UInt8} (hf : ds2408FirstWriteablePage ≤ page)
    (hl : page ≤ ds2408LastUsefulPage) :
    Traces m (Bus.writeRegisterDS2408 page writeable data) fun calls success _ =>
      ∀ d d', Evolves Ds2408.MayRespond d calls d' → success = true →
        d'.register page &&& writeable = data &&& writeable := by
  have hfirst : ds2408FirstPage ≤ page := UInt16.le_trans (by decide) hf
  have hlast : page ≤ ds2408LastPage := UInt16.le_trans hl (by decide)
  refine .bind <| (writeMemoryDS2408_traces hf hlast (by simp; decide)).mono fun written _ _ _ =>
    .ite (fun _ => .bind <| (readRegisterDS2408_traces hfirst hl).mono fun calls read _ hread =>
      .pure fun d d' hd hsuccess => ?_) fun _ => .pure fun d d' _ => nofun
  have ⟨d₁, _, hd₁⟩ := Evolves.append_iff.mp hd
  rw [List.append_nil] at hd₁
  obtain ⟨rfl, hregister⟩ := hread _ _ hd₁
  have ⟨hsome, hequal⟩ := Bool.and_eq_true_iff.mp hsuccess
  have ⟨b, hb⟩ := Option.isSome_iff_exists.mp hsome
  rw [hb, Option.getD_some] at hequal
  rw [← hregister b hb]
  exact beq_iff_eq.mp hequal

-- The mask of the pins that take part in a conditional search.
theorem writeRegisterDS2408_traces_selectionMask :
    Traces () (Bus.writeRegisterDS2408 0x8B 0xFF 0x21) fun calls success _ =>
      ∀ d d', Evolves Ds2408.MayRespond d calls d' → success = true →
        d'.register 0x8B &&& 0xFF = 0x21 &&& 0xFF :=
  writeRegisterDS2408_traces (by decide) (by decide)

-- So are the bytes of the PIOs, whatever has been seen of them while they were read. Where no block comes
-- back, there are none.
theorem channelAccessReadDS2408_traces (hs : size ≤ ds2408MaxBytesInChannelAccess) :
    Traces m (Bus.channelAccessReadDS2408 size) fun calls read _ =>
      ((∀ buffer, ⟨.owBlock Bus.channelReadBlock, some buffer⟩ ∉ calls) → read = []) ∧
      ∀ samples buffer, samples.length = ds2408MaxBytesInChannelAccess →
        ⟨.owBlock Bus.channelReadBlock, some buffer⟩ ∈ calls →
        Disturbed 16 (Ds2408.withCRC (ds2408CommandChannelAccessRead :: samples)) buffer.toList →
          read = [] ∨ read = samples.take size := by
  refine .bind <| .assert (decide_eq_true hs) <| .bind <| .call fun accessed =>
    .ite (fun _ => .bind <| .call fun buffer => ?_) fun _ =>
      .pure ⟨fun _ => rfl, fun _ _ _ _ _ => .inl rfl⟩
  cases buffer
  case none => exact .pure ⟨fun _ => rfl, fun _ _ _ _ _ => .inl rfl⟩
  case some buffer =>
    refine .ite (fun hcrc => .pure ⟨fun hn => ?_, fun samples buffer' hl hm hd => ?_⟩) fun _ =>
      .pure ⟨fun _ => rfl, fun _ _ _ _ _ => .inl rfl⟩
    case refine_1 => exact absurd (List.mem_append_right _ (.head _)) (hn buffer)
    case refine_2 =>
      rcases List.mem_cons.mp hm with hm | hm
      case inl => cases hm
      case inr =>
        obtain ⟨⟩ := List.mem_singleton.mp hm
        refine .inr ?_
        rw [eq_of_crcMatches hd hcrc]
        exact List.take_append_of_le_length (hs.trans hl.ge)

theorem channelAccessReadDS2408_traces_twelve :
    Traces () (Bus.channelAccessReadDS2408 12) fun calls read _ =>
      ((∀ buffer, ⟨.owBlock Bus.channelReadBlock, some buffer⟩ ∉ calls) → read = []) ∧
      ∀ samples buffer, samples.length = ds2408MaxBytesInChannelAccess →
        ⟨.owBlock Bus.channelReadBlock, some buffer⟩ ∈ calls →
        Disturbed 16 (Ds2408.withCRC (ds2408CommandChannelAccessRead :: samples)) buffer.toList →
          read = [] ∨ read = samples.take 12 :=
  channelAccessReadDS2408_traces (by decide)

theorem toBitVec_crc8 : (crc8 bs).toBitVec = feed crc8Poly 0 (bits bs) := by
  have hfold (crc : UInt8) : (bs.foldl docrc8 crc).toBitVec = feed crc8Poly crc.toBitVec (bits bs) := by
    induction bs generalizing crc
    case nil => rfl
    case cons b bs hi =>
      have hsplit : bits (b :: bs) = bits [b] ++ bits bs := @bits_append [b] bs
      rw [List.foldl_cons, hi, toBitVec_docrc8, hsplit, feed_append]
  exact hfold 0

theorem eq_of_crc8_eq_zero (h : Disturbed 8 sent bs) (hs : crc8 sent = 0) (hb : crc8 bs = 0) :
    bs = sent := by
  rcases h with rfl | ⟨e, he, hd, hbits⟩
  case inl => rfl
  case inr =>
    have hread : (crc8 bs).toBitVec = feed crc8Poly 0 (bits bs) := toBitVec_crc8
    rw [hb, ← hs, toBitVec_crc8, hbits] at hread
    refine absurd hread.symm <| feed_differences_ne rfl rfl ?_ hd
    rw [length_bits, he]

def readSPBlock (page : PageNumber) : List UInt8 :=
  ds2438CommandReadScratchpad :: page.1 :: List.replicate 9 0xFF

-- A device with pages on a line with such errors in the pages that are read, and in their CRC.
structure Chip.Returns (d : Chip) (tranBuf : List UInt8) (buffer : Option (List UInt8)) (d' : Chip) :
    Prop where
  read   : ∀ page, tranBuf = readSPBlock page → d' = d ∧ ∀ bs, buffer = some bs → Disturbed 8
    (List.ofFn (d.scratchpad page) ++ [crc8 (List.ofFn (d.scratchpad page))]) (bs.drop 2)
  others : (∀ page, tranBuf ≠ readSPBlock page) → d.Receives tranBuf buffer d'

def Chip.MayRespond (d : Chip) : (c : BusCall) → c.Answer → Chip → Prop
  | .owBlock tranBuf, buffer, d' => d.Returns tranBuf (Option.map Vector.toList buffer) d'
  | .owAccess,        a,      d' => d.Responds .owAccess a d'
  | .owWriteByte b,   a,      d' => d.Responds (.owWriteByte b) a d'
  | .owReadByte,      a,      d' => d.Responds .owReadByte a d'

theorem received_of_drop_eq {p : Page} {crc : UInt8} (h : bs.drop 2 = List.ofFn p ++ [crc]) :
    Bus.received bs = p := by
  funext i
  have hi : i.1 < (List.ofFn p).length := by
    rw [List.length_ofFn]
    exact i.2
  have hget : bs.getD (2 + i) 0 = (bs.drop 2).getD i 0 := by
    rw [List.getD_eq_getElem?_getD, List.getD_eq_getElem?_getD, List.getElem?_drop]
  rw [Bus.received, hget, h, List.getD_append _ _ _ _ hi, List.getD_eq_getElem _ _ hi,
    List.getElem_ofFn]

-- Nothing else than the content of the device passes the check of the CRC.
theorem Chip.Returns.receives {d d' : Chip} {tranBuf : List UInt8} {buffer : Option (List UInt8)}
    (h : d.Returns tranBuf buffer d') : d.Receives tranBuf buffer d' := by
  by_cases hr : ∃ page, tranBuf = readSPBlock page
  case neg => exact h.others fun page he => hr ⟨page, he⟩
  case pos =>
    obtain ⟨page, rfl⟩ := hr
    have ⟨he, hd⟩ := h.read page rfl
    constructor
    case recallMemory   => exact fun _ ht => absurd (congrArg List.length ht) (by simp [readSPBlock])
    case copyScratchpad => exact fun _ ht => absurd (congrArg List.length ht) (by simp [readSPBlock])
    case writeScratchpad =>
      exact fun _ _ ht => absurd (List.cons.inj ht).left (by decide)
    case readScratchpad =>
      intro page' ht
      obtain rfl : page = page' := Subtype.ext (List.cons.inj (List.cons.inj ht).right).left
      exact ⟨he, fun bs hb hcrc =>
        received_of_drop_eq <| eq_of_crc8_eq_zero (hd bs hb) crc8_append_self hcrc⟩

-- So what is known of a function that uses pages, is known of it in spite of such errors.
theorem traces_on_disturbed_bus {α : Type} {p : Ds2438Program α} {Q : Ds2438History → α → Unit → Prop}
    (hp : Traces m p Q) : Traces m (pages.inline p) fun low a m' => ∃ calls, Q calls a m' ∧
      ∀ d d', Evolves Chip.MayRespond d low d' → Evolves Chip.Acts d calls d' := by
  refine (traces_on_bus hp).mono fun low a m' ⟨calls, hq, he⟩ => ⟨calls, hq, fun d d' hd => ?_⟩
  refine he d d' <| hd.mono fun d c a d' hr => ?_
  cases c
  case owBlock     => exact hr.receives
  case owAccess    => exact hr
  case owWriteByte => exact hr
  case owReadByte  => exact hr

-- The threshold is written in spite of the errors, or the write fails.
theorem traces_on_disturbed_bus_writeNVConfigThresholdDS2438 :
    Traces () (pages.inline <| writeNVConfigThresholdDS2438 (fun _ => 0) 0x0B (some 5))
      fun low success _ => ∃ calls,
        ConfigThresholdCalls (configThresholdPage (fun _ => 0) 0x0B 5) calls success ∧
        ∀ d d', Evolves Chip.MayRespond d low d' → Evolves Chip.Acts d calls d' :=
  traces_on_disturbed_bus writeNVConfigThresholdDS2438_traces

end RoboOne.OneWire
