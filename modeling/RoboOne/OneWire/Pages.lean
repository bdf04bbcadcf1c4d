import RoboOne.OneWire.Config

namespace RoboOne.OneWire

open Interaction

def ds2438CommandRecallMemory : UInt8 := 0xB8

def ds2438CommandReadScratchpad : UInt8 := 0xBE

def ds2438CommandWriteScratchpad : UInt8 := 0x4E

def ds2438CommandCopyScratchpad : UInt8 := 0x48

set_option maxRecDepth 2000 in
def dscrcTable : Vector UInt8 256 := #v[
  0, 94, 188, 226, 97, 63, 221, 131, 194, 156, 126, 32, 163, 253, 31, 65,
  157, 195, 33, 127, 252, 162, 64, 30, 95, 1, 227, 189, 62, 96, 130, 220,
  35, 125, 159, 193, 66, 28, 254, 160, 225, 191, 93, 3, 128, 222, 60, 98,
  190, 224, 2, 92, 223, 129, 99, 61, 124, 34, 192, 158, 29, 67, 161, 255,
  70, 24, 250, 164, 39, 121, 155, 197, 132, 218, 56, 102, 229, 187, 89, 7,
  219, 133, 103, 57, 186, 228, 6, 88, 25, 71, 165, 251, 120, 38, 196, 154,
  101, 59, 217, 135, 4, 90, 184, 230, 167, 249, 27, 69, 198, 152, 122, 36,
  248, 166, 68, 26, 153, 199, 37, 123, 58, 100, 134, 216, 91, 5, 231, 185,
  140, 210, 48, 110, 237, 179, 81, 15, 78, 16, 242, 172, 47, 113, 147, 205,
  17, 79, 173, 243, 112, 46, 204, 146, 211, 141, 111, 49, 178, 236, 14, 80,
  175, 241, 19, 77, 206, 144, 114, 44, 109, 51, 209, 143, 12, 82, 176, 238,
  50, 108, 142, 208, 83, 13, 239, 177, 240, 174, 76, 18, 145, 207, 45, 115,
  202, 148, 118, 40, 171, 245, 23, 73, 8, 86, 180, 234, 105, 55, 213, 139,
  87, 9, 235, 181, 54, 104, 138, 212, 149, 203, 41, 119, 244, 170, 72, 22,
  233, 183, 85, 11, 136, 214, 52, 106, 43, 117, 151, 201, 74, 20, 246, 168,
  116, 42, 200, 150, 21, 75, 169, 247, 182, 232, 10, 84, 215, 137, 107, 53]

def docrc8 (utilcrc8 x : UInt8) : UInt8 :=
  dscrcTable.get ⟨(utilcrc8 ^^^ x).toNat, UInt8.toNat_lt _⟩

-- The CRC over some bytes, from zero.
def crc8 (bs : List UInt8) : UInt8 :=
  bs.foldl docrc8 0

inductive BusCall
  | owAccess
  | owBlock (tranBuf : List UInt8)
  | owWriteByte (sendbyte : UInt8)
  | owReadByte
deriving DecidableEq

-- A block is answered by what comes back for each of its bytes.
abbrev BusCall.Answer : BusCall → Type
  | owAccess        => Bool
  | owBlock tranBuf => Option (Vector UInt8 tranBuf.length)
  | owWriteByte _   => Bool
  | owReadByte      => UInt8

abbrev BusProgram :=
  Interaction.Program BusCall.Answer Unit

namespace Bus

def owAccess : BusProgram Bool :=
  call BusCall.owAccess

def owBlock (tranBuf : List UInt8) : BusProgram (Option (Vector UInt8 tranBuf.length)) :=
  call (BusCall.owBlock tranBuf)

def owWriteByte (sendbyte : UInt8) : BusProgram Bool :=
  call (BusCall.owWriteByte sendbyte)

def owReadByte : BusProgram UInt8 :=
  call BusCall.owReadByte

-- The eight bytes behind the command and the page.
def received (buffer : List UInt8) : Page :=
  fun i => buffer.getD (2 + i) 0

def readSPPageDS2438 (page : UInt8) : BusProgram (Option Page) := do
  assert (page < ds2438NumPages)
  if ← owAccess then
    let buffer ← owBlock (ds2438CommandReadScratchpad :: page :: List.replicate 9 0xFF)
    match buffer.map Vector.toList with
    | none        => return none
    | some buffer => if crc8 (buffer.drop 2) ≠ 0 then return none else return some (received buffer)
  else
    return none

def writeSPPageDS2438 (page : UInt8) (pMem : List UInt8) : BusProgram Bool := do
  assert (page < ds2438NumPages)
  assert (pMem.length ≤ ds2438NumBytesInPage)
  if ← owAccess then
    let buffer ← owBlock (ds2438CommandWriteScratchpad :: page :: pMem)
    return buffer.isSome
  else
    return false

def readNVPageDS2438 (page : UInt8) : BusProgram (Option Page) := do
  assert (page < ds2438NumPages)
  if ← owAccess then
    let buffer ← owBlock [ds2438CommandRecallMemory, page]
    if buffer.isSome then readSPPageDS2438 page else return none
  else
    return none

def writeNVPageDS2438 (page : UInt8) (pMem : List UInt8) : BusProgram Bool := do
  assert (page < ds2438NumPages)
  assert (pMem.length ≤ ds2438NumBytesInPage)
  if ← writeSPPageDS2438 page pMem then
    if ← owAccess then
      let buffer ← owBlock [ds2438CommandCopyScratchpad, page]
      if buffer.isSome then
        let guardCounter ← awaitReady owReadByte guardCounter
        return guardCounter ≠ 0
      else
        return false
    else
      return false
  else
    return false

end Bus

-- What a device may do with a block, of which something comes back or not. Nothing else than its
-- content passes the check of the CRC.
structure Chip.Receives (d : Chip) (tranBuf : List UInt8) (buffer : Option (List UInt8)) (d' : Chip) :
    Prop where
  recallMemory : ∀ page : PageNumber, tranBuf = [ds2438CommandRecallMemory, page.1] →
    d.AgreesBut page d' ∧ d'.memory page = d.memory page ∧
      (buffer ≠ none → d'.scratchpad page = d.memory page)
  readScratchpad : ∀ page : PageNumber,
    tranBuf = ds2438CommandReadScratchpad :: page.1 :: List.replicate 9 0xFF →
      d' = d ∧ ∀ bs, buffer = some bs → crc8 (bs.drop 2) = 0 →
        Bus.received bs = d.scratchpad page
  writeScratchpad : ∀ (page : PageNumber) (pMem : List UInt8),
    tranBuf = ds2438CommandWriteScratchpad :: page.1 :: pMem →
      d.AgreesBut page d' ∧ d'.memory page = d.memory page ∧
        (buffer ≠ none → d'.scratchpad page = (d.scratchpad page).overlay pMem)
  copyScratchpad : ∀ page : PageNumber, tranBuf = [ds2438CommandCopyScratchpad, page.1] →
    d.AgreesBut page d' ∧ (buffer ≠ none →
      d'.scratchpad page = d.scratchpad page ∧ d'.memory page = d.scratchpad page)

def Chip.Responds (d : Chip) : (c : BusCall) → c.Answer → Chip → Prop
  | .owAccess, _, d'             => d' = d
  | .owBlock tranBuf, buffer, d' => d.Receives tranBuf (Option.map Vector.toList buffer) d'
  | .owWriteByte _, _, d'        => d.AgreesBut ds2438ConfigPage d'
  | .owReadByte, _, d'           => d' = d

variable {page : PageNumber} {pMem : PageData} {d d' : Chip} {m : Unit}

-- A program of the bus does to the device what the call may do to it.
def DoesAs (c : Ds2438Call) (calls : History BusCall.Answer) (a : c.Answer) : Prop :=
  ∀ d d', Evolves Chip.Responds d calls d' → d.Acts c a d'

-- The access does nothing to it.
theorem evolves_access {accessed : Bool} {calls : History BusCall.Answer}
    (h : Evolves Chip.Responds d (⟨.owAccess, accessed⟩ :: calls) d') :
    Evolves Chip.Responds d calls d' := by
  have ⟨d₁, h₁, hd⟩ := Evolves.cons_iff.mp h
  obtain rfl : d₁ = d := h₁
  exact hd

theorem evolves_block {tranBuf : List UInt8} {buffer : Option (Vector UInt8 tranBuf.length)}
    (h : Evolves Chip.Responds d [⟨.owBlock tranBuf, buffer⟩] d') :
    d.Receives tranBuf (Option.map Vector.toList buffer) d' := by
  have ⟨d₁, h₁, hd⟩ := Evolves.cons_iff.mp h
  obtain rfl := Evolves.nil_iff.mp hd
  exact h₁

theorem evolves_nothing (h : Evolves Chip.Responds d [⟨.owAccess, false⟩] d') : d' = d :=
  Evolves.nil_iff.mp (evolves_access h)

-- The page that comes back, if its CRC is right.
def checked (buffer : Option (List UInt8)) : Option Page :=
  buffer.bind fun bs => if crc8 (bs.drop 2) = 0 then some (Bus.received bs) else none

-- The calls for a page of the scratchpad.
inductive ReadCalls (page : PageNumber) : History BusCall.Answer → Option Page → Prop
  | missed : ReadCalls page [⟨.owAccess, false⟩] none
  | block (buffer) : ReadCalls page [⟨.owAccess, true⟩,
      ⟨.owBlock (ds2438CommandReadScratchpad :: page.1 :: List.replicate 9 0xFF), buffer⟩]
    (checked (Option.map Vector.toList buffer))

theorem readSPPageDS2438_traces :
    Traces m (Bus.readSPPageDS2438 page.1) fun calls a _ => ReadCalls page calls a := by
  refine .bind <| .assert (decide_eq_true page.2) <| .bind <| .call fun accessed =>
    .ite (fun h => .bind <| .call fun buffer => ?_) fun h => .pure ?_
  case refine_2 =>
    obtain rfl : accessed = false := Bool.not_eq_true _ |>.mp h
    exact .missed
  case refine_1 =>
    obtain rfl : accessed = true := h
    have hblock : ReadCalls page _ (checked (Option.map Vector.toList buffer)) := .block buffer
    cases hb : Option.map Vector.toList buffer
    case none =>
      rw [hb] at hblock
      exact .pure hblock
    case some bs =>
      rw [hb] at hblock
      refine .ite (fun hcrc => .pure ?_) fun hcrc => .pure ?_
      case refine_1 => simpa [checked, hcrc] using hblock
      case refine_2 => simpa [checked, not_not.mp hcrc] using hblock

theorem readSPPageDS2438_doesAs : Traces m (Bus.readSPPageDS2438 page.1) fun calls a _ =>
    DoesAs (.readSPPageDS2438 page) calls a := by
  refine readSPPageDS2438_traces.mono fun calls a _ hc d d' hd => ?_
  cases hc
  case missed => exact ⟨evolves_nothing hd, nofun⟩
  case block buffer =>
    have ⟨he, hread⟩ := (evolves_block <| evolves_access hd).readScratchpad page rfl
    refine ⟨he, fun mem hmem => ?_⟩
    have ⟨bs, hb, hchecked⟩ := Option.bind_eq_some_iff.mp hmem
    have ⟨hcrc, hreceived⟩ := Option.ite_none_right_eq_some.mp hchecked
    exact (Option.some.inj hreceived).symm.trans (hread bs hb hcrc)

theorem writeSPPageDS2438_doesAs : Traces m (Bus.writeSPPageDS2438 page.1 pMem.1) fun calls a _ =>
    DoesAs (.writeSPPageDS2438 page pMem) calls a := by
  refine .bind <| .assert (decide_eq_true page.2) <| .bind <| .assert (decide_eq_true pMem.2) <|
    .bind <| .call fun accessed =>
      .ite (fun _ => .bind <| .call fun buffer => .pure fun d d' hd => ?_) fun h =>
        .pure fun d d' hd => ?_
  case refine_2 =>
    obtain rfl : accessed = false := Bool.not_eq_true _ |>.mp h
    obtain rfl := evolves_nothing hd
    exact ⟨.refl, rfl, nofun⟩
  case refine_1 =>
    have ⟨ha, hm, hs⟩ := (evolves_block <| evolves_access hd).writeScratchpad page pMem.1 rfl
    refine ⟨ha, hm, fun h => hs ?_⟩
    rwa [Ne, Option.map_eq_none_iff, ← Ne, ← Option.isSome_iff_ne_none]

theorem readNVPageDS2438_doesAs : Traces m (Bus.readNVPageDS2438 page.1) fun calls a _ =>
    DoesAs (.readNVPageDS2438 page) calls a := by
  refine .bind <| .assert (decide_eq_true page.2) <| .bind <| .call fun accessed =>
    .ite (fun _ => .bind <| .call fun buffer => .ite (fun hb => ?_) fun hb => .pure fun d d' hd => ?_)
      fun h => .pure fun d d' hd => ?_
  case refine_3 =>
    obtain rfl : accessed = false := Bool.not_eq_true _ |>.mp h
    obtain rfl := evolves_nothing hd
    exact ⟨.refl, rfl, nofun⟩
  case refine_2 =>
    have ⟨ha, hm, _⟩ := (evolves_block <| evolves_access hd).recallMemory page rfl
    exact ⟨ha, hm, nofun⟩
  case refine_1 =>
    refine readSPPageDS2438_doesAs.mono fun calls read _ hr d d' hd => ?_
    have ⟨d₁, h₁, hd₁⟩ := Evolves.cons_iff.mp <| evolves_access hd
    have ⟨ha, hm, hs⟩ := Chip.Receives.recallMemory h₁ page rfl
    obtain ⟨rfl, hread⟩ := hr _ _ hd₁
    refine ⟨ha, hm, fun mem hmem => ?_⟩
    have hmem := hread mem hmem
    have hrecalled := hs <| by rwa [Ne, Option.map_eq_none_iff, ← Ne, ← Option.isSome_iff_ne_none]
    exact ⟨hmem.trans hrecalled, hmem.symm⟩

-- Of a write that fails, nothing is asked but that it leaves the other pages as they are.
theorem acts_of_failure (h : d.AgreesBut page d') :
    d.Acts (.writeNVPageDS2438 page pMem) false d' :=
  ⟨h, nofun⟩

theorem Chip.AgreesBut.trans {d'' : Chip} (h : d.AgreesBut page d') (h' : d'.AgreesBut page d'') :
    d.AgreesBut page d'' :=
  fun page' hp => ⟨(h' page' hp).left.trans (h page' hp).left,
    (h' page' hp).right.trans (h page' hp).right⟩

theorem awaitReady_evolves {calls : History BusCall.Answer} (hc : ∀ x ∈ calls, x.1 = .owReadByte)
    (hd : Evolves Chip.Responds d calls d') : d' = d := by
  refine hd.keeps (I := (· = d)) (fun d₁ c a d₂ hm hr h => ?_) rfl
  obtain rfl : c = .owReadByte := hc _ hm
  exact Eq.trans hr h

-- What is written to the page goes to the scratchpad first.
theorem evolves_write_first {calls rest : History BusCall.Answer} {written : Bool}
    (hw : DoesAs (.writeSPPageDS2438 page pMem) calls written)
    (hd : Evolves Chip.Responds d (calls ++ rest) d') :
    ∃ d₁, d.Acts (.writeSPPageDS2438 page pMem) written d₁ ∧ Evolves Chip.Responds d₁ rest d' :=
  have ⟨d₁, h₁, hd₁⟩ := Evolves.append_iff.mp hd
  ⟨d₁, hw _ _ h₁, hd₁⟩

theorem writeNVPageDS2438_doesAs : Traces m (Bus.writeNVPageDS2438 page.1 pMem.1) fun calls a _ =>
    DoesAs (.writeNVPageDS2438 page pMem) calls a := by
  refine .bind <| .assert (decide_eq_true page.2) <| .bind <| .assert (decide_eq_true pMem.2) <|
    .bind <| writeSPPageDS2438_doesAs.mono fun calls written _ hw =>
      .ite (fun h => .bind <| .call fun accessed => .ite (fun _ => .bind <| .call fun buffer =>
        .ite (fun hb => .bind ?_) fun hb => .pure fun d d' hd => ?_) fun ha =>
          .pure fun d d' hd => ?_)
        fun h => .pure fun d d' hd => ?_
  case refine_1 =>
    refine (awaitReady_traces (P := fun x => x.1 = .owReadByte) fun _ => .call (by simp)).mono
      fun await g _ hc => .pure fun d d' hd => ?_
    have ⟨d₁, ⟨ha, hm, hs⟩, hd₁⟩ := evolves_write_first hw hd
    have ⟨d₂, h₂, hd₂⟩ := Evolves.cons_iff.mp <| evolves_access hd₁
    have ⟨ha', hs'⟩ := Chip.Receives.copyScratchpad h₂ page rfl
    rw [List.append_nil] at hd₂
    obtain rfl := awaitReady_evolves hc hd₂
    have ⟨hscratchpad, hmemory⟩ := hs' <| by
      rwa [Ne, Option.map_eq_none_iff, ← Ne, ← Option.isSome_iff_ne_none]
    exact ⟨ha.trans ha', fun _ => ⟨hscratchpad.trans (hs h), hmemory.trans hscratchpad.symm⟩⟩
  case refine_2 =>
    have ⟨d₁, ⟨hagrees, _⟩, hd₁⟩ := evolves_write_first hw hd
    have ⟨hagrees', _⟩ := (evolves_block <| evolves_access hd₁).copyScratchpad page rfl
    exact acts_of_failure (hagrees.trans hagrees')
  case refine_3 =>
    obtain rfl : accessed = false := Bool.not_eq_true _ |>.mp ha
    have ⟨d₁, ⟨hagrees, _⟩, hd₁⟩ := evolves_write_first hw hd
    obtain rfl := evolves_nothing hd₁
    exact acts_of_failure hagrees
  case refine_4 =>
    have ⟨d₁, ⟨hagrees, _⟩, hd₁⟩ := evolves_write_first hw hd
    obtain rfl := Evolves.nil_iff.mp hd₁
    exact acts_of_failure hagrees

-- The bytes of a page with their own CRC behind them pass the check.
theorem crc8_append_self {bs : List UInt8} : crc8 (bs ++ [crc8 bs]) = 0 := by
  have hself (x : UInt8) : docrc8 x x = 0 := by
    have hxor : (⟨(x ^^^ x).toNat, UInt8.toNat_lt _⟩ : Fin 256) = 0 := by simp
    rw [docrc8, hxor]
    rfl
  rw [crc8, List.foldl_append]
  exact hself _

namespace Chip

-- A device on a bus on which everything succeeds: what it takes from a block.
def takes (d : Chip) : List UInt8 → Chip
  | command :: page :: pMem =>
    if h : page < ds2438NumPages then
      if command = ds2438CommandRecallMemory then d.recallPage ⟨page, h⟩
      else if command = ds2438CommandWriteScratchpad then d.write ⟨page, h⟩ pMem
      else if command = ds2438CommandCopyScratchpad then d.copy ⟨page, h⟩
      else d
    else d
  | _                       => d

-- What comes back is the block itself, but for a page that it reads.
def sends (d : Chip) : List UInt8 → List UInt8
  | command :: page :: pMem =>
    if h : page < ds2438NumPages ∧ command = ds2438CommandReadScratchpad ∧
        pMem = List.replicate 9 0xFF then
      let bytes := List.ofFn (d.scratchpad ⟨page, h.left⟩)
      command :: page :: (bytes ++ [crc8 bytes])
    else command :: page :: pMem
  | tranBuf                 => tranBuf

theorem length_sends (d : Chip) (tranBuf : List UInt8) :
    (d.sends tranBuf).length = tranBuf.length := by
  match tranBuf with
  | []                      => rfl
  | [_]                     => rfl
  | command :: page :: pMem =>
    rw [sends]
    split
    case isFalse => rfl
    case isTrue h =>
      obtain ⟨_, _, rfl⟩ := h
      rw [List.length_cons, List.length_cons, List.length_append, List.length_ofFn]
      rfl

def block (d : Chip) (tranBuf : List UInt8) : Vector UInt8 tranBuf.length :=
  ⟨(d.sends tranBuf).toArray, d.length_sends tranBuf⟩

def respondOnBus (d : Chip) : (c : BusCall) → c.Answer × Chip
  | .owAccess        => (true, d)
  | .owBlock tranBuf => (some (d.block tranBuf), d.takes tranBuf)
  | .owWriteByte _   => (true, d)
  | .owReadByte      => ((0xFF : UInt8), d)

theorem sends_read : d.sends (ds2438CommandReadScratchpad :: page.1 :: List.replicate 9 0xFF) =
    ds2438CommandReadScratchpad :: page.1 ::
      (List.ofFn (d.scratchpad page) ++ [crc8 (List.ofFn (d.scratchpad page))]) :=
  dif_pos ⟨page.2, rfl, rfl⟩

theorem crc8_sends :
    crc8 ((d.sends (ds2438CommandReadScratchpad :: page.1 :: List.replicate 9 0xFF)).drop 2) = 0 := by
  rw [sends_read]
  exact crc8_append_self

theorem received_sends :
    Bus.received (d.sends (ds2438CommandReadScratchpad :: page.1 :: List.replicate 9 0xFF)) =
      d.scratchpad page := by
  funext i
  have hi : i.1 < (List.ofFn (d.scratchpad page)).length := by
    rw [List.length_ofFn]
    exact i.2
  rw [sends_read, Bus.received, Nat.add_comm]
  change (List.ofFn (d.scratchpad page) ++ _)[i.1]?.getD 0 = _
  rw [List.getElem?_append_left hi, List.getElem?_ofFn, dif_pos i.2]
  rfl

theorem takes_eq {command : UInt8} {mem : List UInt8} : d.takes (command :: page.1 :: mem) =
    if command = ds2438CommandRecallMemory then d.recallPage page
    else if command = ds2438CommandWriteScratchpad then d.write page mem
    else if command = ds2438CommandCopyScratchpad then d.copy page
    else d :=
  dif_pos page.2

-- It does what a device may do with a block.
theorem receives_takes {tranBuf : List UInt8} :
    d.Receives tranBuf (some (d.sends tranBuf)) (d.takes tranBuf) := by
  constructor
  case recallMemory =>
    rintro page rfl
    rw [takes_eq, if_pos rfl]
    refine ⟨fun page' hp => ?_, rfl, fun _ => ?_⟩
    case refine_1 => simp [recallPage, hp]
    case refine_2 => simp [recallPage]
  case readScratchpad =>
    rintro page rfl
    refine ⟨takes_eq, ?_⟩
    rintro _ ⟨⟩ _
    exact received_sends
  case writeScratchpad =>
    rintro page mem rfl
    have htakes : d.takes (ds2438CommandWriteScratchpad :: page.1 :: mem) = d.write page mem :=
      takes_eq
    rw [htakes]
    refine ⟨fun page' hp => ?_, rfl, fun _ => ?_⟩
    case refine_1 => simp [write, hp]
    case refine_2 => simp [write]
  case copyScratchpad =>
    rintro page rfl
    have htakes : d.takes [ds2438CommandCopyScratchpad, page.1] = d.copy page := takes_eq
    rw [htakes]
    refine ⟨fun page' hp => ?_, fun _ => ⟨rfl, ?_⟩⟩
    case refine_1 => simp [copy, hp]
    case refine_2 => simp [copy]

theorem respondOnBus_responds (d : Chip) (c : BusCall) :
    d.Responds c (d.respondOnBus c).1 (d.respondOnBus c).2 := by
  cases c
  case owAccess    => rfl
  case owBlock     => exact receives_takes
  case owWriteByte => exact .refl
  case owReadByte  => rfl

end Chip

theorem checked_block : checked (some (Vector.toList (d.block
    (ds2438CommandReadScratchpad :: page.1 :: List.replicate 9 0xFF)))) = some (d.scratchpad page) :=
  (if_pos Chip.crc8_sends).trans <| congrArg some Chip.received_sends

-- The check of the CRC does not keep a page of it from being read.
theorem readSPPageDS2438_respondOnBus {h : History BusCall.Answer} : ∃ w',
    Bus.readSPPageDS2438 page.1 (behaviour Chip.respondOnBus d) ⟨(), h⟩ =
      some (some ((after Chip.respondOnBus d h).scratchpad page), w') := by
  have ⟨calls, a, m', hr, ha, hc⟩ :=
    @readSPPageDS2438_traces page () (behaviour Chip.respondOnBus d) h
  rw [hr]
  cases hc
  case missed => cases ha.left
  case block buffer =>
    have hbuffer := ha.right.left
    rw [behaviour, after_append_call] at hbuffer
    subst hbuffer
    exact ⟨_, congrArg (fun read => some (read, _)) checked_block⟩

-- The page functions stand for their calls.
def pageProgram : (c : Ds2438Call) → BusProgram c.Answer
  | .readSPPageDS2438 page       => Bus.readSPPageDS2438 page.1
  | .writeSPPageDS2438 page pMem => Bus.writeSPPageDS2438 page.1 pMem.1
  | .readNVPageDS2438 page       => Bus.readNVPageDS2438 page.1
  | .writeNVPageDS2438 page pMem => Bus.writeNVPageDS2438 page.1 pMem.1
  | .owAccess                    => Bus.owAccess
  | .owWriteByte sendbyte        => Bus.owWriteByte sendbyte
  | .owReadByte                  => Bus.owReadByte

theorem pageProgram_doesAs (c : Ds2438Call) :
    Traces m (pageProgram c) fun calls a _ => DoesAs c calls a := by
  cases c
  case readSPPageDS2438  => exact readSPPageDS2438_doesAs
  case writeSPPageDS2438 => exact writeSPPageDS2438_doesAs
  case readNVPageDS2438  => exact readNVPageDS2438_doesAs
  case writeNVPageDS2438 => exact writeNVPageDS2438_doesAs
  case owAccess          => exact .call fun _ d d' hd => Evolves.nil_iff.mp (evolves_access hd)
  case owWriteByte       =>
    refine .call fun _ d d' hd => ?_
    have ⟨d₁, h₁, hd₁⟩ := Evolves.cons_iff.mp hd
    obtain rfl := Evolves.nil_iff.mp hd₁
    exact h₁
  case owReadByte        => exact .call fun _ d d' hd => awaitReady_evolves (by simp) hd

def pages : Implementation Ds2438Call.Answer BusCall.Answer where
  run         := pageProgram
  total c env := fun ⟨_, h⟩ => by
    have ⟨_, _, _, hr, _⟩ := @pageProgram_doesAs () c env h
    exact Option.isSome_of_eq_some hr

-- What is known of a function that uses pages, is known of it on the bus.
theorem traces_on_bus {α : Type} {p : Ds2438Program α} {Q : Ds2438History → α → Unit → Prop}
    (hp : Traces m p Q) : Traces m (pages.inline p) fun low a m' => ∃ calls, Q calls a m' ∧
      ∀ d d', Evolves Chip.Responds d low d' → Evolves Chip.Acts d calls d' :=
  (Implementation.inline_traces hp fun c => pageProgram_doesAs c).mono fun _ _ _ ⟨calls, hs, hq⟩ =>
    ⟨calls, hq, fun _ _ => hs.evolves fun _ _ _ h => h⟩

-- On the device on which everything succeeds, such a function does come to its end.
theorem runs_on_bus {α : Type} {p : Ds2438Program α} {Q : Ds2438History → α → Unit → Prop}
    (hp : Traces () p Q) (d : Chip) : ∃ a w' calls,
      pages.inline p (behaviour Chip.respondOnBus d) ⟨(), []⟩ = some (a, w') ∧ Q calls a () ∧
      Evolves Chip.Acts d calls (after Chip.respondOnBus d w'.history) := by
  have ⟨low, a, m', hr, ha, calls, hq, he⟩ := traces_on_bus hp (behaviour Chip.respondOnBus d) []
  exact ⟨a, _, calls, hr, hq, he _ _ <| ha.evolves Chip.respondOnBus_responds⟩

-- So it is for the write of the configuration.
theorem writeNVConfigThresholdDS2438_on_bus {uninitialised : Page} {config threshold : UInt8} :
    Traces m (pages.inline <| writeNVConfigThresholdDS2438 uninitialised config (some threshold))
      fun low success _ => ∃ calls, ∀ d d', Evolves Chip.Responds d low d' →
        ¬ConfigThresholdLost config (reads calls) (writes calls) →
          ConfigThresholdWritten config threshold success calls d' :=
  (traces_on_bus writeNVConfigThresholdDS2438_traces).mono fun _ _ _ ⟨calls, hc, he⟩ =>
    ⟨calls, fun d d' hd => (hc.written_iff (he d d' hd)).mpr⟩

end RoboOne.OneWire
