import RoboOne.Library.Execution
import RoboOne.OneWire.CrcUtil

namespace RoboOne.OneWire

open Interaction BitBuffer Crc

def ds2408CommandDisableTestMode : UInt8 := 0x3C

def ds2408CommandReadPIORegisters : UInt8 := 0xF0

def ds2408CommandChannelAccessRead : UInt8 := 0xF5

def ds2408CommandChannelAccessWrite : UInt8 := 0x5A

def ds2408CommandWriteCSRegister : UInt8 := 0xCC

def ds2408CommandResetActivityLatches : UInt8 := 0xC3

def ds2408ConfirmValue : UInt8 := 0xAA

def ds2408UnusedValue : UInt8 := 0x55

def ds2408FirstPage : UInt16 := 0x0088

def ds2408PIOLogicStatePage : UInt16 := ds2408FirstPage

def ds2408PIOOutputLatchStateRegisterPage : UInt16 := ds2408FirstPage + 1

def ds2408PIOActivityLatchStateRegisterPage : UInt16 := ds2408FirstPage + 2

def ds2408CSChannelSelectionMaskPage : UInt16 := ds2408FirstPage + 3

def ds2408FirstWriteablePage : UInt16 := ds2408CSChannelSelectionMaskPage

def ds2408CSChannelPolaritySelectionPage : UInt16 := ds2408FirstPage + 4

def ds2408ControlStatusRegisterPage : UInt16 := ds2408FirstPage + 5

def ds2408LastUsefulPage : UInt16 := ds2408ControlStatusRegisterPage

def ds2408NumUsefulPages : Nat := 6

def ds2408LastPage : UInt16 := 0x008F

def ds2408NumBytesInCRC : Nat := 2

def ds2408MinimumBufferSize : Nat := 5

namespace Bus

-- The CRC bytes returned by the device are the inverse of the CRC.
def crcMatches (buffer : List UInt8) : Bool :=
  let count := buffer.length - ds2408NumBytesInCRC
  crc16 (buffer.take count) ^^^
    ((buffer.getD count 0).toUInt16 + (buffer.getD (count + 1) 0).toUInt16 <<< 8) = 0xFFFF

-- The read goes on to the end of the memory, behind which the CRC is.
def readBlock (page : UInt16) : List UInt8 :=
  ds2408CommandReadPIORegisters :: page.toUInt8 :: (page >>> 8).toUInt8 ::
    List.replicate ((ds2408LastPage - page).toNat + 1 + ds2408NumBytesInCRC) 0xFF

def readMemoryDS2408 (page : UInt16) (size : Nat) : BusProgram (Option (List UInt8)) := do
  assert (page ≥ ds2408FirstPage)
  assert (page ≤ ds2408LastUsefulPage)
  assert (size ≤ ds2408NumUsefulPages)
  if ← owAccess then
    let buffer ← owBlock (readBlock page)
    match buffer.map Vector.toList with
    | none        => return none
    | some buffer => if crcMatches buffer then return some ((buffer.drop 3).take size) else return none
  else
    return none

def writeMemoryDS2408 (page : UInt16) (mem : List UInt8) : BusProgram Bool := do
  assert (page ≥ ds2408FirstWriteablePage)
  assert (page ≤ ds2408LastPage)
  assert (mem.length ≤ ds2408NumUsefulPages)
  if ← owAccess then
    let buffer ← owBlock
      (ds2408CommandWriteCSRegister :: page.toUInt8 :: (page >>> 8).toUInt8 :: mem)
    return buffer.isSome
  else
    return false

def disableTestModeDS2408 : BusProgram Bool := do
  if ← owAccess then
    let buffer ← owBlock [ds2408CommandDisableTestMode]
    return buffer.isSome
  else
    return false

-- The functions that read a register.
def readRegisterDS2408 (page : UInt16) : BusProgram (Option UInt8) := do
  let mem ← readMemoryDS2408 page 1
  return mem.map fun mem => mem.getD 0 0

def readControlRegisterDS2408 : BusProgram (Option UInt8) :=
  readRegisterDS2408 ds2408ControlStatusRegisterPage

def readPIOLogicStateDS2408 : BusProgram (Option UInt8) :=
  readRegisterDS2408 ds2408PIOLogicStatePage

def readPIOOutputLatchStateRegisterDS2408 : BusProgram (Option UInt8) :=
  readRegisterDS2408 ds2408PIOOutputLatchStateRegisterPage

def readPIOActivityLatchStateRegisterDS2408 : BusProgram (Option UInt8) :=
  readRegisterDS2408 ds2408PIOActivityLatchStateRegisterPage

def readCSChannelSelectionMaskRegisterDS2408 : BusProgram (Option UInt8) :=
  readRegisterDS2408 ds2408CSChannelSelectionMaskPage

def readCSChannelPolaritySelectionRegisterDS2408 : BusProgram (Option UInt8) :=
  readRegisterDS2408 ds2408CSChannelPolaritySelectionPage

-- The functions that write a register, and read the byte back to ensure that it was written correctly.
-- Not all bits of it can be written.
def writeRegisterDS2408 (page : UInt16) (writeable data : UInt8) : BusProgram Bool := do
  if ← writeMemoryDS2408 page [data] then
    let readback ← readRegisterDS2408 page
    let readbackValue := readback.getD ds2408UnusedValue
    return readback.isSome && (readbackValue &&& writeable == data &&& writeable)
  else
    return false

def writeControlRegisterDS2408 (data : UInt8) : BusProgram Bool :=
  writeRegisterDS2408 ds2408ControlStatusRegisterPage 0x0F data

def writeCSChannelSelectionMaskRegisterDS2408 (data : UInt8) : BusProgram Bool :=
  writeRegisterDS2408 ds2408CSChannelSelectionMaskPage 0xFF data

def writeCSChannelPolaritySelectionRegisterDS2408 (data : UInt8) : BusProgram Bool :=
  writeRegisterDS2408 ds2408CSChannelPolaritySelectionPage 0xFF data

def channelReadBlock : List UInt8 :=
  ds2408CommandChannelAccessRead ::
    List.replicate (ds2408MaxBytesInChannelAccess + ds2408NumBytesInCRC) 0xFF

-- What has been read of the PIOs, one byte each time.
def channelAccessReadDS2408 (numBytesToRead : Nat) : BusProgram (List UInt8) := do
  assert (numBytesToRead ≤ ds2408MaxBytesInChannelAccess)
  if ← owAccess then
    let buffer ← owBlock channelReadBlock
    match buffer.map Vector.toList with
    | none        => return []
    | some buffer => if crcMatches buffer then return (buffer.drop 1).take numBytesToRead else return []
  else
    return []

-- The data is written twice, one inverted, so that the device knows we mean it.
def channelAccessWriteDS2408 (data : UInt8) : BusProgram (Option UInt8) := do
  if ← owAccess then
    let buffer ← owBlock [ds2408CommandChannelAccessWrite, data, ~~~data, 0xFF, 0xFF]
    match buffer.map Vector.toList with
    | none        => return none
    | some buffer =>
      if buffer.getD 3 0 ≠ ds2408ConfirmValue then return none else return some (buffer.getD 4 0)
  else
    return none

def resetActivityLatchesDS2408 : BusProgram Bool := do
  if ← owAccess then
    let buffer ← owBlock [ds2408CommandResetActivityLatches, 0xFF, 0xFF, 0xFF, 0xFF]
    match buffer.map Vector.toList with
    | none        => return false
    | some buffer => return buffer.getD 1 0 = ds2408ConfirmValue
  else
    return false

end Bus

-- The device. Its pins are low if they are low from outside, or if the latch keeps them low.
structure Ds2408 where
  inputs   : UInt8
  latch    : UInt8
  activity : UInt8
  mask     : UInt8
  polarity : UInt8
  control  : UInt8
deriving DecidableEq

namespace Ds2408

def pins (d : Ds2408) : UInt8 :=
  d.latch &&& d.inputs

-- The registers from the first page to the last one.
def registers (d : Ds2408) : List UInt8 :=
  [d.pins, d.latch, d.activity, d.mask, d.polarity, d.control, 0xFF, 0xFF]

def register (d : Ds2408) (page : UInt16) : UInt8 :=
  d.registers.getD (page - ds2408FirstPage).toNat 0xFF

-- What is in the registers from a page on.
def memory (d : Ds2408) (page : UInt16) : List UInt8 :=
  d.registers.drop (page - ds2408FirstPage).toNat

-- Some bytes with the inverse of their CRC behind them.
def withCRC (bytes : List UInt8) : List UInt8 :=
  let crc := ~~~crc16 bytes
  bytes ++ [crc.toUInt8, (crc >>> 8).toUInt8]

-- What changes at a pin is kept in the activity latches.
def write (d : Ds2408) (data : UInt8) : Ds2408 :=
  let pins := data &&& d.inputs
  { d with latch := data, activity := d.activity ||| (d.pins ^^^ pins) }

def writeRegister (d : Ds2408) (page : UInt16) (b : UInt8) : Ds2408 :=
  if page = ds2408CSChannelSelectionMaskPage then { d with mask := b }
  else if page = ds2408CSChannelPolaritySelectionPage then { d with polarity := b }
  else if page = ds2408ControlStatusRegisterPage then
    { d with control := d.control &&& 0xF0 ||| b &&& 0x0F }
  else d

def writeRegisters (d : Ds2408) : UInt16 → List UInt8 → Ds2408
  | _,    []      => d
  | page, b :: bs => writeRegisters (d.writeRegister page b) (page + 1) bs

-- What the device takes from a block.
def takes (d : Ds2408) : List UInt8 → Ds2408
  | command :: l =>
    if command = ds2408CommandChannelAccessWrite then
      match l with
      | data :: inverse :: _ => if inverse = ~~~data then d.write data else d
      | _                    => d
    else if command = ds2408CommandResetActivityLatches then { d with activity := 0 }
    else if command = ds2408CommandWriteCSRegister then
      match l with
      | lo :: hi :: mem => d.writeRegisters (lo.toUInt16 + hi.toUInt16 <<< 8) mem
      | _               => d
    else d
  | []           => d

-- What it puts on the bus itself.
def puts (d : Ds2408) : List UInt8 → List UInt8
  | command :: l =>
    if command = ds2408CommandReadPIORegisters then
      match l with
      | lo :: hi :: _ =>
        let page := lo.toUInt16 + hi.toUInt16 <<< 8
        List.replicate 3 0xFF ++ (withCRC (command :: lo :: hi :: d.memory page)).drop 3
      | _             => []
    else if command = ds2408CommandChannelAccessRead then
      0xFF :: (withCRC (command :: List.replicate 32 d.pins)).drop 1
    else if command = ds2408CommandChannelAccessWrite then
      match l with
      | data :: inverse :: _ =>
        if inverse = ~~~data then
          List.replicate 3 0xFF ++ [ds2408ConfirmValue, (d.write data).pins]
        else []
      | _                    => []
    else if command = ds2408CommandResetActivityLatches then
      0xFF :: List.replicate 4 ds2408ConfirmValue
    else []
  | []           => []

-- What comes back for a block. A bit is low if anyone keeps it low.
def sends (d : Ds2408) (tranBuf : List UInt8) : List UInt8 :=
  tranBuf.mapIdx fun i b => b &&& (d.puts tranBuf).getD i 0xFF

def block (d : Ds2408) (tranBuf : List UInt8) : Vector UInt8 tranBuf.length :=
  ⟨(d.sends tranBuf).toArray, by simp [sends]⟩

def respond (d : Ds2408) : (c : BusCall) → c.Answer × Ds2408
  | .owAccess        => (true, d)
  | .owBlock tranBuf => (some (d.block tranBuf), d.takes tranBuf)
  | .owWriteByte _   => (true, d)
  | .owReadByte      => ((0xFF : UInt8), d)

end Ds2408

variable {d : Ds2408} {bs pre : List UInt8} {lo hi : UInt8} {page : UInt16} {data : UInt8}

section

theorem toBitVec_crc16 : (crc16 bs).toBitVec = feed crc16Poly 0 (bits bs) := by
  have hfold (crc : UInt16) : (bs.foldl (fun crc b => docrc16 crc b.toUInt16) crc).toBitVec =
      feed crc16Poly crc.toBitVec (bits bs) := by
    induction bs generalizing crc
    case nil => rfl
    case cons b bs hi =>
      have hsplit : bits (b :: bs) = bits [b] ++ bits bs := @bits_append [b] bs
      rw [List.foldl_cons, hi, toBitVec_docrc16, hsplit, feed_append]
  exact hfold 0

theorem toNat_pair : (lo.toUInt16 + hi.toUInt16 <<< 8).toNat = 2 ^ 8 * hi.toNat + lo.toNat := by
  have hlo := lo.toNat_lt
  have hhi := hi.toNat_lt
  have hshift : (hi.toUInt16 <<< 8).toNat = 2 ^ 8 * hi.toNat := by
    change hi.toNat <<< 8 % 2 ^ 16 = _
    rw [Nat.shiftLeft_eq]
    omega
  rw [UInt16.toNat_add, hshift, UInt8.toNat_toUInt16]
  omega

theorem getLsbD_pair {i : Nat} :
    (lo.toUInt16 + hi.toUInt16 <<< 8).toBitVec.getLsbD i = (bits [lo, hi]).getD i false := by
  have hlt : lo.toNat < 2 ^ 8 := lo.toNat_lt
  rw [BitVec.getLsbD, UInt16.toNat_toBitVec, toNat_pair, Nat.testBit_two_pow_mul_add _ hlt, getD_bits]
  by_cases hi8 : i < 8
  case pos =>
    rw [if_pos hi8, Nat.div_eq_of_lt hi8, Nat.mod_eq_of_lt hi8]
    rfl
  case neg =>
    rw [if_neg hi8]
    by_cases hi16 : i < 16
    case pos =>
      have hdiv : i / 8 = 1 := by omega
      have hmod : i % 8 = i - 8 := by omega
      rw [hdiv, hmod]
      rfl
    case neg =>
      have hdiv : [lo, hi].getD (i / 8) 0 = 0 := List.getD_eq_default _ _ (by simp; omega)
      rw [hdiv, Bits.bit_zero]
      exact Nat.testBit_lt_two_pow <| Nat.lt_of_lt_of_le hi.toNat_lt <|
        Nat.pow_le_pow_right (by decide) (by omega)

-- What the register is behind bytes with the inverse of their CRC.
def crc16Residue : BitVec 16 :=
  feed crc16Poly (BitVec.allOnes 16) (List.replicate 16 false)

theorem feed_eq_crc16Residue (h : crc16 bs ^^^ (lo.toUInt16 + hi.toUInt16 <<< 8) = 0xFFFF) :
    feed crc16Poly 0 (bits (bs ++ [lo, hi])) = crc16Residue := by
  have hones : (crc16 bs).toBitVec ^^^ (lo.toUInt16 + hi.toUInt16 <<< 8).toBitVec = BitVec.allOnes 16 :=
    congrArg UInt16.toBitVec h
  have hfeed : feed crc16Poly (crc16 bs).toBitVec (bits [lo, hi]) =
      feed crc16Poly ((crc16 bs).toBitVec ^^^ (lo.toUInt16 + hi.toUInt16 <<< 8).toBitVec)
        (List.replicate (bits [lo, hi]).length false) :=
    feed_eq rfl (by simp) fun i => getLsbD_pair
  rw [bits_append, feed_append, ← toBitVec_crc16, hfeed, hones, length_bits]
  rfl

theorem feed_of_crcMatches (h : Bus.crcMatches bs) (hl : 2 ≤ bs.length) :
    feed crc16Poly 0 (bits bs) = crc16Residue := by
  have hlt : bs.length - 2 < bs.length := by omega
  have hlt' : bs.length - 2 + 1 < bs.length := by omega
  have hsplit : bs = bs.take (bs.length - 2) ++
      [bs.getD (bs.length - 2) 0, bs.getD (bs.length - 2 + 1) 0] := by
    rw [List.getD_eq_getElem _ _ hlt, List.getD_eq_getElem _ _ hlt']
    conv_lhs => rw [← List.take_append_drop (bs.length - 2) bs, List.drop_eq_getElem_cons hlt,
      List.drop_eq_getElem_cons hlt', List.drop_of_length_le (by omega)]
  rw [hsplit]
  exact feed_eq_crc16Residue (of_decide_eq_true h)

theorem pair_toUInt8 {x : UInt16} : x.toUInt8.toUInt16 + (x >>> 8).toUInt8.toUInt16 <<< 8 = x := by
  refine UInt16.toNat_inj.mp ?_
  have hlt := x.toNat_lt
  have hshift : (x >>> 8).toNat = x.toNat / 2 ^ 8 := Nat.shiftRight_eq_div_pow _ _
  rw [toNat_pair, UInt16.toNat_toUInt8, UInt16.toNat_toUInt8, hshift]
  omega

-- What the device makes of a CRC.
theorem crcMatches_withCRC : Bus.crcMatches (Ds2408.withCRC bs) := by
  have hinverse : crc16 bs ^^^ ~~~crc16 bs = 0xFFFF := by
    rw [UInt16.xor_not, UInt16.xor_self]
    rfl
  have hlength : (Ds2408.withCRC bs).length - ds2408NumBytesInCRC = bs.length := by
    rw [Ds2408.withCRC, List.length_append]
    rfl
  rw [Bus.crcMatches, hlength, Ds2408.withCRC,
    List.take_left, List.getD_append_right _ _ _ _ (Nat.le_refl _),
    List.getD_append_right _ _ _ _ (Nat.le_add_right _ 1), Nat.sub_self, Nat.add_sub_cancel_left]
  exact decide_eq_true <| (congrArg (crc16 bs ^^^ ·) pair_toUInt8).trans hinverse

end

namespace Ds2408

-- What the device puts behind the bytes that are sent to it.
theorem sends_append {as : List UInt8} {n : Nat} (hl : bs.length = n)
    (hp : d.puts (as ++ List.replicate n 0xFF) = List.replicate as.length 0xFF ++ bs) :
    d.sends (as ++ List.replicate n 0xFF) = as ++ bs := by
  refine List.ext_getElem (by simp [sends, hl]) fun i h₁ h₂ => ?_
  have hones (b : UInt8) : b &&& 0xFF = b := UInt8.and_neg_one
  have hones' (b : UInt8) : 0xFF &&& b = b := UInt8.neg_one_and
  simp only [sends, List.getElem_mapIdx, hp]
  by_cases hi : i < as.length
  case pos =>
    rw [List.getElem_append_left hi, List.getElem_append_left hi,
      List.getD_append _ _ _ _ (by rwa [List.length_replicate]), List.getD_replicate _ hi]
    exact hones _
  case neg =>
    rw [List.length_append] at h₂
    rw [List.getElem_append_right (by omega), List.getElem_append_right (by omega),
      List.getD_append_right _ _ _ _ (by rw [List.length_replicate]; omega), List.length_replicate,
      List.getElem_replicate, List.getD_eq_getElem _ _ (by omega)]
    exact hones' _

theorem length_withCRC : (withCRC bs).length = bs.length + 2 := by
  rw [withCRC, List.length_append]
  rfl

theorem length_memory (hf : ds2408FirstPage ≤ page) :
    (d.memory page).length = 0x90 - page.toNat := by
  have hregisters : d.registers.length = 8 := rfl
  have h88 : ds2408FirstPage.toNat = 0x88 := rfl
  have hfirst := UInt16.le_iff_toNat_le.mp hf
  rw [memory, List.length_drop, hregisters, UInt16.toNat_sub_of_le _ _ hf]
  omega

theorem getD_memory (hf : ds2408FirstPage ≤ page) (hl : page ≤ ds2408LastUsefulPage) :
    ((d.memory page).take 1).getD 0 0 = d.register page := by
  have hlast := UInt16.le_iff_toNat_le.mp hl
  have h8D : ds2408LastUsefulPage.toNat = 0x8D := rfl
  have hlt : (page - ds2408FirstPage).toNat < d.registers.length := by
    have hlength := length_memory (d := d) hf
    rw [memory, List.length_drop] at hlength
    omega
  rw [memory, List.drop_eq_getElem_cons hlt, register, List.getD_eq_getElem _ _ hlt]
  rfl

theorem sends_readBlock (hf : ds2408FirstPage ≤ page) (hl : page ≤ ds2408LastPage) :
    d.sends (Bus.readBlock page) = withCRC (ds2408CommandReadPIORegisters :: page.toUInt8 ::
      (page >>> 8).toUInt8 :: d.memory page) := by
  have hlast := UInt16.le_iff_toNat_le.mp hl
  have h8F : ds2408LastPage.toNat = 0x8F := rfl
  have hblock : Bus.readBlock page = [ds2408CommandReadPIORegisters, page.toUInt8,
      (page >>> 8).toUInt8] ++ List.replicate ((ds2408LastPage - page).toNat + 3) 0xFF := rfl
  have hlength : ((withCRC (ds2408CommandReadPIORegisters :: page.toUInt8 ::
      (page >>> 8).toUInt8 :: d.memory page)).drop 3).length = (ds2408LastPage - page).toNat + 3 := by
    rw [List.length_drop, length_withCRC, List.length_cons, List.length_cons, List.length_cons,
      length_memory hf, UInt16.toNat_sub_of_le _ _ hl]
    omega
  have hputs : d.puts ([ds2408CommandReadPIORegisters, page.toUInt8, (page >>> 8).toUInt8] ++
      List.replicate ((ds2408LastPage - page).toNat + 3) 0xFF) =
        List.replicate 3 (0xFF : UInt8) ++ (withCRC (ds2408CommandReadPIORegisters :: page.toUInt8 ::
          (page >>> 8).toUInt8 :: d.memory page)).drop 3 := by
    simp only [List.cons_append, puts, if_true, pair_toUInt8]
  rw [hblock]
  exact sends_append hlength hputs

theorem sends_channelAccessWrite :
    d.sends [ds2408CommandChannelAccessWrite, data, ~~~data, 0xFF, 0xFF] =
      [ds2408CommandChannelAccessWrite, data, ~~~data, ds2408ConfirmValue, (d.write data).pins] := by
  have hcommand : ds2408CommandChannelAccessWrite ≠ ds2408CommandReadPIORegisters := by decide
  have hcommand' : ds2408CommandChannelAccessWrite ≠ ds2408CommandChannelAccessRead := by decide
  have hsends : d.sends ([ds2408CommandChannelAccessWrite, data, ~~~data] ++ List.replicate 2 0xFF) =
      [ds2408CommandChannelAccessWrite, data, ~~~data] ++
        [ds2408ConfirmValue, (d.write data).pins] := by
    refine sends_append rfl ?_
    simp only [List.cons_append, puts, hcommand, hcommand', if_true, if_false]
    rfl
  exact hsends

theorem takes_channelAccessWrite :
    d.takes [ds2408CommandChannelAccessWrite, data, ~~~data, 0xFF, 0xFF] = d.write data := by
  simp only [takes, if_true]

end Ds2408

variable {m : Unit} {size : Nat}

theorem owAccess_runs : Runs Ds2408.respond Bus.owAccess d m true d m :=
  .call _

theorem owBlock_runs : Runs Ds2408.respond (Bus.owBlock bs) d m (some (d.block bs)) (d.takes bs) m :=
  .call _

theorem toList_block : Option.map Vector.toList (some (d.block bs)) = some (d.sends bs) :=
  rfl

-- On a line without errors, the registers are read.
theorem readMemoryDS2408_runs (hf : ds2408FirstPage ≤ page) (hl : page ≤ ds2408LastUsefulPage)
    (hs : size ≤ ds2408NumUsefulPages) (hm : page.toNat + size ≤ 0x90) :
    Runs Ds2408.respond (Bus.readMemoryDS2408 page size) d m (some ((d.memory page).take size)) d m := by
  have hlast : page ≤ ds2408LastPage := UInt16.le_trans hl (by decide)
  have hread : (d.memory page).take size = ((Ds2408.withCRC (ds2408CommandReadPIORegisters ::
      page.toUInt8 :: (page >>> 8).toUInt8 :: d.memory page)).drop 3).take size := by
    refine (List.take_append_of_le_length ?_).symm
    rw [Ds2408.length_memory hf]
    omega
  have htakes : d.takes (Bus.readBlock page) = d := rfl
  refine .bind (.assert (decide_eq_true hf)) <| .bind (.assert (decide_eq_true hl)) <|
    .bind (.assert (decide_eq_true hs)) <| .bind owAccess_runs <| .ite_pos rfl <|
      .bind owBlock_runs ?_
  rw [toList_block, htakes, Ds2408.sends_readBlock hf hlast, hread]
  exact .ite_pos crcMatches_withCRC .pure

theorem readRegisterDS2408_runs (hf : ds2408FirstPage ≤ page) (hl : page ≤ ds2408LastUsefulPage) :
    Runs Ds2408.respond (Bus.readRegisterDS2408 page) d m (some (d.register page)) d m := by
  have hlast := UInt16.le_iff_toNat_le.mp hl
  have h8D : ds2408LastUsefulPage.toNat = 0x8D := rfl
  have hget : ((d.memory page).take 1).getD 0 0 = d.register page := Ds2408.getD_memory hf hl
  have hread : Runs Ds2408.respond (Bus.readMemoryDS2408 page 1) d m
      (some ((d.memory page).take 1)) d m :=
    readMemoryDS2408_runs hf hl (by decide) (by omega)
  refine hread.bind ?_
  rw [Option.map_some, hget]
  exact .pure

-- A write of the pins reaches the latch, and the pins are read back.
theorem channelAccessWriteDS2408_runs :
    Runs Ds2408.respond (Bus.channelAccessWriteDS2408 data) d m (some (d.write data).pins)
      (d.write data) m := by
  refine .bind owAccess_runs <| .ite_pos rfl <| .bind owBlock_runs ?_
  rw [toList_block, Ds2408.sends_channelAccessWrite, Ds2408.takes_channelAccessWrite]
  exact .ite_neg (by simp) .pure

theorem writeMemoryDS2408_runs {b : UInt8} (hf : ds2408FirstWriteablePage ≤ page)
    (hl : page ≤ ds2408LastPage) :
    Runs Ds2408.respond (Bus.writeMemoryDS2408 page [b]) d m true (d.writeRegister page b) m := by
  have hsize : 1 ≤ ds2408NumUsefulPages := by decide
  have htakes : d.takes [ds2408CommandWriteCSRegister, page.toUInt8, (page >>> 8).toUInt8, b] =
      d.writeRegister page b := by
    have hcommand : ds2408CommandWriteCSRegister ≠ ds2408CommandChannelAccessWrite := by decide
    have hcommand' : ds2408CommandWriteCSRegister ≠ ds2408CommandResetActivityLatches := by decide
    simp only [Ds2408.takes, hcommand, hcommand', if_true, if_false, pair_toUInt8,
      Ds2408.writeRegisters]
  refine .bind (.assert (decide_eq_true hf)) <| .bind (.assert (decide_eq_true hl)) <|
    .bind (.assert (decide_eq_true hsize)) <| .bind owAccess_runs <| .ite_pos rfl <|
      .bind owBlock_runs ?_
  rw [htakes]
  exact .pure

-- The registers that can be written are written.
theorem writeRegisterDS2408_runs {writeable : UInt8}
    (hp : page = ds2408ControlStatusRegisterPage ∧ writeable = 0x0F ∨
      (page = ds2408CSChannelSelectionMaskPage ∨ page = ds2408CSChannelPolaritySelectionPage) ∧
        writeable = 0xFF) :
    Runs Ds2408.respond (Bus.writeRegisterDS2408 page writeable data) d m true
      (d.writeRegister page data) m := by
  have hregister : (d.writeRegister page data).register page &&& writeable = data &&& writeable := by
    rcases hp with ⟨rfl, rfl⟩ | ⟨rfl | rfl, rfl⟩
    case inl =>
      refine Bits.ext fun i => ?_
      have hlow : (Bits.bit 0xF0 i && Bits.bit 0x0F i) = false := by
        rw [← Bits.bit_and]
        exact Bits.bit_zero
      change Bits.bit ((d.control &&& 0xF0 ||| data &&& 0x0F) &&& 0x0F) i = _
      simp only [Bits.bit_and, Bits.bit_or]
      revert hlow
      cases Bits.bit 0xF0 i <;> cases Bits.bit 0x0F i <;> simp
    case inr.inl => rfl
    case inr.inr => rfl
  have hrange : ds2408FirstWriteablePage ≤ page ∧ page ≤ ds2408LastUsefulPage := by
    rcases hp with ⟨rfl, _⟩ | ⟨rfl | rfl, _⟩ <;> decide
  have hfirst : ds2408FirstPage ≤ page := UInt16.le_trans (by decide) hrange.left
  have hlast : page ≤ ds2408LastPage := UInt16.le_trans hrange.right (by decide)
  refine .bind (writeMemoryDS2408_runs hrange.left hlast) <| .ite_pos rfl <|
    .bind (readRegisterDS2408_runs hfirst hrange.right) ?_
  simp only [Option.getD_some, Option.isSome_some, hregister, beq_self_eq_true, Bool.and_true]
  exact .pure

end RoboOne.OneWire
