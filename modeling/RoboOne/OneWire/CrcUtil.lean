import RoboOne.Library.Crc
import RoboOne.Library.BitBuffer
import RoboOne.OneWire.Pages

namespace RoboOne.OneWire

open BitBuffer Bits Crc

def oddparity : Vector UInt8 16 := #v[0, 1, 1, 0, 1, 0, 0, 1, 1, 0, 0, 1, 0, 1, 1, 0]

def docrc16 (utilcrc16 cdata : UInt16) : UInt16 :=
  let cdata     := (cdata ^^^ (utilcrc16 &&& 0xFF)) &&& 0xFF
  let utilcrc16 := utilcrc16 >>> 8
  let odd       := oddparity.toList.getD (cdata &&& 0xF).toNat 0 ^^^
    oddparity.toList.getD (cdata >>> 4).toNat 0
  let utilcrc16 := if odd ≠ 0 then utilcrc16 ^^^ 0xC001 else utilcrc16
  let cdata     := cdata <<< 6
  let utilcrc16 := utilcrc16 ^^^ cdata
  let cdata     := cdata <<< 1
  utilcrc16 ^^^ cdata

-- The CRC over some bytes, from zero.
def crc16 (bs : List UInt8) : UInt16 :=
  bs.foldl (fun crc b => docrc16 crc b.toUInt16) 0

-- The taps of the two registers.
def crc8Poly : BitVec 8 := 0x8C

def crc16Poly : BitVec 16 := 0xA001

variable {crc : UInt16} {b : UInt8} {bs : List UInt8} {i : Nat}

theorem getD_bits_singleton : (bits [b]).getD i false = b.toBitVec.getLsbD i := by
  rw [getD_bits]
  by_cases h : i < 8
  case pos => rw [Nat.div_eq_of_lt h, Nat.mod_eq_of_lt h]; rfl
  case neg =>
    have hi : ∃ j, i / 8 = j + 1 := ⟨i / 8 - 1, by omega⟩
    have ⟨j, hj⟩ := hi
    rw [hj, BitVec.getLsbD_of_ge _ _ (by omega)]
    exact bit_zero

theorem toBitVec_docrc8 {crc : UInt8} :
    (docrc8 crc b).toBitVec = feed crc8Poly crc.toBitVec (bits [b]) := by
  have htable : ∀ i : Fin 256, (dscrcTable.get i).toBitVec =
      feed crc8Poly (BitVec.ofFin i) (List.replicate 8 false) := by decide +kernel
  have hfeed : feed crc8Poly crc.toBitVec (bits [b]) =
      feed crc8Poly (crc.toBitVec ^^^ b.toBitVec) (List.replicate (bits [b]).length false) :=
    feed_eq rfl (by simp) fun i => getD_bits_singleton.symm
  rw [docrc8, htable, hfeed, length_bits]
  exact congrArg (feed crc8Poly · _) (BitVec.eq_of_toNat_eq rfl)

-- What the function adds to the upper half of the register.
def crc16Table (cdata : UInt16) : UInt16 :=
  (if oddparity.toList.getD (cdata &&& 0xF).toNat 0 ^^^ oddparity.toList.getD (cdata >>> 4).toNat 0 ≠ 0
    then (0xC001 : UInt16) else 0) ^^^ cdata <<< 6 ^^^ cdata <<< 6 <<< 1

theorem docrc16_eq : docrc16 crc b.toUInt16 =
    crc >>> 8 ^^^ crc16Table ((b.toUInt16 ^^^ (crc &&& 0xFF)) &&& 0xFF) := by
  rw [docrc16, crc16Table]
  split
  case isTrue  => simp only [UInt16.xor_assoc]
  case isFalse => simp only [UInt16.xor_assoc, UInt16.zero_xor]

theorem getLsbD_mask : (0xFF#16).getLsbD i = decide (i < 8) := by
  by_cases hi : i < 16
  case pos =>
    have hmask : ∀ i : Fin 16, (0xFF#16).getLsbD i = decide (i.1 < 8) := by decide
    exact hmask ⟨i, hi⟩
  case neg =>
    rw [BitVec.getLsbD_of_ge _ _ (by omega)]
    exact (decide_eq_false (by omega)).symm

theorem toBitVec_crc16Table {cdata : UInt16} (h : cdata.toNat < 256) :
    (crc16Table cdata).toBitVec = feed crc16Poly cdata.toBitVec (List.replicate 8 false) := by
  have htable : ∀ i : Fin 256, (crc16Table (.ofNat i)).toBitVec =
      feed crc16Poly (BitVec.ofNat 16 i) (List.replicate 8 false) := by decide +kernel
  have hentry := htable ⟨cdata.toNat, h⟩
  have hnat : BitVec.ofNat 16 cdata.toNat = cdata.toBitVec := BitVec.eq_of_toNat_eq (by simp)
  rw [UInt16.ofNat_toNat] at hentry
  exact hentry.trans (congrArg (feed crc16Poly · _) hnat)

theorem toBitVec_docrc16 : (docrc16 crc b.toUInt16).toBitVec =
    feed crc16Poly crc.toBitVec (bits [b]) := by
  let cdata := (b.toUInt16 ^^^ (crc &&& 0xFF)) &&& 0xFF
  have hd (i : Nat) : b.toUInt16.toBitVec.getLsbD i = b.toBitVec.getLsbD i := by
    rw [UInt8.toBitVec_toUInt16, BitVec.getLsbD_setWidth]
    by_cases hi : i < 16
    case pos => simp [hi]
    case neg => rw [BitVec.getLsbD_of_ge b.toBitVec _ (by omega), Bool.and_false]
  have hcdata (i : Nat) : cdata.toBitVec.getLsbD i =
      (decide (i < 8) && (crc.toBitVec ^^^ b.toUInt16.toBitVec).getLsbD i) := by
    have hmask : (0xFF : UInt16).toBitVec.getLsbD i = decide (i < 8) := getLsbD_mask
    rw [UInt16.toBitVec_and, UInt16.toBitVec_xor, UInt16.toBitVec_and, BitVec.getLsbD_and,
      BitVec.getLsbD_xor, BitVec.getLsbD_and, BitVec.getLsbD_xor, hmask]
    cases decide (i < 8) <;> simp [Bool.xor_comm]
  have hlt : cdata.toNat < 256 := by
    rw [UInt16.toNat_and]
    exact Nat.lt_of_le_of_lt Nat.and_le_right (by decide)
  have hhigh : (crc.toBitVec ^^^ b.toUInt16.toBitVec) >>> 8 = crc.toBitVec >>> 8 := by
    refine BitVec.eq_of_getLsbD_eq fun i _ => ?_
    rw [BitVec.getLsbD_ushiftRight, BitVec.getLsbD_ushiftRight, BitVec.getLsbD_xor, hd,
      BitVec.getLsbD_of_ge b.toBitVec _ (by omega), Bool.xor_false]
  have hshift : (crc >>> 8).toBitVec = crc.toBitVec >>> 8 := rfl
  have hfeed : feed crc16Poly crc.toBitVec (bits [b]) = feed crc16Poly
      (crc.toBitVec ^^^ b.toUInt16.toBitVec) (List.replicate (bits [b]).length false) :=
    feed_eq rfl (by simp) fun i => (hd i).trans getD_bits_singleton.symm
  rw [docrc16_eq, UInt16.toBitVec_xor, toBitVec_crc16Table hlt, hshift, hfeed, length_bits,
    List.length_singleton, feed_replicate hcdata, hhigh, BitVec.xor_comm]

end RoboOne.OneWire
