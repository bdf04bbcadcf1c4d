import RoboOne.OneWire.TimeCapacity

namespace RoboOne.OneWire

open Interaction

def ds2438CcaDcaPage : PageNumber := ⟨7, by decide⟩

def ds2438CcaRegOffset : Fin ds2438NumBytesInPage := 4

def ds2438DcaRegOffset : Fin ds2438NumBytesInPage := 6

structure ChargeDischarge where
  charge    : UInt32
  discharge : UInt32
deriving DecidableEq

-- The product with the macro's factors fits into 32 bits.
def xcaMahoursOf (xca : UInt16) : UInt32 :=
  .ofInt <| truncate <| xcaToMahours xca.toNat

-- The register has 16 bits, and what does not fit into them is lost.
def xcaOf (mahours : UInt32) : UInt16 :=
  .ofInt <| truncate <| mahoursToXca mahours.toNat

-- What is put at the pointers, none of which is `PNULL`.
def chargeDischarge (buffer : Page) : ChargeDischarge where
  charge    := xcaMahoursOf (buffer.uint16 ds2438CcaRegOffset)
  discharge := xcaMahoursOf (buffer.uint16 ds2438DcaRegOffset)

def readNVChargeDischargeDS2438 : Ds2438Program (Option ChargeDischarge) := do
  let read ← readNVPageDS2438 ds2438CcaDcaPage
  return read.map chargeDischarge

def xcaBytes (xca : UInt16) : List UInt8 :=
  [xca.toUInt8, (xca >>> 8).toUInt8]

-- Zeros for the unused bytes at the start of the page, the charge, and the discharge if it is not
-- `PNULL`.
def chargeDischargeData (charge : UInt32) (discharge : Option UInt32) : List UInt8 :=
  [0, 0, 0, 0] ++ xcaBytes (xcaOf charge) ++ (discharge.map fun x => xcaBytes (xcaOf x)).getD []

theorem length_chargeDischargeData (charge : UInt32) (discharge : Option UInt32) :
    (chargeDischargeData charge discharge).length ≤ ds2438NumBytesInPage := by
  cases discharge
  case none   => exact (by decide : 6 ≤ ds2438NumBytesInPage)
  case some _ => exact (by decide : 8 ≤ ds2438NumBytesInPage)

def writeNVChargeDischargeDS2438 (charge : UInt32) (discharge : Option UInt32) :
    Ds2438Program Bool :=
  writeNVPageDS2438 ds2438CcaDcaPage
    ⟨chargeDischargeData charge discharge, length_chargeDischargeData ..⟩

-- A write of the two, and a read.
def writeAndReadChargeDischarge (charge discharge : UInt32) :
    Ds2438Program (Bool × Option ChargeDischarge) := do
  let written ← writeNVChargeDischargeDS2438 charge (some discharge)
  let read ← readNVChargeDischargeDS2438
  return (written, read)

-- What comes back is rounded down, by less than a unit of the register.
structure RoundedDown (mahours r : UInt32) : Prop where
  atMost   : r ≤ mahours
  lessThan : (mahours.toNat : ℚ) - r.toNat < xcaToMahours 1

-- A write that succeeds, and a read that succeeds after it, on any device.
def ChargeDischargeComesBack (charge discharge : UInt32) : Prop :=
  ∀ (env : Ds2438Environment) (w : Ds2438World), ∃ written read w' calls,
    writeAndReadChargeDischarge charge discharge env w = some ((written, read), w') ∧
    w'.history = w.history ++ calls ∧ ∀ d d', Evolves Chip.Acts d calls d' → written = true →
      ∀ r, read = some r → RoundedDown charge r.charge ∧ RoundedDown discharge r.discharge

variable {c c' : UInt32} {xca : UInt16} {p : Page} {m : Unit}

theorem xcaOf_toNat : (xcaOf c).toNat = 2 * c.toNat / 625 % 65536 := by
  have hq : mahoursToXca c.toNat = ((2 * c.toNat : Nat) : ℚ) / (625 : Nat) := by
    rw [mahoursToXca, rsens]
    push_cast
    ring
  rw [xcaOf, hq, truncate_natCast_div, UInt16.ofInt, UInt16.toNat_ofNat']
  omega

theorem xcaMahoursOf_toNat : (xcaMahoursOf xca).toNat = xca.toNat * 625 / 2 := by
  have hlt := xca.toNat_lt
  have hq : xcaToMahours xca.toNat = ((xca.toNat * 625 : Nat) : ℚ) / (2 : Nat) := by
    rw [xcaToMahours, rsens]
    push_cast
    ring
  rw [xcaMahoursOf, hq, truncate_natCast_div, UInt32.ofInt, UInt32.toNat_ofNat']
  omega

theorem xcaToMahours_one : xcaToMahours 1 = 625 / 2 := by
  norm_num [xcaToMahours, rsens]

-- From this value on, it does not fit into the register.
theorem roundedDown_iff : RoundedDown c (xcaMahoursOf (xcaOf c)) ↔ c < 20480000 := by
  have hlimit : (20480000 : UInt32).toNat = 20480000 := rfl
  rw [UInt32.lt_iff_toNat_lt, hlimit]
  constructor
  case mp =>
    intro h
    have hlt := h.lessThan
    rw [xcaToMahours_one, sub_lt_iff_lt_add] at hlt
    have hlt : 2 * c.toNat < 625 + 2 * (xcaMahoursOf (xcaOf c)).toNat := by
      rw [← Nat.cast_lt (α := ℚ)]
      push_cast
      linarith
    rw [xcaMahoursOf_toNat, xcaOf_toNat] at hlt
    omega
  case mpr =>
    intro hc
    have hxca : (xcaOf c).toNat = 2 * c.toNat / 625 := by
      rw [xcaOf_toNat, Nat.mod_eq_of_lt (by omega)]
    refine ⟨UInt32.le_iff_toNat_le.mpr ?_, ?_⟩
    case refine_1 =>
      rw [xcaMahoursOf_toNat, hxca]
      omega
    case refine_2 =>
      have hlt : 2 * c.toNat < 625 + 2 * (2 * c.toNat / 625 * 625 / 2) := by
        omega
      rw [xcaToMahours_one, sub_lt_iff_lt_add, xcaMahoursOf_toNat, hxca]
      rw [← Nat.cast_lt (α := ℚ)] at hlt
      push_cast at hlt ⊢
      linarith

-- The register is made of its bytes again.
theorem xca_bytes : xca.toUInt8.toUInt16 ||| (xca >>> 8).toUInt8.toUInt16 <<< 8 = xca := by
  rw [← UInt16.toBitVec_inj]
  apply BitVec.eq_of_getLsbD_eq
  intro i hi
  simp only [UInt16.toBitVec_or, UInt16.toBitVec_shiftLeft, UInt16.toBitVec_shiftRight,
    UInt8.toBitVec_toUInt16, UInt16.toBitVec_toUInt8, BitVec.getLsbD_or, BitVec.getLsbD_setWidth]
  simp
  grind

theorem chargeDischarge_overlay : chargeDischarge (p.overlay (chargeDischargeData c (some c'))) =
    ⟨xcaMahoursOf (xcaOf c), xcaMahoursOf (xcaOf c')⟩ := by
  have hcharge : (p.overlay (chargeDischargeData c (some c'))).uint16 ds2438CcaRegOffset = xcaOf c :=
    xca_bytes
  have hdischarge :
      (p.overlay (chargeDischargeData c (some c'))).uint16 ds2438DcaRegOffset = xcaOf c' :=
    xca_bytes
  rw [chargeDischarge, hcharge, hdischarge]

theorem writeAndReadChargeDischarge_traces :
    Traces m (writeAndReadChargeDischarge c c') fun calls r _ =>
      ∀ d d', Evolves Chip.Acts d calls d' → r.1 = true → ∀ reading, r.2 = some reading →
        reading = ⟨xcaMahoursOf (xcaOf c), xcaMahoursOf (xcaOf c')⟩ := by
  refine .bind <| .call fun written => .bind <| .bind <| .call fun read => .pure <| .pure ?_
  intro d d' hd hw reading hr
  obtain rfl : written = true := hw
  have ⟨d₁, h₁, hd₁⟩ := Evolves.cons_iff.mp hd
  have ⟨d₂, h₂, _⟩ := Evolves.cons_iff.mp hd₁
  have ⟨mem, hmem, hreading⟩ := Option.map_eq_some_iff.mp hr
  rw [← hreading, (h₂.right.right mem hmem).left, h₁.writeNVPage_memory]
  exact chargeDischarge_overlay

-- On such a device, the two operations succeed.
theorem writeAndReadChargeDischarge_blankChip :
    (writeAndReadChargeDischarge c c' (behaviour Chip.respond blankChip) ⟨(), []⟩).map
      (fun r => (r.1.1, r.1.2.isSome)) = some (true, true) :=
  rfl

theorem ChargeDischargeComesBack.roundedDown (h : ChargeDischargeComesBack c c') :
    RoundedDown c (xcaMahoursOf (xcaOf c)) ∧ RoundedDown c' (xcaMahoursOf (xcaOf c')) := by
  have ⟨written, read, w', calls, hr, hh, hb⟩ := h (behaviour Chip.respond blankChip) ⟨(), []⟩
  have hrun := @writeAndReadChargeDischarge_blankChip c c'
  rw [hr, Option.map_some, Option.some.injEq, Prod.mk.injEq] at hrun
  have ⟨ha, hp⟩ := writeAndReadChargeDischarge_traces.result hr hh
  have hd := ha.evolves Chip.respond_acts
  have ⟨reading, hreading⟩ := Option.isSome_iff_exists.mp hrun.right
  obtain rfl := hp _ _ hd hrun.left reading hreading
  exact hb _ _ hd hrun.left _ hreading

-- A larger value wraps in its register.
theorem charge_discharge_comes_back_iff (charge discharge : UInt32) :
    ChargeDischargeComesBack charge discharge ↔ charge < 20480000 ∧ discharge < 20480000 := by
  constructor
  case mp => exact fun h => h.roundedDown.imp roundedDown_iff.mp roundedDown_iff.mp
  case mpr =>
    intro ⟨hcharge, hdischarge⟩ env w
    have ⟨calls, ⟨written, read⟩, m', hr, _, hp⟩ :=
      @writeAndReadChargeDischarge_traces charge discharge w.memory env w.history
    refine ⟨written, read, _, calls, hr, rfl, fun d d' hd hw reading hread => ?_⟩
    obtain rfl := hp d d' hd hw reading hread
    exact ⟨roundedDown_iff.mpr hcharge, roundedDown_iff.mpr hdischarge⟩

-- What the test of the library writes.
theorem charge_discharge_lost : ¬ChargeDischargeComesBack 0xFFFFFF01 0xFFFFFF02 := by
  intro h
  have hlt := roundedDown_iff.mp h.roundedDown.left
  exact absurd hlt (by decide)

end RoboOne.OneWire
