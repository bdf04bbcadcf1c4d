import RoboOne.OneWire.Ds2438
import RoboOne.OneWire.Units

namespace RoboOne.OneWire

open Interaction

-- To cap any over-optimistic readings from the DS2438
def maxRemainingCapacityMahours : UInt16 := 2200

-- The blocks of the user data are the pages from this one.
def ds2438FirstUserDataPage : UInt8 := 3

abbrev BlockNumber := { block : UInt8 // block < ds2438NumUserDataPages }

def ds2438UserDataEtmIcaPage : BlockNumber := ⟨0, by decide⟩

theorem userDataPage_lt (block : BlockNumber) :
    ds2438FirstUserDataPage + block.1 < ds2438NumPages := by
  have hlt : block.1.toNat < 4 := UInt8.lt_iff_toNat_lt.mp block.2
  rw [UInt8.lt_iff_toNat_lt, UInt8.toNat_add]
  change (3 + block.1.toNat) % 2 ^ 8 < 8
  omega

def userDataPage (block : BlockNumber) : PageNumber :=
  ⟨ds2438FirstUserDataPage + block.1, userDataPage_lt block⟩

def writeNVUserDataDS2438 (block : BlockNumber) (pMem : PageData) : Ds2438Program Bool :=
  writeNVPageDS2438 (userDataPage block) pMem

def mahoursOf (ica : UInt8) : UInt16 :=
  .ofInt <| truncate <| icaToMahours ica.toNat

def icaOf (mahours : UInt16) : UInt8 :=
  .ofInt <| truncate <| mahoursToIca mahours.toNat

-- The elapsed time in the first four bytes.
def elapsedTimeOf (buffer : Page) : UInt32 :=
  (buffer ds2438EtmRegOffset).toUInt32 ||| (buffer (ds2438EtmRegOffset + 1)).toUInt32 <<< 8 |||
    (buffer (ds2438EtmRegOffset + 2)).toUInt32 <<< 16 |||
    (buffer (ds2438EtmRegOffset + 3)).toUInt32 <<< 24

structure TimeCapacityCal where
  elapsedTime       : UInt32
  remainingCapacity : UInt16
  offsetCal         : Int16
deriving DecidableEq

-- What is put at the pointers, none of which is `PNULL`.
def timeCapacityCal (buffer : Page) : TimeCapacityCal where
  elapsedTime       := elapsedTimeOf buffer
  remainingCapacity :=
    let remainingCapacity := mahoursOf (buffer ds2438IcaRegOffset)
    if remainingCapacity > maxRemainingCapacityMahours then maxRemainingCapacityMahours
    else remainingCapacity
  offsetCal         := (buffer.uint16 ds2438CalRegOffset).toInt16

-- What is stored in the user data: the elapsed time and the capacity, which is clamped as well.
def shadowData (buffer : Page) : PageData :=
  let ica := buffer ds2438IcaRegOffset
  ⟨[buffer ds2438EtmRegOffset, buffer (ds2438EtmRegOffset + 1), buffer (ds2438EtmRegOffset + 2),
      buffer (ds2438EtmRegOffset + 3),
      if mahoursOf ica > maxRemainingCapacityMahours then icaOf maxRemainingCapacityMahours else ica],
    (by decide : 5 ≤ ds2438NumBytesInPage)⟩

def readTimeCapacityCalDS2438 (writeShadow : Bool) :
    Ds2438Program (Bool × Option TimeCapacityCal) := do
  match ← readNVPageDS2438 ds2438EtmIcaOffsetPage with
  | none        => return (false, none)
  | some buffer =>
    let success ← (if writeShadow then
        writeNVUserDataDS2438 ds2438UserDataEtmIcaPage (shadowData buffer)
      else pure true)
    return (success, some (timeCapacityCal buffer))

-- The elapsed time, and the capacity if it is not `PNULL`.
def timeCapacityData (elapsedTime : UInt32) (remainingCapacity : Option UInt16) : List UInt8 :=
  [elapsedTime.toUInt8, (elapsedTime >>> 8).toUInt8, (elapsedTime >>> 16).toUInt8,
    (elapsedTime >>> 24).toUInt8] ++ (remainingCapacity.map icaOf).toList

theorem length_timeCapacityData (elapsedTime : UInt32) (remainingCapacity : Option UInt16) :
    (timeCapacityData elapsedTime remainingCapacity).length ≤ ds2438NumBytesInPage := by
  cases remainingCapacity
  case none   => exact (by decide : 4 ≤ ds2438NumBytesInPage)
  case some _ => exact (by decide : 5 ≤ ds2438NumBytesInPage)

def writeTimeCapacityDS2438 (elapsedTime : UInt32) (remainingCapacity : Option UInt16)
    (writeShadow : Bool) : Ds2438Program Bool := do
  let buffer := ⟨timeCapacityData elapsedTime remainingCapacity, length_timeCapacityData ..⟩
  let success ← writeNVPageDS2438 ds2438EtmIcaOffsetPage buffer
  if success && writeShadow then
    writeNVUserDataDS2438 ds2438UserDataEtmIcaPage buffer
  else
    return success

-- A write of the two, and a read.
def writeAndReadTimeCapacity (elapsedTime : UInt32) (remainingCapacity : UInt16)
    (writeShadow writeShadow' : Bool) : Ds2438Program (Bool × Bool × Option TimeCapacityCal) := do
  let written ← writeTimeCapacityDS2438 elapsedTime (some remainingCapacity) writeShadow
  let r ← readTimeCapacityCalDS2438 writeShadow'
  return (written, r)

-- What has been written comes back, and not more of the capacity than the clamp allows.
structure ComesBack (elapsedTime : UInt32) (remainingCapacity : UInt16) (r : TimeCapacityCal) :
    Prop where
  elapsedTime : r.elapsedTime = elapsedTime
  atMost      : r.remainingCapacity.toNat ≤
    min remainingCapacity.toNat maxRemainingCapacityMahours.toNat

-- Nor is more than `slack` of the capacity lost.
def IsWithin (slack : ℚ) (remainingCapacity : UInt16) (r : TimeCapacityCal) : Prop :=
  (min remainingCapacity.toNat maxRemainingCapacityMahours.toNat : ℕ) ≤
    r.remainingCapacity.toNat + slack

variable {t : UInt32} {c : UInt16} {ica : UInt8} {p : Page} {m : Unit} {calls : Ds2438History}
  {d d' : Chip}

theorem icaOf_toNat : (icaOf c).toNat = 64 * c.toNat / 625 % 256 := by
  have hq : mahoursToIca c.toNat = ((64 * c.toNat : Nat) : ℚ) / (625 : Nat) := by
    rw [mahoursToIca, rsens]
    push_cast
    ring
  rw [icaOf, hq, truncate_natCast_div, UInt8.ofInt, UInt8.toNat_ofNat']
  omega

theorem mahoursOf_toNat : (mahoursOf ica).toNat = ica.toNat * 625 / 64 := by
  have hlt := ica.toNat_lt
  have hq : icaToMahours ica.toNat = ((ica.toNat * 625 : Nat) : ℚ) / (64 : Nat) := by
    rw [icaToMahours, rsens]
    push_cast
    ring
  rw [mahoursOf, hq, truncate_natCast_div, UInt16.ofInt, UInt16.toNat_ofNat']
  omega

-- The elapsed time is made of its bytes again.
theorem elapsedTime_bytes : t.toUInt8.toUInt32 ||| (t >>> 8).toUInt8.toUInt32 <<< 8 |||
    (t >>> 16).toUInt8.toUInt32 <<< 16 ||| (t >>> 24).toUInt8.toUInt32 <<< 24 = t := by
  rw [← UInt32.toBitVec_inj]
  apply BitVec.eq_of_getLsbD_eq
  intro i hi
  simp only [UInt32.toBitVec_or, UInt32.toBitVec_shiftLeft, UInt32.toBitVec_shiftRight,
    UInt8.toBitVec_toUInt32, UInt32.toBitVec_toUInt8, BitVec.getLsbD_or, BitVec.getLsbD_setWidth]
  simp
  grind

theorem elapsedTimeOf_overlay : elapsedTimeOf (p.overlay (timeCapacityData t (some c))) = t :=
  elapsedTime_bytes

theorem ica_overlay : p.overlay (timeCapacityData t (some c)) ds2438IcaRegOffset = icaOf c :=
  rfl

theorem remainingCapacity_toNat : (timeCapacityCal p).remainingCapacity.toNat =
    min ((p ds2438IcaRegOffset).toNat * 625 / 64) maxRemainingCapacityMahours.toNat := by
  rw [timeCapacityCal]
  simp only [GT.gt, UInt16.lt_iff_toNat_lt, apply_ite UInt16.toNat, mahoursOf_toNat]
  split <;> omega

theorem icaToMahours_one : icaToMahours 1 = 625 / 64 := by
  norm_num [icaToMahours, rsens]

-- A unit of the register, in whole mAh.
theorem ceil_icaToMahours_one : ⌈icaToMahours 1⌉ = 10 := by
  rw [icaToMahours_one, Int.ceil_eq_iff]
  norm_num

-- A capacity that wraps in the register comes back as less.
theorem comesBack : ComesBack t c (timeCapacityCal <| p.overlay <| timeCapacityData t (some c)) where
  elapsedTime := elapsedTimeOf_overlay
  atMost      := by
    have hwrap : 64 * c.toNat / 625 % 256 ≤ 64 * c.toNat / 625 := Nat.mod_le ..
    rw [remainingCapacity_toNat, ica_overlay, icaOf_toNat]
    omega

-- What is lost is less than a unit of the register, and the fraction behind the conversion back.
theorem isWithin_unit (hc : c < 2500) : IsWithin ⌈icaToMahours 1⌉ c
    (timeCapacityCal <| p.overlay <| timeCapacityData t (some c)) := by
  have hlt : c.toNat < 2500 := UInt16.lt_iff_toNat_lt.mp hc
  have hmax : maxRemainingCapacityMahours.toNat = 2200 := rfl
  have hica : (icaOf c).toNat = 64 * c.toNat / 625 := by
    rw [icaOf_toNat, Nat.mod_eq_of_lt (by omega)]
  have hclose : min c.toNat 2200 ≤ min (64 * c.toNat / 625 * 625 / 64) 2200 + 10 := by
    omega
  rw [IsWithin, remainingCapacity_toNat, ica_overlay, hica, hmax, ceil_icaToMahours_one]
  change _ ≤ _ + ((10 : ℕ) : ℚ)
  exact_mod_cast hclose

theorem userDataPage_ne {block : BlockNumber} : userDataPage block ≠ ds2438EtmIcaOffsetPage := by
  intro h
  have hlt : block.1.toNat < 4 := UInt8.lt_iff_toNat_lt.mp block.2
  have hpage : (ds2438FirstUserDataPage + block.1).toNat = 1 :=
    congrArg (fun page => UInt8.toNat page.1) h
  rw [UInt8.toNat_add] at hpage
  change (3 + block.1.toNat) % 2 ^ 8 = 1 at hpage
  omega

-- The shadow does not matter for the page that is read.
theorem writeTimeCapacityDS2438_traces {remainingCapacity : Option UInt16} {writeShadow : Bool} :
    Traces m (writeTimeCapacityDS2438 t remainingCapacity writeShadow) fun calls success _ =>
      ∃ s rest, calls = ⟨.writeNVPageDS2438 ds2438EtmIcaOffsetPage
          ⟨timeCapacityData t remainingCapacity, length_timeCapacityData ..⟩, s⟩ :: rest ∧
        (∀ x ∈ rest, ¬Chip.MayWrite ds2438EtmIcaOffsetPage x.1) ∧ (success = true → s = true) := by
  refine .bind <| .call fun s => .ite (fun h => .call fun s' => ?_) fun h => .pure ?_
  case refine_1 =>
    refine ⟨s, _, rfl, ?_, fun _ => (Bool.and_eq_true_iff.mp h).left⟩
    simp [Chip.MayWrite, userDataPage_ne]
  case refine_2 => exact ⟨s, [], rfl, nofun, id⟩

theorem readTimeCapacityCalDS2438_traces {writeShadow : Bool} :
    Traces m (readTimeCapacityCalDS2438 writeShadow) fun calls r _ =>
      ∃ read rest, calls = ⟨.readNVPageDS2438 ds2438EtmIcaOffsetPage, read⟩ :: rest ∧
        r.2 = Option.map timeCapacityCal read ∧ (r.1 = true → read ≠ none) := by
  refine .bind <| .call fun read => ?_
  cases read
  case none => exact .pure ⟨none, [], rfl, rfl, nofun⟩
  case some buffer =>
    refine .bind <| .ite (fun _ => .call fun success => .pure ?_) fun _ => .pure <| .pure ?_
    case refine_1 => exact ⟨some buffer, _, rfl, rfl, nofun⟩
    case refine_2 => exact ⟨some buffer, _, rfl, rfl, nofun⟩

theorem writeAndReadTimeCapacity_traces {writeShadow writeShadow' : Bool} :
    Traces m (writeAndReadTimeCapacity t c writeShadow writeShadow') fun calls r _ =>
      ∀ d d', Evolves Chip.Acts d calls d' → r.1 = true → r.2.1 = true →
        ∃ p : Page, r.2.2 = some (timeCapacityCal <| p.overlay <| timeCapacityData t (some c)) := by
  refine .bind <| writeTimeCapacityDS2438_traces.mono fun calls written _ ⟨s, rest, hc, hr, hs⟩ =>
    .bind <| readTimeCapacityCalDS2438_traces.mono fun calls' r _ ⟨read, rest', hc', he, hn⟩ =>
      .pure fun d d' hd hw hsuccess => ?_
  subst hc
  subst hc'
  obtain rfl : s = true := hs hw
  have ⟨d₁, h₁, hd₁⟩ := Evolves.cons_iff.mp hd
  have ⟨d₂, h₂, hd₂⟩ := Evolves.append_iff.mp hd₁
  have ⟨d₃, h₃, _⟩ := Evolves.cons_iff.mp hd₂
  have ⟨mem, hmem⟩ := Option.ne_none_iff_exists'.mp <| hn hsuccess
  refine ⟨d.scratchpad ds2438EtmIcaOffsetPage, he.trans ?_⟩
  rw [hmem, (h₃.right.right mem hmem).left, Chip.memory_kept h₂ hr, h₁.writeNVPage_memory]
  rfl

-- Of a capacity that fits into the register, not more than a unit is lost, in whole mAh.
theorem time_capacity_comes_back (env : Ds2438Environment) (w : Ds2438World) (elapsedTime : UInt32)
    (remainingCapacity : UInt16) (writeShadow writeShadow' : Bool) :
    ∃ written success reading w' calls,
      writeAndReadTimeCapacity elapsedTime remainingCapacity writeShadow writeShadow' env w =
        some ((written, success, reading), w') ∧
      w'.history = w.history ++ calls ∧ ∀ d d', Evolves Chip.Acts d calls d' →
        written = true → success = true → ∃ r, reading = some r ∧
          ComesBack elapsedTime remainingCapacity r ∧
          (remainingCapacity < 2500 → IsWithin ⌈icaToMahours 1⌉ remainingCapacity r) := by
  have ⟨calls, ⟨written, success, reading⟩, m', hr, _, hp⟩ :=
    @writeAndReadTimeCapacity_traces elapsedTime remainingCapacity () writeShadow writeShadow' env
      w.history
  refine ⟨written, success, reading, _, calls, hr, rfl, fun d d' hd hw hs => ?_⟩
  have ⟨p, he⟩ := hp d d' hd hw hs
  exact ⟨_, he, comesBack, isWithin_unit⟩

def blankChip : Chip where
  scratchpad _ _ := 0
  memory _ _     := 0

-- On such a device, the two operations succeed.
theorem writeAndReadTimeCapacity_blankChip :
    (writeAndReadTimeCapacity t c false false (behaviour Chip.respond blankChip) ⟨(), []⟩).map
      (fun r => (r.1.1, r.1.2.1)) = some (true, true) :=
  rfl

-- On any device, the two come back, and not more than `slack` of the capacity is lost.
def RoundTrips (slack : ℚ) (remainingCapacity : UInt16) : Prop :=
  ∀ (env : Ds2438Environment) (w : Ds2438World) (elapsedTime : UInt32)
    (writeShadow writeShadow' : Bool), ∃ written success reading w' calls,
    writeAndReadTimeCapacity elapsedTime remainingCapacity writeShadow writeShadow' env w =
      some ((written, success, reading), w') ∧
    w'.history = w.history ++ calls ∧ ∀ d d', Evolves Chip.Acts d calls d' →
      written = true → success = true → ∃ r, reading = some r ∧
        ComesBack elapsedTime remainingCapacity r ∧ IsWithin slack remainingCapacity r

theorem RoundTrips.isWithin {slack : ℚ} (h : RoundTrips slack c) :
    ∃ p : Page, IsWithin slack c (timeCapacityCal <| p.overlay <| timeCapacityData 0 (some c)) := by
  have ⟨written, success, reading, w', calls, hr, hh, hb⟩ :=
    h (behaviour Chip.respond blankChip) ⟨(), []⟩ 0 false false
  have hrun := @writeAndReadTimeCapacity_blankChip 0 c
  rw [hr, Option.map_some, Option.some.injEq, Prod.mk.injEq] at hrun
  have ⟨ha, hp⟩ := writeAndReadTimeCapacity_traces.result hr hh
  have hd := ha.evolves Chip.respond_acts
  have ⟨r, hreading, _, hback⟩ := hb _ _ hd hrun.left hrun.right
  have ⟨p, hreading'⟩ := hp _ _ hd hrun.left hrun.right
  obtain rfl := Option.some.inj <| hreading.symm.trans hreading'
  exact ⟨p, hback⟩

-- The fraction that is lost on the way back is too much for 19 mAh, and 2500 mAh wrap to nothing.
theorem time_capacity_not_within_unit :
    ¬RoundTrips (icaToMahours 1) 19 ∧ ¬RoundTrips ⌈icaToMahours 1⌉ 2500 := by
  have hmax : maxRemainingCapacityMahours.toNat = 2200 := rfl
  constructor
  case left =>
    intro h
    have ⟨p, hp⟩ := h.isWithin
    have hc : (19 : UInt16).toNat = 19 := rfl
    rw [IsWithin, icaToMahours_one, remainingCapacity_toNat, ica_overlay, icaOf_toNat, hmax, hc] at hp
    norm_num at hp
  case right =>
    intro h
    have ⟨p, hp⟩ := h.isWithin
    have hc : (2500 : UInt16).toNat = 2500 := rfl
    rw [IsWithin, ceil_icaToMahours_one, remainingCapacity_toNat, ica_overlay, icaOf_toNat, hmax,
      hc] at hp
    norm_num at hp

end RoboOne.OneWire
