import Mathlib.Data.List.GetD
import RoboOne.OneWire.Pages
import RoboOne.OneWire.TimeCapacity

namespace RoboOne.OneWire

open Interaction

def readNVUserDataDS2438 (block : BlockNumber) : Ds2438Program (Option Page) :=
  readNVPageDS2438 (userDataPage block)

-- What is written has the layout of the shadow itself, with its capacity clamped.
def initTimeCapacityDS2438 : Ds2438Program Bool := do
  match ← readNVUserDataDS2438 ds2438UserDataEtmIcaPage with
  | none        => return false
  | some buffer =>
    let shadowElapsedTime := elapsedTimeOf buffer
    let (success, reading) ← readTimeCapacityCalDS2438 false
    match reading with
    | none          => return success
    | some reading =>
      if success && shadowElapsedTime > reading.elapsedTime then
        writeNVPageDS2438 ds2438EtmIcaOffsetPage (shadowData buffer)
      else
        return success

-- The user block with the shadow, and the page with the volatile values.
def Chip.shadow (d : Chip) : Page :=
  d.memory (userDataPage ds2438UserDataEtmIcaPage)

def Chip.volatile (d : Chip) : Page :=
  d.memory ds2438EtmIcaOffsetPage

-- If the shadow is more recent than the volatile values, then they are those of the shadow afterwards.
-- Nothing else is changed.
structure Restored (d d' : Chip) : Prop where
  elapsedTime : elapsedTimeOf d'.volatile =
    if elapsedTimeOf d.shadow > elapsedTimeOf d.volatile then elapsedTimeOf d.shadow
    else elapsedTimeOf d.volatile
  ica         : d'.volatile ds2438IcaRegOffset =
    if elapsedTimeOf d.shadow > elapsedTimeOf d.volatile then
      min (d.shadow ds2438IcaRegOffset) (icaOf maxRemainingCapacityMahours)
    else d.volatile ds2438IcaRegOffset
  calibration : ∀ i, ds2438CalRegOffset ≤ i → d'.volatile i = d.volatile i
  others      : ∀ page, page ≠ ds2438EtmIcaOffsetPage → d'.memory page = d.memory page

variable {m : Unit} {ica : UInt8} {p buffer : Page} {d d' : Chip}

theorem mahoursOf_gt_iff :
    mahoursOf ica > maxRemainingCapacityMahours ↔ ¬ica ≤ icaOf maxRemainingCapacityMahours := by
  have hmax : maxRemainingCapacityMahours.toNat = 2200 := rfl
  rw [gt_iff_lt, UInt16.lt_iff_toNat_lt, UInt8.le_iff_toNat_le, mahoursOf_toNat, icaOf_toNat, hmax]
  omega

-- The clamp in mAh is one in the units of the register.
theorem clamp_eq_min : (if mahoursOf ica > maxRemainingCapacityMahours then
    icaOf maxRemainingCapacityMahours else ica) = min ica (icaOf maxRemainingCapacityMahours) := by
  simp only [mahoursOf_gt_iff, ite_not]
  rfl

theorem elapsedTimeOf_overlay_shadowData :
    elapsedTimeOf (p.overlay (shadowData buffer)) = elapsedTimeOf buffer :=
  rfl

theorem ica_overlay_shadowData : p.overlay (shadowData buffer) ds2438IcaRegOffset =
    min (buffer ds2438IcaRegOffset) (icaOf maxRemainingCapacityMahours) :=
  clamp_eq_min

theorem calibration_overlay_shadowData {i : Fin ds2438NumBytesInPage} (hi : ds2438CalRegOffset ≤ i) :
    p.overlay (shadowData buffer) i = p i :=
  List.getD_eq_default _ _ hi

-- The page is in the scratchpad before the write, which changes only a part of it.
theorem restored_of_write {d₁ d₂ d₃ : Chip}
    (h₁ : d.Acts (.readNVPageDS2438 (userDataPage ds2438UserDataEtmIcaPage)) (some buffer) d₁)
    (h₂ : d₁.Acts (.readNVPageDS2438 ds2438EtmIcaOffsetPage) (some p) d₂)
    (h₃ : d₂.Acts (.writeNVPageDS2438 ds2438EtmIcaOffsetPage (shadowData buffer)) true d₃)
    (hnewer : elapsedTimeOf buffer > elapsedTimeOf p) : Restored d d₃ := by
  have hshadow : buffer = d.shadow := (h₁.right.right buffer rfl).left
  have ⟨hp, hscratchpad⟩ := h₂.right.right p rfl
  have hvolatile : p = d.volatile := hp.trans <| congrFun h₁.readNVPage_memory _
  have hwritten : d₃.volatile = p.overlay (shadowData buffer) := by
    rw [Chip.volatile, h₃.writeNVPage_memory, hscratchpad]
  rw [hshadow, hvolatile] at hwritten hnewer
  constructor
  case elapsedTime => rw [hwritten, elapsedTimeOf_overlay_shadowData, if_pos hnewer]
  case ica         => rw [hwritten, ica_overlay_shadowData, if_pos hnewer]
  case calibration => exact fun i hi => hwritten ▸ calibration_overlay_shadowData hi
  case others      =>
    intro page hpage
    rw [h₃.writeNVPage_other hpage, h₂.readNVPage_memory, h₁.readNVPage_memory]

-- Two reads change nothing in the memory.
theorem restored_of_reads {d₁ d₂ : Chip}
    (h₁ : d.Acts (.readNVPageDS2438 (userDataPage ds2438UserDataEtmIcaPage)) (some buffer) d₁)
    (h₂ : d₁.Acts (.readNVPageDS2438 ds2438EtmIcaOffsetPage) (some p) d₂)
    (hnewer : ¬elapsedTimeOf buffer > elapsedTimeOf p) : Restored d d₂ := by
  have hmemory : d₂.memory = d.memory := h₂.readNVPage_memory.trans h₁.readNVPage_memory
  have hshadow : buffer = d.shadow := (h₁.right.right buffer rfl).left
  have hvolatile : p = d.volatile :=
    (h₂.right.right p rfl).left.trans <| congrFun h₁.readNVPage_memory _
  have hkept : d₂.volatile = d.volatile := congrFun hmemory _
  rw [hshadow, hvolatile] at hnewer
  constructor
  case elapsedTime => rw [hkept, if_neg hnewer]
  case ica         => rw [hkept, if_neg hnewer]
  case calibration => exact fun _ _ => congrFun hkept _
  case others      => exact fun _ _ => congrFun hmemory _

theorem readTimeCapacityCalDS2438_unshadowed :
    Traces m (readTimeCapacityCalDS2438 false) fun calls r _ => ∃ read,
      calls = [⟨.readNVPageDS2438 ds2438EtmIcaOffsetPage, read⟩] ∧
        r = (Option.isSome read, Option.map timeCapacityCal read) := by
  refine .bind <| .call fun read => ?_
  cases read
  case none   => exact .pure ⟨none, rfl, rfl⟩
  case some p => exact .bind <| .pure <| .pure ⟨some p, rfl, rfl⟩

theorem initTimeCapacityDS2438_traces :
    Traces m initTimeCapacityDS2438 fun calls success _ =>
      ∀ d d', Evolves Chip.Acts d calls d' → success = true → Restored d d' := by
  refine .bind <| .call fun shadow => ?_
  cases shadow
  case none        => exact .pure nofun
  case some buffer =>
    refine .bind <| readTimeCapacityCalDS2438_unshadowed.mono fun calls r _ hr => ?_
    obtain ⟨read, hc, hr⟩ := hr
    subst hc
    subst hr
    cases read
    case none   => exact .pure nofun
    case some p =>
      refine .ite (fun h => .call fun success => ?_) fun h => .pure ?_
      case refine_1 =>
        intro d d' hd hs
        obtain rfl : success = true := hs
        obtain ⟨d₁, h₁, hd₁⟩ := Evolves.cons_iff.mp hd
        obtain ⟨d₂, h₂, hd₂⟩ := Evolves.cons_iff.mp hd₁
        obtain ⟨d₃, h₃, hd₃⟩ := Evolves.cons_iff.mp hd₂
        obtain rfl := Evolves.nil_iff.mp hd₃
        exact restored_of_write h₁ h₂ h₃ (by simpa [timeCapacityCal] using h)
      case refine_2 =>
        intro d d' hd _
        obtain ⟨d₁, h₁, hd₁⟩ := Evolves.cons_iff.mp hd
        obtain ⟨d₂, h₂, hd₂⟩ := Evolves.cons_iff.mp hd₁
        obtain rfl := Evolves.nil_iff.mp hd₂
        exact restored_of_reads h₁ h₂ (by simpa [timeCapacityCal] using h)

-- On the device on which everything succeeds, so does the restore.
theorem initTimeCapacityDS2438_respond (d : Chip) : ∃ w,
    initTimeCapacityDS2438 (behaviour Chip.respond d) ⟨(), []⟩ = some (true, w) := by
  let write := writeNVPageDS2438 ds2438EtmIcaOffsetPage (shadowData d.shadow)
  have hreads : initTimeCapacityDS2438 (behaviour Chip.respond d) ⟨(), []⟩ =
      (if true && elapsedTimeOf d.shadow > elapsedTimeOf d.volatile then write else return true)
        (behaviour Chip.respond d)
        ⟨(), [⟨.readNVPageDS2438 (userDataPage ds2438UserDataEtmIcaPage), some d.shadow⟩,
          ⟨.readNVPageDS2438 ds2438EtmIcaOffsetPage, some d.volatile⟩]⟩ :=
    rfl
  rw [hreads]
  split
  case isTrue  => exact ⟨_, rfl⟩
  case isFalse => exact ⟨_, rfl⟩

-- So it is on a bus, with a device that keeps to its commands.
theorem time_capacity_restored (env : Environment BusCall.Answer)
    (w : World BusCall.Answer Unit) : ∃ success w' calls,
      pages.inline initTimeCapacityDS2438 env w = some (success, w') ∧
      w'.history = w.history ++ calls ∧
      ∀ d d', Evolves Chip.Responds d calls d' → success = true → Restored d d' := by
  have ⟨low, success, m', hr, _, calls, hq, he⟩ :=
    traces_on_bus (@initTimeCapacityDS2438_traces w.memory) env w.history
  exact ⟨success, _, low, hr, rfl, fun d d' hd => hq d d' (he d d' hd)⟩

end RoboOne.OneWire
