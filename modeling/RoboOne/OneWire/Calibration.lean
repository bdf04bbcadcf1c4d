import RoboOne.OneWire.Config
import RoboOne.OneWire.Units

namespace RoboOne.OneWire

open Interaction

def rawCurrent (buffer : Page) : Int16 :=
  (buffer.uint16 ds2438CurrentRegOffset).toInt16

def readRawCurrentDS2438 : Ds2438Program (Option Int16) := do
  let buffer ← readNVPageDS2438 ds2438ConfigPage
  return buffer.map rawCurrent

-- The registers in front of the offset are zeroed.
def calData (offsetCal : Int16) : PageData :=
  ⟨[0, 0, 0, 0, 0, offsetCal.toUInt16.toUInt8, (offsetCal >>> 8).toUInt16.toUInt8],
    (by decide : 7 ≤ ds2438NumBytesInPage)⟩

def writeNVCalDS2438 (offsetCal : Int16) : Ds2438Program Bool :=
  writeNVPageDS2438 ds2438EtmIcaOffsetPage (calData offsetCal)

-- The two's complement of the current without the bit that the offset register has not got.
def newOffset (current : Int16) : Int16 :=
  let current := current * -1
  let current := if current < 0 then current ||| 0x02 else current &&& ~~~0x02
  current <<< 3

def performCalDS2438 : Ds2438Program (Bool × Option Int16) := do
  if ← writeNVCalDS2438 0 then
    match ← readRawCurrentDS2438 with
    | none         => return (false, none)
    | some current =>
      match ← readNVConfigThresholdDS2438 with
      | none                   => return (false, none)
      | some (storedConfig, _) =>
        let iadWasEnabled := iadIsEnabled storedConfig
        let success ← (if iadWasEnabled then
            writeNVConfigDS2438 (storedConfig &&& ~~~ds2438IadIsEnabled)
          else pure true)
        if success then
          let success ← writeNVCalDS2438 (newOffset current)
          let pOffsetCal := currentOf (newOffset current)
          let success ← (if iadWasEnabled then writeNVConfigDS2438 storedConfig else pure success)
          return (success, some pOffsetCal)
        else
          return (false, none)
  else
    return (false, none)

def Chip.iadIsEnabled (d : Chip) : Bool :=
  OneWire.iadIsEnabled (d.memory ds2438ConfigPage ds2438ConfigRegOffset)

def Chip.offsetCal (d : Chip) : Int16 :=
  ((d.memory ds2438EtmIcaOffsetPage).uint16 ds2438CalRegOffset).toInt16

-- The current that the calibration goes by.
def currentRead (h : Ds2438History) : Option Int16 :=
  (reads h).head?.join.map rawCurrent

-- A success says that the offset has been written, and whatever happens, the current is measured
-- afterwards if and only if it was before, but for a failure to write the configuration.
structure Calibrated (d d' : Chip) (success : Bool) (calls : Ds2438History) : Prop where
  offset : success = true → ∃ current, currentRead calls = some current ∧
    (pageWrites ds2438EtmIcaOffsetPage calls).getLast? = some (calData (newOffset current), true) ∧
    d'.offsetCal = newOffset current
  iad    : (∀ w ∈ (pageWrites ds2438ConfigPage calls).getLast?, w.2 = true) →
    d'.iadIsEnabled = d.iadIsEnabled

-- The calls of a calibration, by where it ends.
inductive CalibrationCalls : Ds2438History → Bool → Prop
  | zero : CalibrationCalls [⟨.writeNVPageDS2438 ds2438EtmIcaOffsetPage (calData 0), false⟩] false
  | current : CalibrationCalls [⟨.writeNVPageDS2438 ds2438EtmIcaOffsetPage (calData 0), true⟩,
    ⟨.readNVPageDS2438 ds2438ConfigPage, none⟩] false
  | config {p : Page} : CalibrationCalls
    [⟨.writeNVPageDS2438 ds2438EtmIcaOffsetPage (calData 0), true⟩,
      ⟨.readNVPageDS2438 ds2438ConfigPage, some p⟩,
      ⟨.readNVPageDS2438 ds2438ConfigPage, none⟩] false
  | idle {p stored : Page} {success} :
    iadIsEnabled (stored ds2438ConfigRegOffset) = false → CalibrationCalls
      [⟨.writeNVPageDS2438 ds2438EtmIcaOffsetPage (calData 0), true⟩,
        ⟨.readNVPageDS2438 ds2438ConfigPage, some p⟩,
        ⟨.readNVPageDS2438 ds2438ConfigPage, some stored⟩,
        ⟨.writeNVPageDS2438 ds2438EtmIcaOffsetPage (calData <| newOffset <| rawCurrent p), success⟩]
      success
  | disable {p stored : Page} {temp} :
    iadIsEnabled (stored ds2438ConfigRegOffset) = true → CalibrationCalls
      [⟨.writeNVPageDS2438 ds2438EtmIcaOffsetPage (calData 0), true⟩,
        ⟨.readNVPageDS2438 ds2438ConfigPage, some p⟩,
        ⟨.readNVPageDS2438 ds2438ConfigPage, some stored⟩,
        ⟨.writeNVPageDS2438 ds2438ConfigPage temp, false⟩]
      false
  | measuring {p stored : Page} {temp written back} :
    iadIsEnabled (stored ds2438ConfigRegOffset) = true → CalibrationCalls
      [⟨.writeNVPageDS2438 ds2438EtmIcaOffsetPage (calData 0), true⟩,
        ⟨.readNVPageDS2438 ds2438ConfigPage, some p⟩,
        ⟨.readNVPageDS2438 ds2438ConfigPage, some stored⟩,
        ⟨.writeNVPageDS2438 ds2438ConfigPage temp, true⟩,
        ⟨.writeNVPageDS2438 ds2438EtmIcaOffsetPage (calData <| newOffset <| rawCurrent p), written⟩,
        ⟨.writeNVPageDS2438 ds2438ConfigPage (.byte <| stored ds2438ConfigRegOffset), back⟩]
      back

variable {calls : Ds2438History} {success : Bool} {d d' : Chip} {m : Unit} {offsetCal : Int16}

theorem writeNVCalDS2438_traces {Q : Ds2438History → Bool → Unit → Prop}
    (h : ∀ success, Q
      [⟨.writeNVPageDS2438 ds2438EtmIcaOffsetPage (calData offsetCal), success⟩] success m) :
    Traces m (writeNVCalDS2438 offsetCal) Q :=
  .call h

theorem readRawCurrentDS2438_traces {Q : Ds2438History → Option Int16 → Unit → Prop}
    (h : ∀ read, Q [⟨.readNVPageDS2438 ds2438ConfigPage, read⟩] (Option.map rawCurrent read) m) :
    Traces m readRawCurrentDS2438 Q :=
  .bind <| .call fun read => .pure <| h read

theorem performCalDS2438_traces :
    Traces () performCalDS2438 fun calls r _ => CalibrationCalls calls r.1 := by
  refine .bind <| writeNVCalDS2438_traces fun zero => .ite (fun h => ?_) fun h => .pure ?_
  case refine_2 =>
    rw [Bool.not_eq_true] at h
    exact h ▸ .zero
  subst h
  refine .bind <| readRawCurrentDS2438_traces fun read => ?_
  cases read
  case none => exact .pure .current
  case some p =>
    refine .bind <| readNVConfigThresholdDS2438_traces fun read => ?_
    cases read
    case none => exact .pure .config
    case some stored =>
      cases hs : iadIsEnabled (stored ds2438ConfigRegOffset)
      case false =>
        simp only [Option.map_some, hs, Bool.false_eq_true, if_false]
        refine .bind <| .pure <| .bind <| writeNVCalDS2438_traces fun success => .bind <| .pure <|
          .pure ?_
        exact .idle hs
      case true =>
        simp only [Option.map_some, hs, if_true]
        refine .bind <| writeNVConfigDS2438_traces fun disabled =>
          .ite (fun h => ?_) fun h => .pure ?_
        case refine_2 =>
          rw [Bool.not_eq_true] at h
          exact h ▸ .disable hs
        case refine_1 =>
          subst h
          refine .bind <| writeNVCalDS2438_traces fun written => .bind <|
            writeNVConfigDS2438_traces fun back => .pure ?_
          exact .measuring hs

-- The register is made of the two bytes again.
theorem toInt16_offsetCal : (offsetCal.toUInt16.toUInt8.toUInt16 |||
    (offsetCal >>> 8).toUInt16.toUInt8.toUInt16 <<< 8).toInt16 = offsetCal := by
  rw [← Int16.toBitVec_inj]
  apply BitVec.eq_of_getLsbD_eq
  intro i hi
  simp only [Int16.toBitVec_shiftRight, UInt16.toBitVec_toInt16, UInt16.toBitVec_or,
    UInt8.toBitVec_toUInt16, UInt16.toBitVec_toUInt8, Int16.toBitVec_toUInt16,
    UInt16.toBitVec_shiftLeft, BitVec.getLsbD_or, BitVec.getLsbD_setWidth]
  simp
  grind

theorem offsetCal_of_written {success : Bool} (hs : success = true)
    (hd : d.Acts (.writeNVPageDS2438 ds2438EtmIcaOffsetPage (calData offsetCal)) success d') :
    d'.offsetCal = offsetCal := by
  subst hs
  rw [Chip.offsetCal, hd.writeNVPage_memory]
  exact toInt16_offsetCal

theorem Chip.iadIsEnabled_congr (h : d'.memory ds2438ConfigPage = d.memory ds2438ConfigPage) :
    d'.iadIsEnabled = d.iadIsEnabled := by
  rw [Chip.iadIsEnabled, Chip.iadIsEnabled, h]

-- A calibration is what it is to be unless the failure to write the offset is lost.
theorem CalibrationCalls.calibrated_iff_writes (hc : CalibrationCalls calls success)
    (hd : Evolves Chip.Acts d calls d') :
    Calibrated d d' success calls ↔ writes calls ≠ [true, true, false, true] := by
  have hother : ds2438EtmIcaOffsetPage ≠ ds2438ConfigPage := by decide
  have hkept (hw : ∀ x ∈ calls, ¬Chip.MayWrite ds2438ConfigPage x.1) :
      d'.iadIsEnabled = d.iadIsEnabled :=
    Chip.iadIsEnabled_congr <| Chip.memory_kept hd hw
  cases hc
  case zero =>
    refine iff_of_true ⟨nofun, fun _ => hkept ?_⟩ (by simp [writes])
    simp [Chip.MayWrite, hother]
  case current =>
    refine iff_of_true ⟨nofun, fun _ => hkept ?_⟩ (by simp [writes])
    simp [Chip.MayWrite, hother]
  case config p =>
    refine iff_of_true ⟨nofun, fun _ => hkept ?_⟩ (by simp [writes])
    simp [Chip.MayWrite, hother]
  case idle p stored hs =>
    refine iff_of_true ⟨?_, fun _ => hkept ?_⟩ (by simp [writes])
    case refine_1 =>
      rintro rfl
      simp only [Evolves.cons_iff, Evolves.nil_iff] at hd
      have ⟨d₁, _, d₂, _, d₃, _, d₄, h₄, he⟩ := hd
      subst he
      exact ⟨_, rfl, rfl, offsetCal_of_written rfl h₄⟩
    case refine_2 => simp [Chip.MayWrite, hother]
  case disable p stored temp hs =>
    exact iff_of_true ⟨nofun, fun h => absurd (h _ rfl) Bool.false_ne_true⟩ (by simp [writes])
  case measuring p stored temp written hs =>
    simp only [Evolves.cons_iff, Evolves.nil_iff] at hd
    have ⟨d₁, h₁, d₂, h₂, d₃, h₃, d₄, _, d₅, h₅, d₆, h₆, he⟩ := hd
    subst he
    have hstored : stored = d.memory ds2438ConfigPage := by
      rw [(h₃.right.right _ rfl).left, h₂.readNVPage_memory, h₁.writeNVPage_other hother.symm]
    have hiad (hb : success = true) : d'.iadIsEnabled = d.iadIsEnabled := by
      rw [Chip.iadIsEnabled, (memory_of_back hb h₆).left, hstored]
      rfl
    change _ ↔ [true, true, (written : Bool), success] ≠ [true, true, false, true]
    constructor
    case mp =>
      intro h he
      obtain ⟨rfl, rfl⟩ : (written : Bool) = false ∧ success = true := by simpa using he
      have ⟨_, _, hlast, _⟩ := h.offset rfl
      exact Bool.false_ne_true <| congrArg Prod.snd <| Option.some.inj hlast
    case mpr =>
      refine fun h => ⟨?_, fun hb => hiad (hb _ rfl)⟩
      rintro rfl
      obtain rfl : (written : Bool) = true := by simpa using h
      refine ⟨_, rfl, rfl, ?_⟩
      rw [Chip.offsetCal, h₆.writeNVPage_other hother]
      exact offsetCal_of_written rfl h₅

theorem calibrated_iff (env : Ds2438Environment) (w : Ds2438World) :
    ∃ success pOffsetCal w' calls, performCalDS2438 env w = some ((success, pOffsetCal), w') ∧
      w'.history = w.history ++ calls ∧ ∀ d d', Evolves Chip.Acts d calls d' →
        (Calibrated d d' success calls ↔ writes calls ≠ [true, true, false, true]) := by
  have ⟨calls, r, m', hr, _, hc⟩ := performCalDS2438_traces env w.history
  exact ⟨r.1, r.2, _, calls, hr, rfl, fun d d' => hc.calibrated_iff_writes⟩

-- What the device with the measurement on does if it does not take the offset.
def lossyEnvironment : Ds2438Environment :=
  fun h c => match c with
    | .writeNVPageDS2438 _ _ => decide (h.length ≠ 4)
    | c                      => (measuringChip.respond c).1

def lostCalls : Ds2438History :=
  [⟨.writeNVPageDS2438 ds2438EtmIcaOffsetPage (calData 0), true⟩,
    ⟨.readNVPageDS2438 ds2438ConfigPage, some fun _ => ds2438IadIsEnabled⟩,
    ⟨.readNVPageDS2438 ds2438ConfigPage, some fun _ => ds2438IadIsEnabled⟩,
    ⟨.writeNVPageDS2438 ds2438ConfigPage (.byte 0), true⟩,
    ⟨.writeNVPageDS2438 ds2438EtmIcaOffsetPage <|
      calData <| newOffset <| rawCurrent fun _ => ds2438IadIsEnabled, false⟩,
    ⟨.writeNVPageDS2438 ds2438ConfigPage (.byte ds2438IadIsEnabled), true⟩]

theorem performCalDS2438_lossyEnvironment :
    (performCalDS2438 lossyEnvironment ⟨(), []⟩).map (fun r => (r.1.1, r.2.history)) =
      some (true, lostCalls) :=
  rfl

theorem lostCalls_evolve : ∃ d', Evolves Chip.Acts measuringChip lostCalls d' :=
  ⟨_, .cons (Chip.respond_acts _ _) <| .cons (Chip.respond_acts _ _) <|
    .cons (Chip.respond_acts _ _) <| .cons (Chip.respond_acts _ _) <|
    .cons ⟨.refl, nofun⟩ <| .cons (Chip.respond_acts _ _) .nil⟩

theorem not_calibrated : ¬∀ (env : Ds2438Environment) (w : Ds2438World),
    ∃ success pOffsetCal w' calls, performCalDS2438 env w = some ((success, pOffsetCal), w') ∧
      w'.history = w.history ++ calls ∧ ∀ d d', Evolves Chip.Acts d calls d' →
        Calibrated d d' success calls := by
  intro h
  have ⟨success, pOffsetCal, w', calls, hr, hh, hc⟩ := h lossyEnvironment ⟨(), []⟩
  have hrun := performCalDS2438_lossyEnvironment
  rw [hr, Option.map_some, Option.some.injEq, Prod.mk.injEq, hh] at hrun
  obtain ⟨rfl, rfl⟩ : success = true ∧ calls = lostCalls := hrun
  have ⟨d', hd⟩ := lostCalls_evolve
  have ⟨_, _, hlast, _⟩ := (hc _ _ hd).offset rfl
  exact Bool.false_ne_true <| congrArg Prod.snd <| Option.some.inj hlast

end RoboOne.OneWire
