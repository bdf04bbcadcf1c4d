import RoboOne.OneWire.Calibration
import RoboOne.OneWire.Voltage

namespace RoboOne.OneWire

open Interaction

def readCurrentDS2438 : Ds2438Program (Option Int16) := do
  let current ← readRawCurrentDS2438
  return current.map currentOf

-- What is put at `pVoltage` and `pCurrent`, which are not `PNULL`.
structure BatteryReading where
  voltage : UInt16
  current : Int16
deriving DecidableEq

-- Nothing is clamped here.
def batteryReading (buffer : Page) : BatteryReading where
  voltage := rawVoltage buffer * 10
  current := currentOf (rawCurrent buffer)

def acceptsBattery (config : UInt8) : Bool :=
  config &&& ~~~ds2438AdbIsBusy ≠ 0 && config ||| ds2438AdIsVdd ≠ 0

def readBatteryPass (guardCounter1 : Nat) : Ds2438Program (Bool × Option BatteryReading × Nat) := do
  match ← readSPPageDS2438 ds2438ConfigPage with
  | none        => return (false, none, guardCounter1)
  | some buffer =>
    let config := buffer ds2438ConfigRegOffset ||| ds2438AdIsVdd
    if ← writeSPPageDS2438 ds2438ConfigPage (.byte config) then
      let (success, guardCounter1) ← convertAd guardCounter1
      if success then
        match ← readNVPageDS2438 ds2438ConfigPage with
        | none        => return (false, none, guardCounter1)
        | some buffer =>
          if acceptsBattery (buffer ds2438ConfigRegOffset) then
            return (true, some (batteryReading buffer), guardCounter1)
          else
            return (true, none, guardCounter1)
      else
        return (false, none, guardCounter1)
    else
      return (false, none, guardCounter1)

def readBatteryLoop : Nat → Nat → Ds2438Program (Bool × Option BatteryReading × Nat)
  | 0, _                           => return (true, none, 0)
  | guardCounter + 1, guardCounter1 => do
    let (success, reading, guardCounter1) ← readBatteryPass guardCounter1
    if success && reading.isNone then
      readBatteryLoop guardCounter guardCounter1
    else
      return (success, reading, guardCounter)

def readBatteryDS2438 : Ds2438Program (Bool × Option BatteryReading) := do
  let (success, reading, guardCounter) ← readBatteryLoop guardCounter guardCounter
  return (success && guardCounter ≠ 0, reading)

-- The combined read returns of a page what the separate reads of the same page return.
structure AgreesWithSeparate (reading : Option BatteryReading) (page : Page) : Prop where
  voltage : ∀ env w w' calls voltage, readVddDS2438 env w = some ((true, voltage), w') →
    w'.history = w.history ++ calls → decoded calls = some page →
    voltage = reading.map BatteryReading.voltage
  current : ∀ env w w' current, readCurrentDS2438 env w = some (current, w') →
    w'.history = w.history ++ [⟨.readNVPageDS2438 ds2438ConfigPage, some page⟩] →
    current = reading.map BatteryReading.current

variable {g g₁ : Nat} {m : Unit} {page : Page} {calls : Ds2438History}

-- Both copies make the same test.
theorem acceptsBattery_eq : acceptsBattery = acceptsAd true := by
  funext config
  simp [acceptsBattery, acceptsAd]

theorem readBatteryPass_eq : readBatteryPass g₁ = onPage batteryReading <$> adPass true g₁ := by
  rw [map_adPass, readBatteryPass, acceptsBattery_eq]
  rfl

theorem readBatteryDS2438_eq : readBatteryDS2438 =
    (fun r => (r.1 && r.2.2 ≠ 0, r.2.1.map batteryReading)) <$>
      adLoop true guardCounter guardCounter := by
  have hloop : readBatteryLoop guardCounter guardCounter = _ :=
    loop_eq (fun _ => readBatteryPass_eq) (fun _ => rfl) fun _ _ => rfl
  rw [readBatteryDS2438, hloop, bind_map_left, map_eq_pure_bind]
  rfl

-- The clamp does not change what the combined read returns.
def NotClamped (page : Page) : Prop :=
  (rawVoltage page).toNat * 10 % 2 ^ 16 ≤ voltageMaxMv.toNat

theorem clampedVoltage_eq_iff :
    clampedVoltage page = (batteryReading page).voltage ↔ NotClamped page := by
  have hmax : voltageMaxMv.toNat = 10200 := rfl
  have hread : (batteryReading page).voltage.toNat = (rawVoltage page).toNat * 10 % 2 ^ 16 := by
    rw [batteryReading, UInt16.toNat_mul]
    rfl
  rw [← UInt16.toNat_inj, clampedVoltage_toNat, hread, NotClamped, hmax]
  split <;> omega

theorem readCurrentDS2438_traces : Traces m readCurrentDS2438 fun calls current _ =>
    ∃ read, calls = [⟨.readNVPageDS2438 ds2438ConfigPage, read⟩] ∧
      current = Option.map (fun p => currentOf (rawCurrent p)) read := by
  refine .bind <| readRawCurrentDS2438_traces fun read => .pure ⟨read, rfl, ?_⟩
  rw [Option.map_map]
  rfl

-- The separate read of the voltage, of a page that it takes.
theorem readVddDS2438_decoded {env : Ds2438Environment} {w w' : Ds2438World}
    {voltage : Option UInt16} (hr : readVddDS2438 env w = some ((true, voltage), w'))
    (hh : w'.history = w.history ++ calls) (hd : decoded calls = some page) :
    voltage = some (clampedVoltage page) := by
  have ⟨_, s, p, g', hl, he⟩ := readAdDS2438_traces.result hr hh
  have ⟨page', hp, ht⟩ := hl.exists_taken (Prod.mk.inj he).left.symm
  obtain rfl : page = page' := Option.some.inj <| hd.symm.trans ht.decoded
  rw [(Prod.mk.inj he).right, hp]
  rfl

theorem readCurrentDS2438_decoded {env : Ds2438Environment} {w w' : Ds2438World}
    {current : Option Int16} (hr : readCurrentDS2438 env w = some (current, w'))
    (hh : w'.history = w.history ++ [⟨.readNVPageDS2438 ds2438ConfigPage, some page⟩]) :
    current = some (batteryReading page).current := by
  have ⟨_, read, hc, he⟩ := readCurrentDS2438_traces.result hr hh
  cases hc
  exact he

theorem agreesWithSeparate_of_notClamped (h : NotClamped page) :
    AgreesWithSeparate (some (batteryReading page)) page where
  voltage _ _ _ _ _ hr hh hd := by
    rw [readVddDS2438_decoded hr hh hd, clampedVoltage_eq_iff.mpr h]
    rfl
  current _ _ _ _ hr hh := readCurrentDS2438_decoded hr hh

-- The two procedures make the same calls and have the same success. What they return is the same if and
-- only if the clamp is not needed.
theorem battery_agrees_iff (env : Ds2438Environment) (w : Ds2438World) :
    ∃ success reading voltage w' calls,
      readBatteryDS2438 env w = some ((success, reading), w') ∧
      readVddDS2438 env w = some ((success, voltage), w') ∧ w'.history = w.history ++ calls ∧
      ((success = true → ∃ page, decoded calls = some page ∧ AgreesWithSeparate reading page) ↔
        ∀ page, Taken true calls page → NotClamped page) := by
  have ⟨calls, ⟨s, p, g'⟩, m', hr, _, hl⟩ :=
    @adLoop_traces true guardCounter guardCounter () env w.history
  have hbattery : readBatteryDS2438 env w =
      some ((s && g' ≠ 0, p.map batteryReading), ⟨m', w.history ++ calls⟩) := by
    rw [readBatteryDS2438_eq, map_eq_pure_bind, bind_apply, hr]
    rfl
  have hvdd : readVddDS2438 env w =
      some ((s && g' ≠ 0, p.map clampedVoltage), ⟨m', w.history ++ calls⟩) := by
    rw [readVddDS2438, readAdDS2438_eq, map_eq_pure_bind, bind_apply, hr]
    rfl
  refine ⟨_, _, _, _, calls, hbattery, hvdd, rfl, fun h page ht => ?_, fun h hs => ?_⟩
  case refine_1 =>
    have ⟨hs, hp⟩ := hl.taken_iff.mp ht
    have ⟨page', hd, ha⟩ := h hs
    obtain rfl : page = page' := Option.some.inj <| ht.decoded.symm.trans hd
    subst hp
    rw [hs] at hvdd
    exact clampedVoltage_eq_iff.mp <| Option.some.inj <| ha.voltage _ _ _ _ _ hvdd rfl hd
  case refine_2 =>
    have ⟨page, hp, ht⟩ := hl.exists_taken hs
    subst hp
    exact ⟨page, ht.decoded, agreesWithSeparate_of_notClamped (h page ht)⟩

-- A device that reads 0 as 10.22 volts.
def stressedChip : Chip where
  scratchpad _ := Page.overlay (fun _ => 0) [ds2438AdIsVdd, 0, 0, 0xFE, 0x03]
  memory _     := Page.overlay (fun _ => 0) [ds2438AdIsVdd, 0, 0, 0xFE, 0x03]

theorem readBatteryDS2438_stressedChip :
    (readBatteryDS2438 (behaviour Chip.respond stressedChip) ⟨(), []⟩).map (fun r =>
        (r.1.1, r.1.2.map BatteryReading.voltage)) = some (true, some 10220) ∧
      (readVddDS2438 (behaviour Chip.respond stressedChip) ⟨(), []⟩).map (·.1) =
        some (true, some 0) :=
  ⟨rfl, rfl⟩

theorem battery_not_agreeing : ¬∀ (env : Ds2438Environment) (w : Ds2438World),
    ∃ success reading voltage w' calls,
      readBatteryDS2438 env w = some ((success, reading), w') ∧
      readVddDS2438 env w = some ((success, voltage), w') ∧ w'.history = w.history ++ calls ∧
      (success = true → ∃ page, decoded calls = some page ∧ AgreesWithSeparate reading page) := by
  intro h
  have ⟨success, reading, voltage, w', calls, hb, hv, hh, ha⟩ :=
    h (behaviour Chip.respond stressedChip) ⟨(), []⟩
  have ⟨hbattery, hvdd⟩ := readBatteryDS2438_stressedChip
  rw [hb, Option.map_some, Option.some.injEq, Prod.mk.injEq] at hbattery
  rw [hv, Option.map_some, Option.some.injEq, Prod.mk.injEq] at hvdd
  obtain rfl : success = true := hvdd.left
  have ⟨page, hd, hs⟩ := ha rfl
  have heq := hs.voltage _ _ _ _ _ hv hh hd
  have hne : some (0 : UInt16) ≠ some 10220 := by decide
  exact hne <| hvdd.right.symm.trans <| heq.trans hbattery.right

end RoboOne.OneWire
