import RoboOne.Hardware.OwBus

namespace RoboOne.Hardware

open Interaction Transition

-- What the ASSERT of `setAnalogueMuxInput` admits.
structure MuxInput where
  value : UInt8
  lt    : value < 8
deriving DecidableEq

inductive MuxCall
  | setAnalogueMuxInput (input : MuxInput)
  | readRioBattTemperature
  | readO1BattTemperature
  | readO2BattTemperature
  | readO3BattTemperature
deriving DecidableEq

namespace MuxCall

-- The input that the call selects.
def input : MuxCall → MuxInput
  | setAnalogueMuxInput input => input
  | readRioBattTemperature    => ⟨temperatureSensorRioBatt, by decide⟩
  | readO1BattTemperature     => ⟨temperatureSensorO1Batt, by decide⟩
  | readO2BattTemperature     => ⟨temperatureSensorO2Batt, by decide⟩
  | readO3BattTemperature     => ⟨temperatureSensorO3Batt, by decide⟩

-- The temperature, if the call reads one.
def run : MuxCall → OwProgram (Option Int)
  | setAnalogueMuxInput input => do
    let _ ← Hardware.setAnalogueMuxInput input.value
    return none
  | readRioBattTemperature    => Hardware.readRioBattTemperature
  | readO1BattTemperature     => Hardware.readO1BattTemperature
  | readO2BattTemperature     => Hardware.readO2BattTemperature
  | readO3BattTemperature     => Hardware.readO3BattTemperature

end MuxCall

def muxStep (env : Environment OwCall.Answer) (w : OwWorld) (c : MuxCall) : Option OwWorld :=
  exec c.run env w

-- The last value that has been written to the general purpose PIO.
def lastWritten (h : History OwCall.Answer) : Option UInt8 :=
  h.reverse.findSome? fun
    | ⟨.channelAccessWriteDS2408 .generalPurpose data, _⟩ => some data
    | _                                                   => none

-- The address that the mux gets from the pins.
def muxAddress (pinsState : UInt8) : UInt8 :=
  (pinsState &&& (muxA0 ||| muxA1 ||| muxA2)) >>> muxShift

-- The mux is enabled, and connects the given input.
def Connects (pinsState input : UInt8) : Prop :=
  muxAddress pinsState = input ∧ pinsState &&& muxEnableBar = 0

-- The pins that have nothing to do with the mux.
def otherPins (pinsState : UInt8) : UInt8 :=
  pinsState &&& ~~~(muxA0 ||| muxA1 ||| muxA2 ||| muxEnableBar)

-- The state of the pins that `setAnalogueMuxInput` reads at its entry.
def entryPins (env : Environment OwCall.Answer) (w : OwWorld) : Option UInt8 :=
  env w.history (.readPIOLogicStateDS2408 .generalPurpose)

-- If `setAnalogueMuxInput` succeeds, its last write connects the input, and leaves the other pins as
-- they were. If a temperature is read, then with the input of its sensor connected.
structure Selected (env : Environment OwCall.Answer) (w : OwWorld) (c : MuxCall) : Prop where
  handled  : (muxStep env w c).isSome
  selects  : ∀ w', setAnalogueMuxInput c.input.value env w = some (true, w') →
    ∃ entry data, entryPins env w = some entry ∧ lastWritten w'.history = some data ∧
      Connects data c.input.value ∧ otherPins data = otherPins entry
  samples  : ∀ t w', c.run env w = some (some t, w') → ∃ h voltage data,
    w'.history = h ++ [⟨.readVadDS2438, some voltage⟩] ∧ t = mvToC voltage ∧
      lastWritten h = some data ∧ Connects data c.input.value

-- The three values that `setAnalogueMuxInput` writes.
def muxWrites (input pinsState : UInt8) : List UInt8 :=
  [pinsState ||| muxEnableBar,
    (pinsState ||| muxEnableBar) &&& ~~~(muxA0 ||| muxA1 ||| muxA2) |||
      input <<< muxShift &&& (muxA0 ||| muxA1 ||| muxA2),
    (pinsState ||| muxEnableBar) &&& ~~~muxEnableBar]

-- The device takes all values, one after the other.
def Accepts (env : Environment OwCall.Answer) : History OwCall.Answer → List UInt8 → Prop
  | _, []            => True
  | h, data :: datas => ∃ readBack,
    env h (.channelAccessWriteDS2408 .generalPurpose data) = some readBack ∧
      Accepts env (h ++ [⟨.channelAccessWriteDS2408 .generalPurpose data, some readBack⟩]) datas

-- What has been asked when all pins have been read.
def readHistory (env : Environment OwCall.Answer) (h : History OwCall.Answer) :
    List Pio → History OwCall.Answer
  | []      => h
  | d :: ds =>
    readHistory env (h ++ [⟨.readPIOLogicStateDS2408 d, env h (.readPIOLogicStateDS2408 d)⟩]) ds

-- What `setAnalogueMuxInput` has asked before its first write.
def entryHistory (env : Environment OwCall.Answer) (w : OwWorld) : History OwCall.Answer :=
  readHistory env w.history [.generalPurpose, .chargerState, .darlington, .relay, .generalPurpose]

-- The pins select the input of the call before it, unless the bus fails.
def Addressed (env : Environment OwCall.Answer) (w : OwWorld) (c : MuxCall) : Prop :=
  ∀ entry, entryPins env w = some entry →
    Accepts env (entryHistory env w) (muxWrites c.input.value entry) →
      muxAddress entry = c.input.value

variable {env : Environment OwCall.Answer} {w w' : OwWorld} {c : MuxCall} {pinsState input : UInt8}

-- All bytes can be tried.
theorem forall_byte {P : UInt8 → Prop} (h : ∀ i : Fin 256, P (.ofFin i)) (b : UInt8) : P b :=
  h b.toFin

-- The value that is written last has the address of the pins that were read.
theorem muxAddress_final : ∀ pinsState : UInt8,
    muxAddress ((pinsState ||| muxEnableBar) &&& ~~~muxEnableBar) = muxAddress pinsState :=
  forall_byte (by decide +kernel)

theorem final_and_muxEnableBar : ∀ pinsState : UInt8,
    (pinsState ||| muxEnableBar) &&& ~~~muxEnableBar &&& muxEnableBar = 0 :=
  forall_byte (by decide +kernel)

theorem otherPins_final : ∀ pinsState : UInt8,
    otherPins ((pinsState ||| muxEnableBar) &&& ~~~muxEnableBar) = otherPins pinsState :=
  forall_byte (by decide +kernel)

theorem connects_final_iff :
    Connects ((pinsState ||| muxEnableBar) &&& ~~~muxEnableBar) input ↔
      muxAddress pinsState = input := by
  rw [Connects, muxAddress_final]
  exact and_iff_left (final_and_muxEnableBar pinsState)

theorem lastWritten_write {h : History OwCall.Answer} {data : UInt8} {a : Option UInt8} :
    lastWritten (h ++ [⟨.channelAccessWriteDS2408 .generalPurpose data, a⟩]) = some data := by
  simp [lastWritten]

theorem readPinsWithShadow_generalPurpose : readPinsWithShadow .generalPurpose env w =
    some (entryPins env w, ⟨w.memory, entryHistory env w⟩) := by
  have h : readPinsWithShadow .generalPurpose env w =
      some ((entryPins env w).map id, ⟨w.memory, entryHistory env w⟩) := rfl
  rw [h, Option.map_id, id]

-- What becomes of a write, and of the writes behind it.
inductive Written (env : Environment OwCall.Answer) (w : OwWorld) (data : UInt8) :
    Bool → OwWorld → Prop
  | rejected {w' : OwWorld} (stops : ∀ datas, ¬Accepts env w.history (data :: datas)) :
    Written env w data false w'
  | accepted {w' : OwWorld} (last : lastWritten w'.history = some data)
    (goesOn : ∀ datas, Accepts env w.history (data :: datas) ↔ Accepts env w'.history datas) :
    Written env w data true w'

theorem writePins_spec (env : Environment OwCall.Answer) (w : OwWorld) (data pinsState : UInt8) :
    ∃ success w', writePins .generalPurpose data pinsState env w = some (success, w') ∧
      Written env w data success w' := by
  let c := OwCall.channelAccessWriteDS2408 .generalPurpose data
  have hc : channelAccessWriteDS2408 .generalPurpose data env w =
      some ((env w.history c).isSome, w.record c (env w.history c)) := rfl
  rw [writePins, bind_apply, hc, Option.bind_some]
  cases ha : env w.history c
  case none =>
    refine ⟨false, _, rfl, .rejected fun _ ⟨_, h, _⟩ => ?_⟩
    cases ha.symm.trans h
  case some readBack =>
    refine ⟨true, _, rfl, .accepted lastWritten_write fun datas => ?_⟩
    constructor
    case mp =>
      rintro ⟨r, hr, hd⟩
      obtain rfl : readBack = r := Option.some.inj <| ha.symm.trans hr
      exact hd
    case mpr => exact fun hd => ⟨readBack, ha, hd⟩

-- The writes stop at the first one that the device does not take.
theorem writeMuxInput_spec (env : Environment OwCall.Answer) (w : OwWorld) (input pinsState : UInt8) :
    ∃ success w', writeMuxInput input pinsState env w = some (success, w') ∧
      (success = true ↔ Accepts env w.history (muxWrites input pinsState)) ∧
      (success = true →
        lastWritten w'.history = some ((pinsState ||| muxEnableBar) &&& ~~~muxEnableBar)) := by
  let d₁ := pinsState ||| muxEnableBar
  let d₂ := d₁ &&& ~~~(muxA0 ||| muxA1 ||| muxA2) |||
    input <<< muxShift &&& (muxA0 ||| muxA1 ||| muxA2)
  let d₃ := d₁ &&& ~~~muxEnableBar
  have ⟨s₁, w₁, h₁, r₁⟩ := writePins_spec env w d₁ d₁
  have ⟨s₂, w₂, h₂, r₂⟩ := writePins_spec env w₁ d₂ d₁
  have ⟨s₃, w₃, h₃, r₃⟩ := writePins_spec env w₂ d₃ d₃
  rw [writeMuxInput, bind_apply, h₁, muxWrites]
  cases r₁
  case rejected stops => exact ⟨false, w₁, rfl, by simpa using stops _, by simp⟩
  case accepted goesOn₁ =>
    rw [goesOn₁]
    rw [Option.bind_some, if_pos rfl, bind_apply, h₂]
    cases r₂
    case rejected stops => exact ⟨false, w₂, rfl, by simpa using stops _, by simp⟩
    case accepted goesOn₂ =>
      rw [goesOn₂]
      rw [Option.bind_some, if_pos rfl, h₃]
      cases r₃
      case rejected stops        => exact ⟨false, w₃, rfl, by simpa using stops _, by simp⟩
      case accepted last goesOn₃ =>
        exact ⟨true, w₃, rfl, iff_of_true rfl ((goesOn₃ []).mpr trivial), fun _ => last⟩

-- The function succeeds if the bus does. What it writes last is what it has read, but enabled.
theorem setAnalogueMuxInput_spec (env : Environment OwCall.Answer) (w : OwWorld) (i : MuxInput) :
    ∃ success w', setAnalogueMuxInput i.value env w = some (success, w') ∧
      (success = true ↔ ∃ entry, entryPins env w = some entry ∧
        Accepts env (entryHistory env w) (muxWrites i.value entry)) ∧
      ∀ entry, entryPins env w = some entry → success = true →
        lastWritten w'.history = some ((entry ||| muxEnableBar) &&& ~~~muxEnableBar) := by
  have ha : assert (decide (i.value < 8)) env w = some ((), w) := if_pos (decide_eq_true i.lt)
  rw [setAnalogueMuxInput, bind_apply, ha, Option.bind_some, bind_apply,
    readPinsWithShadow_generalPurpose, Option.bind_some]
  cases he : entryPins env w
  case none => exact ⟨false, _, rfl, by simp, by simp⟩
  case some entry =>
    have ⟨success, w', h, hs, hl⟩ :=
      writeMuxInput_spec env ⟨w.memory, entryHistory env w⟩ i.value entry
    refine ⟨success, w', h, by simpa using hs, ?_⟩
    rintro _ ⟨⟩
    exact hl

theorem setAnalogueMuxInput_true (h : setAnalogueMuxInput c.input.value env w = some (true, w')) :
    ∃ entry, entryPins env w = some entry ∧
      Accepts env (entryHistory env w) (muxWrites c.input.value entry) ∧
      lastWritten w'.history = some ((entry ||| muxEnableBar) &&& ~~~muxEnableBar) := by
  have ⟨success, m, hm, hs, hl⟩ := setAnalogueMuxInput_spec env w c.input
  obtain ⟨rfl, rfl⟩ := Prod.mk.inj <| Option.some.inj <| h.symm.trans hm
  have ⟨entry, he, ha⟩ := hs.mp rfl
  exact ⟨entry, he, ha, hl entry he rfl⟩

section

variable {sensor : UInt8} {t : Int} {success : Bool} {o : Option Int}

theorem readBattTemperature_of_false (h : setAnalogueMuxInput sensor env w = some (false, w')) :
    readBattTemperature sensor env w = some (none, w') := by
  rw [readBattTemperature, bind_apply, h]
  rfl

theorem readBattTemperature_of_true (h : setAnalogueMuxInput sensor env w = some (true, w')) :
    readBattTemperature sensor env w = some ((env w'.history .readVadDS2438).map mvToC,
      w'.record .readVadDS2438 (env w'.history .readVadDS2438)) := by
  rw [readBattTemperature, bind_apply, h]
  rfl

-- The voltage is that of the input which is connected by the last write.
theorem readBattTemperature_some (i : MuxInput)
    (h : readBattTemperature i.value env w = some (some t, w')) :
    ∃ m voltage, setAnalogueMuxInput i.value env w = some (true, m) ∧ t = mvToC voltage ∧
      w'.history = m.history ++ [⟨.readVadDS2438, some voltage⟩] := by
  have ⟨success, m, hm, _⟩ := setAnalogueMuxInput_spec env w i
  cases success
  case false => cases (readBattTemperature_of_false hm).symm.trans h
  case true =>
    have ⟨hv, hw⟩ := Prod.mk.inj <| Option.some.inj <| (readBattTemperature_of_true hm).symm.trans h
    have ⟨voltage, hv, ht⟩ := Option.map_eq_some_iff.mp hv
    exact ⟨m, voltage, hm, ht.symm, by rw [← hw, World.record, hv]⟩

theorem readBattTemperature_total (i : MuxInput) :
    ∃ w', exec (readBattTemperature i.value) env w = some w' := by
  have ⟨success, m, hm, _⟩ := setAnalogueMuxInput_spec env w i
  rw [exec]
  cases success
  case false => exact ⟨_, congrArg (Option.map Prod.snd) (readBattTemperature_of_false hm)⟩
  case true  => exact ⟨_, congrArg (Option.map Prod.snd) (readBattTemperature_of_true hm)⟩

end

-- All calls that read a temperature do the same with different inputs.
theorem MuxCall.run_eq (c : MuxCall) :
    c.run = readBattTemperature c.input.value ∨ ∃ i, c = .setAnalogueMuxInput i := by
  cases c
  case setAnalogueMuxInput i => exact .inr ⟨i, rfl⟩
  all_goals exact .inl rfl

theorem run_setAnalogueMuxInput {i : MuxInput} {success : Bool}
    (h : setAnalogueMuxInput i.value env w = some (success, w')) :
    (MuxCall.setAnalogueMuxInput i).run env w = some (none, w') := by
  rw [MuxCall.run, bind_apply, h]
  rfl

theorem muxStep_isSome : (muxStep env w c).isSome := by
  rw [Option.isSome_iff_exists, muxStep]
  rcases c.run_eq with h | ⟨i, rfl⟩
  case inl => exact h ▸ readBattTemperature_total c.input
  case inr =>
    have ⟨success, m, hm, _⟩ := setAnalogueMuxInput_spec env w i
    exact ⟨m, congrArg (Option.map Prod.snd) (run_setAnalogueMuxInput hm)⟩

theorem run_some {t : Int} (h : c.run env w = some (some t, w')) :
    ∃ m voltage, setAnalogueMuxInput c.input.value env w = some (true, m) ∧ t = mvToC voltage ∧
      w'.history = m.history ++ [⟨.readVadDS2438, some voltage⟩] := by
  rcases c.run_eq with hr | ⟨i, rfl⟩
  case inl => exact readBattTemperature_some c.input (hr ▸ h)
  case inr =>
    have ⟨success, m, hm, _⟩ := setAnalogueMuxInput_spec env w i
    cases (run_setAnalogueMuxInput hm).symm.trans h

theorem selected_iff : Selected env w c ↔ Addressed env w c := by
  constructor
  case mp =>
    intro hs entry he ha
    have ⟨success, w', hw, hsuccess, hl⟩ := setAnalogueMuxInput_spec env w c.input
    obtain rfl := hsuccess.mpr ⟨entry, he, ha⟩
    have ⟨_, data, _, hd, hc, _⟩ := hs.selects w' hw
    obtain rfl := Option.some.inj <| (hl entry he rfl).symm.trans hd
    exact connects_final_iff.mp hc
  case mpr =>
    intro ha
    constructor
    case handled => exact muxStep_isSome
    case selects =>
      intro w' hw
      have ⟨entry, he, hacc, hl⟩ := setAnalogueMuxInput_true hw
      exact ⟨entry, _, he, hl, connects_final_iff.mpr (ha entry he hacc), otherPins_final entry⟩
    case samples =>
      intro t w' hw
      have ⟨m, voltage, hm, ht, hh⟩ := run_some hw
      have ⟨entry, he, hacc, hl⟩ := setAnalogueMuxInput_true hm
      exact ⟨m.history, voltage, _, hh, ht, hl, connects_final_iff.mpr (ha entry he hacc)⟩

-- All calls of a run select their inputs if and only if the pins select them already before the calls.
theorem mux_inputs_selected_iff (env : Environment OwCall.Answer) (w : OwWorld)
    (calls : List MuxCall) :
    Along (muxStep env) (Selected env) w calls ↔ Along (muxStep env) (Addressed env) w calls :=
  ⟨.mono fun _ _ => selected_iff.mp, .mono fun _ _ => selected_iff.mpr⟩

-- A bus on which everything succeeds, and where the pins of a PIO are what has been written last.
def workingBus : Environment OwCall.Answer :=
  fun h c => match c with
    | .readPIOLogicStateDS2408 _       => some ((lastWritten h).getD 0)
    | .channelAccessWriteDS2408 _ data => some data
    | .readVadDS2438                   => some 700

-- With all pins low, the temperature of the O1 battery is read from the input of the Pi/RIO battery.
theorem mux_inputs_not_selected : ¬∀ (env : Environment OwCall.Answer) (w : OwWorld)
    (calls : List MuxCall), Along (muxStep env) (Selected env) w calls := by
  intro h
  have hs := (h workingBus ⟨fun _ => 0, []⟩ [.readO1BattTemperature]).left
  have ha := selected_iff.mp hs 0 rfl ⟨_, rfl, _, rfl, _, rfl, trivial⟩
  exact absurd ha (by decide)

end RoboOne.Hardware
