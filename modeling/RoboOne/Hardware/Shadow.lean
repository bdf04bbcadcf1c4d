import Mathlib.Logic.Function.Iterate
import RoboOne.Hardware.OwBus
import RoboOne.Library.Bits

namespace RoboOne.Hardware

open Interaction Transition Bits

def darlingtonRioPwr12VOn : UInt8 := 0x01

def darlingtonRioPwrBattOff : UInt8 := 0x02

def darlingtonEnableBar : UInt8 := 0x80

def relayEnableBar : UInt8 := 0x40

def relay12VDetect : UInt8 := 0x80

-- The pins that are always written as 1, to keep them inputs.
def Pio.inputMask : Pio → UInt8
  | chargerState   => 0xFF
  | darlington     => 0x00
  | relay          => relay12VDetect
  | generalPurpose => 0x00

-- What `pinsState` is in `gDeviceStaticConfigList` to begin with.
def Pio.initialState : Pio → UInt8
  | chargerState   => 0xFF
  | darlington     => ~~~(darlingtonRioPwrBattOff ||| darlingtonRioPwr12VOn ||| darlingtonOPwrToggle |||
    darlingtonORstToggle) ||| darlingtonEnableBar
  | relay          => relay12VDetect ||| relayEnableBar
  | generalPurpose => 0x00

section

-- What is in the memory of a local variable that has not been given a value.
variable (uninitialised : History OwCall.Answer → UInt8)

def readUninitialised : OwProgram UInt8 :=
  fun _ w => some (uninitialised w.history, w)

-- The pins are written even if they could not be read, and whether they could is forgotten.
def setPinsWithShadow (d : Pio) (pinsMask : UInt8) (setPinsTo5Volts : Bool) : OwProgram Bool := do
  let pinsState ← readUninitialised uninitialised
  let read ← readPinsWithShadow d
  let pinsState := read.getD pinsState
  let pinsState := if setPinsTo5Volts then pinsState ||| pinsMask else pinsState &&& ~~~pinsMask
  let pinsState := pinsState ||| d.inputMask
  let success ← writePins d pinsState pinsState
  debugPrintPinsState
  return success

end

-- The loop of `togglePinsWithShadow`, with the number of turns that are left.
def togglePins (d : Pio) (pinsMask : UInt8) : Nat → UInt8 → OwProgram Bool
  | 0,     _         => return true
  | i + 1, pinsState => do
    let pinsState :=
      if pinsState &&& pinsMask ≠ 0 then pinsState &&& ~~~pinsMask else pinsState ||| pinsMask
    let pinsState := pinsState ||| d.inputMask
    let success ← writePins d pinsState pinsState
    debugPrintPinsState
    if success then togglePins d pinsMask i pinsState else return false

def togglePinsWithShadow (d : Pio) (pinsMask : UInt8) : OwProgram Bool := do
  let read ← readPinsWithShadow d
  debugPrintPinsState
  match read with
  | none           => return false
  | some pinsState => togglePins d pinsMask 2 pinsState

-- What `setupDevices` does with a PIO that it has found, and with what comes of the two calls that have
-- nothing to do with the pins.
def setupPio (d : Pio) (disableTestModeDS2408 writeControlRegisterDS2408 : Bool) :
    OwProgram Bool := do
  debugPrintPinsState
  if disableTestModeDS2408 then
    debugPrintPinsState
    if writeControlRegisterDS2408 then
      let gPinsState ← load
      let success ← channelAccessWriteDS2408 d (gPinsState d ||| d.inputMask)
      debugPrintPinsState
      return success
    else
      debugPrintPinsState
      return false
  else
    return false

-- What a call does to the output latches of the devices. A write that fails leaves them alone.
def latchCall (latch : Pio → UInt8) : ((c : OwCall) × c.Answer) → Pio → UInt8
  | ⟨.channelAccessWriteDS2408 d data, some _⟩ => Function.update latch d data
  | _                                          => latch

def outputLatch (initial : Pio → UInt8) (h : History OwCall.Answer) : Pio → UInt8 :=
  h.foldl latchCall initial

variable {env : Environment OwCall.Answer} {initial : Pio → UInt8} {d d' : Pio} {w w' : OwWorld}
  {h : History OwCall.Answer} {pinsState data shadow : UInt8}

-- The loop still has to do with the bits from `j` on.
theorem bit_accountForShadowBits {readShadowMask mask : UInt8} {n j i : Nat} (hj : n + j = 8)
    (hm : j < 8 → mask = single j) :
    bit (accountForShadowBits readShadowMask shadow n mask pinsState) i =
      if j ≤ i ∧ bit readShadowMask i then bit shadow i else bit pinsState i := by
  induction n generalizing j mask pinsState
  case zero =>
    rw [accountForShadowBits, if_neg]
    rintro ⟨hi, hb⟩
    rw [bit_of_le (by omega)] at hb
    cases hb
  case succ n hi =>
    have hlt : j < 8 := by omega
    obtain rfl := hm hlt
    have hnext : j + 1 < 8 → single j <<< 1 = single (j + 1) := by
      intro h
      have hs := single_succ ⟨j, hlt⟩
      rw [if_neg (fun h' => by cases h'; omega)] at hs
      exact hs
    rw [accountForShadowBits, hi (j := j + 1) (by omega) hnext]
    simp only [and_single_ne_zero_iff hlt]
    have hbit := bit_single (i := i) hlt
    grind [bit_or, bit_and_not]

-- The shadow decides about the pins that it is for.
theorem bit_accountForShadow {i : Nat} : bit (accountForShadow d shadow pinsState) i =
    if bit d.readShadowMask i then bit shadow i else bit pinsState i := by
  have hone : (1 : UInt8) = single 0 := rfl
  rw [accountForShadow, hone, bit_accountForShadowBits (j := 0) rfl fun _ => rfl]
  simp

-- The devices put out `latch`, and the variables are `shadows`.
structure At (initial latch shadows : Pio → UInt8) (w : OwWorld) : Prop where
  latch  : outputLatch initial w.history = latch
  memory : w.memory = shadows

-- The same has been written to the device and into its shadow.
abbrev Wrote (initial latch shadows : Pio → UInt8) (d : Pio) (data : UInt8) : OwWorld → Prop :=
  At initial (Function.update latch d data) (Function.update shadows d data)

def Mirrored (initial latch shadows : Pio → UInt8) (d : Pio) (w : OwWorld) : Prop :=
  At initial latch shadows w ∨ ∃ data, Wrote initial latch shadows d data w

-- What comes of some writes to a device, the last of which is to write `data`. They stop if one fails.
def Outcome (env : Environment OwCall.Answer) (initial latch shadows : Pio → UInt8) (d : Pio)
    (data : UInt8) : Bool → OwWorld → Prop
  | true,  w => Wrote initial latch shadows d data w
  | false, w => Mirrored initial latch shadows d w ∧
    ∃ h data', env h (.channelAccessWriteDS2408 d data') = none

-- What is read of a device that puts out `latch`, if anything.
def ReadOf (env : Environment OwCall.Answer) (initial latch : Pio → UInt8) (d : Pio)
    (read : Option UInt8) : Prop :=
  ∃ h, outputLatch initial h = latch ∧ env h (.readPIOLogicStateDS2408 d) = read

section

variable {latch shadows : Pio → UInt8} {pinsMask : UInt8} {n : Nat}

theorem outputLatch_append {c : OwCall} {answer : c.Answer} :
    outputLatch initial (h ++ [⟨c, answer⟩]) = latchCall (outputLatch initial h) ⟨c, answer⟩ := by
  simp [outputLatch]

theorem Wrote.trans {data' : UInt8} (hw : Wrote initial (Function.update latch d data)
    (Function.update shadows d data) d data' w) : Wrote initial latch shadows d data' w := by
  rwa [Wrote, Function.update_idem, Function.update_idem] at hw

theorem Mirrored.trans (hw : Mirrored initial (Function.update latch d data)
    (Function.update shadows d data) d w) : Mirrored initial latch shadows d w := by
  rcases hw with hw | ⟨data', hw⟩
  case inl => exact .inr ⟨data, hw⟩
  case inr => exact .inr ⟨data', Wrote.trans hw⟩

theorem Outcome.trans {data' : UInt8} {success : Bool}
    (hw : Outcome env initial (Function.update latch d data) (Function.update shadows d data) d data'
      success w) : Outcome env initial latch shadows d data' success w := by
  cases success
  case false => exact hw.imp_left Mirrored.trans
  case true  => exact Wrote.trans hw

theorem Outcome.mirrored {success : Bool}
    (hw : Outcome env initial latch shadows d data success w) :
    Mirrored initial latch shadows d w := by
  cases success
  case false => exact hw.left
  case true  => exact .inr ⟨data, hw⟩

theorem At.here (initial : Pio → UInt8) (w : OwWorld) :
    At initial (outputLatch initial w.history) w.memory w :=
  ⟨rfl, rfl⟩

-- A read changes neither the devices nor the variables.
theorem At.read {read : Option UInt8} (hw : At initial latch shadows w) :
    At initial latch shadows (w.record (.readPIOLogicStateDS2408 d) read) :=
  ⟨outputLatch_append.trans hw.latch, hw.memory⟩

theorem Mirrored.read {read : Option UInt8} (hw : Mirrored initial latch shadows d w) :
    Mirrored initial latch shadows d (w.record (.readPIOLogicStateDS2408 d') read) :=
  hw.imp At.read fun ⟨data, hw⟩ => ⟨data, hw.read⟩

theorem Outcome.read {success : Bool} {read : Option UInt8}
    (hw : Outcome env initial latch shadows d data success w) :
    Outcome env initial latch shadows d data success
      (w.record (.readPIOLogicStateDS2408 d') read) := by
  cases success
  case false => exact hw.imp_left Mirrored.read
  case true  => exact At.read hw

theorem readPIOLogicStateDS2408_spec : Ensures env (At initial latch shadows)
    (readPIOLogicStateDS2408 d) fun read w =>
      ReadOf env initial latch d read ∧ At initial latch shadows w :=
  ensures_call fun w hw => ⟨⟨w.history, hw.latch, rfl⟩, hw.read⟩

theorem debugPrintPinsState_keeps {I : OwWorld → Prop}
    (hI : ∀ w d read, I w → I (w.record (.readPIOLogicStateDS2408 d) read)) :
    Keeps env I debugPrintPinsState := by
  have hr (d : Pio) : Keeps env I (readPIOLogicStateDS2408 d) :=
    ensures_call fun w hw => hI w d _ hw
  exact (hr _).bind fun _ => (hr _).bind fun _ => (hr _).bind fun _ => (hr _).bind fun _ => .pure

theorem debugPrintPinsState_at : Keeps env (At initial latch shadows) debugPrintPinsState :=
  debugPrintPinsState_keeps fun _ _ _ hw => hw.read

theorem load_spec : Ensures env (At initial latch shadows) load fun gPinsState w =>
    gPinsState = shadows ∧ At initial latch shadows w :=
  ensures_load fun _ hw => ⟨hw.memory, hw⟩

-- What is read with the shadow leaves everything as it is.
theorem readPinsWithShadow_spec : Ensures env (At initial latch shadows) (readPinsWithShadow d)
    fun read w => (∃ pins, ReadOf env initial latch d pins ∧
      read = pins.map (accountForShadow d (shadows d))) ∧ At initial latch shadows w := by
  refine readPIOLogicStateDS2408_spec.bind fun pins => .pull fun hr => ?_
  refine load_spec.bind fun gPinsState => .pull ?_
  rintro rfl
  refine Ensures.bind debugPrintPinsState_at fun _ => ?_
  exact ensures_pure fun w hw => ⟨⟨pins, hr, rfl⟩, hw⟩

theorem channelAccessWriteDS2408_spec : Ensures env (At initial latch shadows)
    (channelAccessWriteDS2408 d data) fun success w => if success then
        At initial (Function.update latch d data) shadows w
      else
        At initial latch shadows w ∧ ∃ h data', env h (.channelAccessWriteDS2408 d data') = none := by
  intro w hw
  let c := OwCall.channelAccessWriteDS2408 d data
  have hlatch : outputLatch initial (w.record c (env w.history c)).history =
      latchCall latch ⟨c, env w.history c⟩ := hw.latch ▸ outputLatch_append
  refine ⟨_, _, rfl, ?_⟩
  cases ha : env w.history c
  case none   => exact ⟨⟨(ha ▸ hlatch :), hw.memory⟩, w.history, data, ha⟩
  case some _ => exact ⟨(ha ▸ hlatch :), hw.memory⟩

theorem writePins_outcome : Ensures env (At initial latch shadows) (writePins d data data)
    (Outcome env initial latch shadows d data) := by
  refine channelAccessWriteDS2408_spec.bind fun success => ?_
  cases success
  case false => exact ensures_pure fun w hw => hw.imp_left .inl
  case true =>
    refine load_spec.bind fun gPinsState => .pull ?_
    rintro rfl
    exact (ensures_store fun w hw => ⟨hw.latch, rfl⟩).bind fun _ => ensures_pure fun w hw => hw

-- The pins are printed behind a write.
theorem writePins_printed {α : Type} {f : Bool → OwProgram α} {Q : α → OwWorld → Prop}
    (hf : ∀ success, Ensures env (Outcome env initial latch shadows d data success) (f success) Q) :
    Ensures env (At initial latch shadows) (do
      let success ← writePins d data data
      debugPrintPinsState
      f success) Q :=
  writePins_outcome.bind fun success =>
    Ensures.bind (debugPrintPinsState_keeps fun _ _ _ hw => hw.read) fun _ => hf success

-- What is written to set some pins if `pinsState` was read.
def pinsSet (d : Pio) (pinsMask : UInt8) (setPinsTo5Volts : Bool) (pinsState : UInt8) : UInt8 :=
  (if setPinsTo5Volts then pinsState ||| pinsMask else pinsState &&& ~~~pinsMask) ||| d.inputMask

theorem setPinsWithShadow_spec {uninitialised : History OwCall.Answer → UInt8} {level : Bool} :
    Ensures env (At initial latch shadows) (setPinsWithShadow uninitialised d pinsMask level)
      fun success w => ∃ pins junk, ReadOf env initial latch d pins ∧
        Outcome env initial latch shadows d (pinsSet d pinsMask level <|
          (pins.map (accountForShadow d (shadows d))).getD junk) success w := by
  refine Ensures.bind (Q := fun _ => At initial latch shadows) (fun w hw => ⟨_, _, rfl, hw⟩)
    fun junk => ?_
  refine readPinsWithShadow_spec.bind fun read => .pull ?_
  rintro ⟨pins, hr, rfl⟩
  exact writePins_printed fun success => ensures_pure fun w hw => ⟨pins, junk, hr, hw⟩

-- What is written by a turn of the loop.
def pinsToggled (d : Pio) (pinsMask pinsState : UInt8) : UInt8 :=
  (if pinsState &&& pinsMask ≠ 0 then pinsState &&& ~~~pinsMask else pinsState ||| pinsMask) |||
    d.inputMask

theorem togglePins_spec (n : Nat) : Ensures env (At initial latch shadows)
    (togglePins d pinsMask (n + 1) pinsState)
      (Outcome env initial latch shadows d ((pinsToggled d pinsMask)^[n + 1] pinsState)) := by
  induction n generalizing latch shadows pinsState
  case zero =>
    refine writePins_printed fun success => ?_
    cases success
    case false => exact ensures_pure fun w hw => hw
    case true  => exact ensures_pure fun w hw => hw
  case succ n hi =>
    refine writePins_printed fun success => ?_
    cases success
    case false => exact ensures_pure fun w hw => hw
    case true  => exact hi.mono (fun w hw => hw) fun success w hw => hw.trans

theorem togglePinsWithShadow_spec : Ensures env (At initial latch shadows)
    (togglePinsWithShadow d pinsMask) fun success w =>
      (∃ pins, ReadOf env initial latch d (some pins) ∧ Outcome env initial latch shadows d
        ((pinsToggled d pinsMask)^[2] (accountForShadow d (shadows d) pins)) success w) ∨
      ReadOf env initial latch d none ∧ At initial latch shadows w := by
  refine readPinsWithShadow_spec.bind fun read => .pull ?_
  rintro ⟨pins, hr, rfl⟩
  refine Ensures.bind debugPrintPinsState_at fun _ => ?_
  cases pins
  case none => exact ensures_pure fun w hw => .inr ⟨hr, hw⟩
  case some pins =>
    exact (togglePins_spec 1).mono (fun _ hw => hw) fun success w hw => .inl ⟨pins, hr, hw⟩

end

end RoboOne.Hardware
