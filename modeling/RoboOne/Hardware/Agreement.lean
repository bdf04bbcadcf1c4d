import RoboOne.Hardware.Shadow

namespace RoboOne.Hardware

open Interaction Transition Bits

inductive PinsCall
  | setup (d : Pio) (disableTestModeDS2408 writeControlRegisterDS2408 : Bool)
  | setPins (d : Pio) (pinsMask : UInt8) (setPinsTo5Volts : Bool)
  | togglePins (d : Pio) (pinsMask : UInt8)
  | readPins (d : Pio)
deriving DecidableEq

def PinsCall.run (uninitialised : History OwCall.Answer → UInt8) : PinsCall → OwProgram Unit
  | setup d disableTestModeDS2408 writeControlRegisterDS2408 => do
    let _ ← setupPio d disableTestModeDS2408 writeControlRegisterDS2408
  | setPins d pinsMask setPinsTo5Volts => do
    let _ ← setPinsWithShadow uninitialised d pinsMask setPinsTo5Volts
  | togglePins d pinsMask => do
    let _ ← togglePinsWithShadow d pinsMask
  | readPins d => do
    let _ ← readPinsWithShadow d

def pinsStep (env : Environment OwCall.Answer) (uninitialised : History OwCall.Answer → UInt8)
    (w : OwWorld) (c : PinsCall) : Option OwWorld :=
  exec (c.run uninitialised) env w

-- The pins that are known by their shadow only, and that are not inputs.
def Pio.trackedPins (d : Pio) : UInt8 :=
  d.readShadowMask &&& ~~~d.inputMask

-- The shadow of the device is what it puts out, and what is read of it.
structure Tracked (env : Environment OwCall.Answer) (initial : Pio → UInt8) (d : Pio) (w : OwWorld) :
    Prop where
  shadow : w.memory d &&& d.trackedPins = outputLatch initial w.history d &&& d.trackedPins
  read   : ∀ pinsState w', readPinsWithShadow d env w = some (some pinsState, w') →
    pinsState &&& d.trackedPins = outputLatch initial w'.history d &&& d.trackedPins

-- The inputs are always written as 1, but the shadow may have something else there.
def Agree (latch shadows : Pio → UInt8) (d : Pio) : Prop :=
  ∀ i, bit d.inputMask i = false → bit (shadows d) i = bit (latch d) i

def Agrees (initial : Pio → UInt8) (d : Pio) (w : OwWorld) : Prop :=
  Agree (outputLatch initial w.history) w.memory d

variable {env : Environment OwCall.Answer} {uninitialised : History OwCall.Answer → UInt8}
  {initial latch shadows : Pio → UInt8} {d d' : Pio} {w₀ w : OwWorld} {data : UInt8}

theorem Agree.update (h : Agree latch shadows d) :
    Agree (Function.update latch d' data) (Function.update shadows d' data) d := by
  intro i hi
  by_cases hd : d = d'
  case pos => subst hd; simp
  case neg => rw [Function.update_of_ne hd, Function.update_of_ne hd, h i hi]

-- The setup of a device writes what is in its shadow.
theorem agree_setup : Agree (Function.update latch d (shadows d ||| d.inputMask)) shadows d := by
  intro i hi
  simp [hi]

theorem At.agrees (hw : At initial latch shadows w) (h : Agree latch shadows d) :
    Agrees initial d w := by
  rw [Agrees, hw.latch, hw.memory]
  exact h

theorem Mirrored.agrees (hw : Mirrored initial latch shadows d' w) (h : Agree latch shadows d) :
    Agrees initial d w := by
  rcases hw with hw | ⟨data, hw⟩
  case inl => exact hw.agrees h
  case inr => exact hw.agrees h.update

-- What is true behind a program whatever was there before it.
theorem keeps_agrees {α : Type} {p : OwProgram α} (h : ∀ latch shadows, Agree latch shadows d →
    Ensures env (At initial latch shadows) p fun _ => Agrees initial d) :
    Keeps env (Agrees initial d) p :=
  fun w hw => h _ _ hw w (At.here initial w)

theorem setupPio_spec {disableTestModeDS2408 writeControlRegisterDS2408 : Bool} :
    Ensures env (At initial latch shadows)
      (setupPio d disableTestModeDS2408 writeControlRegisterDS2408) fun success w =>
        At initial (if success then Function.update latch d (shadows d ||| d.inputMask) else latch)
          shadows w := by
  refine Ensures.bind debugPrintPinsState_at fun _ => .ite (fun _ => ?_) fun _ => ?_
  case refine_2 => exact ensures_pure fun w hw => hw
  case refine_1 =>
    refine Ensures.bind debugPrintPinsState_at fun _ => .ite (fun _ => ?_) fun _ => ?_
    case refine_2 =>
      exact Ensures.bind debugPrintPinsState_at fun _ => ensures_pure fun w hw => hw
    case refine_1 =>
      refine load_spec.bind fun gPinsState => .pull ?_
      rintro rfl
      refine channelAccessWriteDS2408_spec.bind fun success => ?_
      cases success
      case false =>
        refine Ensures.bind (debugPrintPinsState_keeps fun _ _ _ hw => hw.imp_left At.read) fun _ => ?_
        exact ensures_pure fun w hw => hw.left
      case true => exact Ensures.bind debugPrintPinsState_at fun _ => ensures_pure fun w hw => hw

theorem agrees_of_setup {disableTestModeDS2408 writeControlRegisterDS2408 : Bool}
    (hs : setupPio d disableTestModeDS2408 writeControlRegisterDS2408 env w₀ = some (true, w)) :
    Agrees initial d w := by
  have hat := setupPio_spec.result (At.here initial w₀) hs
  exact hat.agrees agree_setup

theorem setupPio_keeps {disableTestModeDS2408 writeControlRegisterDS2408 : Bool} :
    Keeps env (Agrees initial d)
      (setupPio d' disableTestModeDS2408 writeControlRegisterDS2408) := by
  refine keeps_agrees fun latch shadows h =>
    setupPio_spec.mono (fun _ hw => hw) fun success w hw => hw.agrees ?_
  cases success
  case false => exact h
  case true =>
    by_cases hd : d = d'
    case pos => exact hd ▸ agree_setup
    case neg =>
      intro i hi
      rw [if_pos rfl, Function.update_of_ne hd, h i hi]

theorem PinsCall.run_keeps (c : PinsCall) : Keeps env (Agrees initial d) (c.run uninitialised) := by
  cases c
  case setup => exact setupPio_keeps.bind fun _ => .pure
  case setPins =>
    refine Keeps.bind (keeps_agrees fun _ _ h => ?_) fun _ => .pure
    refine setPinsWithShadow_spec.mono (fun _ hw => hw) ?_
    exact fun _ _ ⟨_, _, _, hw⟩ => hw.mirrored.agrees h
  case togglePins =>
    refine Keeps.bind (keeps_agrees fun _ _ h => ?_) fun _ => .pure
    refine togglePinsWithShadow_spec.mono (fun _ hw => hw) ?_
    rintro _ _ (⟨_, _, hw⟩ | ⟨_, hw⟩)
    case inl => exact hw.mirrored.agrees h
    case inr => exact hw.agrees h
  case readPins =>
    refine Keeps.bind (keeps_agrees fun _ _ h => ?_) fun _ => .pure
    exact readPinsWithShadow_spec.mono (fun _ hw => hw) fun _ _ hw => hw.right.agrees h

theorem pinsStep_total (w : OwWorld) (c : PinsCall) (h : Agrees initial d w) :
    ∃ w', pinsStep env uninitialised w c = some w' ∧ Agrees initial d w' :=
  have ⟨w', hw', _, ha⟩ := c.run_keeps.exec h
  ⟨w', hw', ha⟩

theorem and_trackedPins_congr {b b' : UInt8}
    (h : ∀ i, bit d.readShadowMask i = true → bit d.inputMask i = false → bit b i = bit b' i) :
    b &&& d.trackedPins = b' &&& d.trackedPins := by
  refine ext fun i => ?_
  rw [bit_and, bit_and, Pio.trackedPins, bit_and_not]
  grind

theorem Agrees.tracked (h : Agrees initial d w) : Tracked env initial d w := by
  constructor
  case shadow => exact and_trackedPins_congr fun i _ hi => h i hi
  case read =>
    intro pinsState w' hr
    obtain ⟨⟨pins, _, hp⟩, hat⟩ := readPinsWithShadow_spec.result (At.here initial w) hr
    have ⟨_, _, hp⟩ := Option.map_eq_some_iff.mp hp.symm
    refine and_trackedPins_congr fun i hm hi => ?_
    rw [← hp, bit_accountForShadow, if_pos hm, hat.latch, h i hi]

theorem Agrees.throughout (h : Agrees initial d w) (calls : List PinsCall) :
    Throughout (pinsStep env uninitialised) (Agrees initial d) w calls :=
  (Preserves.of_total pinsStep_total).throughout h (.of_forall fun _ _ => trivial)

-- The bus may fail whenever it likes to.
theorem shadow_tracks_outputLatch {disableTestModeDS2408 writeControlRegisterDS2408 : Bool}
    (hs : setupPio d disableTestModeDS2408 writeControlRegisterDS2408 env w₀ = some (true, w))
    (initial : Pio → UInt8) (calls : List PinsCall) :
    (run (pinsStep env uninitialised) w calls).isSome ∧
      Throughout (pinsStep env uninitialised) (Tracked env initial d) w calls := by
  have ha : Agrees initial d w := agrees_of_setup hs
  constructor
  case left  => exact run_total pinsStep_total ha calls
  case right => exact (ha.throughout calls).mono fun _ h => h.tracked

-- A bus on which everything succeeds, and where the pins are what is put out.
def latchBus : Environment OwCall.Answer :=
  fun h c => match c with
    | .readPIOLogicStateDS2408 d       => some (outputLatch Pio.initialState h d)
    | .channelAccessWriteDS2408 _ data => some data
    | .readVadDS2438                   => some 700

theorem shadow_tracks_outputLatch_relay :
    ∃ w, setupPio .relay true true latchBus ⟨Pio.initialState, []⟩ = some (true, w) ∧
      Throughout (pinsStep latchBus fun _ => 0) (Tracked latchBus Pio.initialState .relay) w
        [.setPins .relay relayO1ChargerOff true, .togglePins .darlington darlingtonOPwrToggle,
          .readPins .relay] :=
  have h : setupPio .relay true true latchBus ⟨Pio.initialState, []⟩ = some (true, _) := rfl
  ⟨_, h, (shadow_tracks_outputLatch h Pio.initialState _).right⟩

end RoboOne.Hardware
