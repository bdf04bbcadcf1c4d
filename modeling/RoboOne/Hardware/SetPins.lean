import RoboOne.Hardware.Shadow

namespace RoboOne.Hardware

open Interaction Bits

-- All writes of pins, oldest first.
def written (h : History OwCall.Answer) : List (Pio × UInt8) :=
  h.filterMap fun
    | ⟨.channelAccessWriteDS2408 d data, _⟩ => some (d, data)
    | _                                     => none

section

variable (env : Environment OwCall.Answer) (w : OwWorld) (d : Pio)

-- The state of the pins that is read at the entry of the functions which set or toggle pins.
def entryRead : Option UInt8 :=
  (env w.history (.readPIOLogicStateDS2408 d)).map (accountForShadow d (w.memory d))

-- What is written has the pins as they were read, but for those in the mask and for the inputs, which
-- are written as 1.
def FramedBy (d : Pio) (pinsMask entry data : UInt8) : Prop :=
  ∀ i, bit data i = bit entry i ∨ bit pinsMask i ∨ bit d.inputMask i ∧ bit data i

-- Only the pins of the device that are to be set are written, and none if they cannot be read.
structure SetsAtomically (uninitialised : History OwCall.Answer → UInt8) (pinsMask : UInt8)
    (setPinsTo5Volts success : Bool) (w' : OwWorld) : Prop where
  runs   : setPinsWithShadow uninitialised d pinsMask setPinsTo5Volts env w = some (success, w')
  frame  : ∀ entry, entryRead env w d = some entry → ∃ data, FramedBy d pinsMask entry data ∧
    written w'.history = written w.history ++ [(d, data)]
  atomic : entryRead env w d = none →
    success = false ∧ written w'.history = written w.history ∧ w'.memory = w.memory

end

variable {env : Environment OwCall.Answer} {uninitialised : History OwCall.Answer → UInt8}
  {d d' : Pio} {w : OwWorld} {h : History OwCall.Answer} {pinsMask data pinsState : UInt8}
  {setPinsTo5Volts : Bool} {writes : List (Pio × UInt8)}

theorem written_read {read : Option UInt8} :
    written (h ++ [⟨.readPIOLogicStateDS2408 d, read⟩]) = written h := by
  simp [written]

theorem written_write {readBack : Option UInt8} :
    written (h ++ [⟨.channelAccessWriteDS2408 d data, readBack⟩]) = written h ++ [(d, data)] := by
  simp [written]

theorem debugPrintPinsState_written :
    Keeps env (fun w => written w.history = writes) debugPrintPinsState :=
  debugPrintPinsState_keeps fun _ _ _ hw => written_read.trans hw

theorem readPinsWithShadow_written :
    Ensures env (· = w) (readPinsWithShadow d) fun read w' =>
      read = entryRead env w d ∧ written w'.history = written w.history := by
  refine Ensures.bind (ensures_call (Q := fun read w' =>
    read = env w.history (.readPIOLogicStateDS2408 d) ∧ w'.memory = w.memory ∧
      written w'.history = written w.history) ?_) fun read => .pull ?_
  case refine_1 =>
    rintro _ rfl
    exact ⟨rfl, rfl, written_read⟩
  case refine_2 =>
    rintro rfl
    refine Ensures.bind (ensures_load (Q := fun gPinsState w' =>
      gPinsState = w.memory ∧ written w'.history = written w.history) fun w' hw => hw)
      fun gPinsState => .pull ?_
    rintro rfl
    exact Ensures.bind debugPrintPinsState_written fun _ => ensures_pure fun w' hw => ⟨rfl, hw⟩

-- The write is made whatever comes of it.
theorem writePins_written : Ensures env (fun w => written w.history = writes)
    (writePins d data pinsState) fun _ w => written w.history = writes ++ [(d, data)] := by
  refine Ensures.bind (Q := fun _ w => written w.history = writes ++ [(d, data)]) ?_ fun success => ?_
  case refine_1 =>
    refine Ensures.bind (ensures_call (Q := fun _ w => written w.history = writes ++ [(d, data)])
      fun w hw => ?_) fun _ => ensures_pure fun _ hw => hw
    exact hw ▸ written_write
  case refine_2 =>
    refine .ite (fun _ => ?_) fun _ => ensures_pure fun _ hw => hw
    refine (ensures_load (Q := fun _ w => written w.history = writes ++ [(d, data)])
      fun _ hw => hw).bind fun _ => ?_
    exact (ensures_store (Q := fun _ w => written w.history = writes ++ [(d, data)])
      fun _ hw => hw).bind fun _ => ensures_pure fun _ hw => hw

-- The pins are always written, with what is left in the memory if they have not been read.
theorem setPinsWithShadow_written : Ensures env (· = w)
    (setPinsWithShadow uninitialised d pinsMask setPinsTo5Volts) fun _ w' =>
      written w'.history = written w.history ++ [(d, pinsSet d pinsMask setPinsTo5Volts <|
        (entryRead env w d).getD (uninitialised w.history))] := by
  refine Ensures.bind (Q := fun junk w' => junk = uninitialised w.history ∧ w' = w) ?_
    fun junk => .pull ?_
  case refine_1 =>
    rintro _ rfl
    exact ⟨_, _, rfl, rfl, rfl⟩
  case refine_2 =>
    rintro rfl
    refine readPinsWithShadow_written.bind fun read => .pull ?_
    rintro rfl
    refine writePins_written.bind fun success => ?_
    exact Ensures.bind debugPrintPinsState_written fun _ => ensures_pure fun w' hw => hw

theorem framedBy_pinsSet :
    FramedBy d pinsMask pinsState (pinsSet d pinsMask setPinsTo5Volts pinsState) := by
  intro i
  rw [pinsSet]
  cases setPinsTo5Volts
  case false =>
    simp only [Bool.false_eq_true, if_false, bit_or, bit_and_not]
    grind
  case true =>
    simp only [if_true, bit_or]
    grind

theorem entryRead_isSome :
    (entryRead env w d).isSome = (env w.history (.readPIOLogicStateDS2408 d)).isSome :=
  Option.isSome_map

-- The pins are set atomically if and only if the device can be read at the entry.
theorem pins_set_atomically_iff (env : Environment OwCall.Answer)
    (uninitialised : History OwCall.Answer → UInt8) (w : OwWorld) (d : Pio) (pinsMask : UInt8)
    (setPinsTo5Volts : Bool) :
    (∃ success w', SetsAtomically env w d uninitialised pinsMask setPinsTo5Volts success w') ↔
      (env w.history (.readPIOLogicStateDS2408 d)).isSome := by
  rw [← entryRead_isSome]
  have hwritten : Ensures env (· = w)
    (setPinsWithShadow uninitialised d pinsMask setPinsTo5Volts) _ := setPinsWithShadow_written
  have ⟨success, w', hr, hw⟩ := hwritten w rfl
  constructor
  case mp =>
    rintro ⟨success', w'', hs⟩
    obtain ⟨rfl, rfl⟩ := Prod.mk.inj <| Option.some.inj <| hr.symm.trans hs.runs
    cases he : entryRead env w d
    case some => rfl
    case none =>
      have ⟨_, hn, _⟩ := hs.atomic he
      simp [hn] at hw
  case mpr =>
    intro hs
    have ⟨entry, he⟩ := Option.isSome_iff_exists.mp hs
    refine ⟨success, w', hr, fun entry' he' => ?_, fun hn => ?_⟩
    case refine_1 =>
      obtain rfl := Option.some.inj <| he.symm.trans he'
      exact ⟨_, framedBy_pinsSet, by rw [hw, he, Option.getD_some]⟩
    case refine_2 => cases he.symm.trans hn

-- Nothing can be read, and what is written arrives.
def unreadable : Environment OwCall.Answer
  | _, .readPIOLogicStateDS2408 _       => none
  | _, .channelAccessWriteDS2408 _ data => some data
  | _, .readVadDS2438                   => none

-- If the relay PIO cannot be read, then a byte that nobody has put there is written to it.
theorem pins_not_set_atomically : ¬∀ (env : Environment OwCall.Answer)
    (uninitialised : History OwCall.Answer → UInt8) (w : OwWorld) (d : Pio) (pinsMask : UInt8)
    (setPinsTo5Volts : Bool), ∃ success w',
      SetsAtomically env w d uninitialised pinsMask setPinsTo5Volts success w' := by
  intro h
  have ⟨_, _, hs⟩ :=
    h unreadable (fun _ => 0) ⟨Pio.initialState, []⟩ .relay relayRioChargerOff true
  obtain ⟨rfl, rfl⟩ := Prod.mk.inj <| Option.some.inj hs.runs
  cases (hs.atomic rfl).left

end RoboOne.Hardware
