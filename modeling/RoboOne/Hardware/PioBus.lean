import RoboOne.Hardware.RelayStore
import RoboOne.OneWire.Ds2408

namespace RoboOne.Hardware

open Interaction Transition Bits OneWire

-- What a function of the bus does to a device.
def onChip (p : BusProgram (Option UInt8)) (chip : Ds2408) : Option UInt8 × Ds2408 :=
  match p (behaviour Ds2408.respond chip) ⟨(), []⟩ with
  | some (a, w) => (a, after Ds2408.respond chip w.history)
  | none        => (none, chip)

variable (voltage : Option UInt16)

-- The PIOs are DS2408s, and the calls for them are the functions of the driver.
def respondPio (chips : Pio → Ds2408) : (c : OwCall) → c.Answer × (Pio → Ds2408)
  | .readPIOLogicStateDS2408 d       =>
    let r := onChip OneWire.Bus.readPIOLogicStateDS2408 (chips d)
    (r.1, Function.update chips d r.2)
  | .channelAccessWriteDS2408 d data =>
    let r := onChip (OneWire.Bus.channelAccessWriteDS2408 data) (chips d)
    (r.1, Function.update chips d r.2)
  | .readVadDS2438                   => (voltage, chips)

-- The devices behind some calls. A write that has failed has not reached them.
def reached (chips : Pio → Ds2408) (h : History OwCall.Answer) : Pio → Ds2408 :=
  h.foldl (fun chips x =>
    match x with
    | ⟨.channelAccessWriteDS2408 _ _, none⟩ => chips
    | ⟨c, _⟩                                => (respondPio voltage chips c).2) chips

def pioBus (chips : Pio → Ds2408) : Environment OwCall.Answer :=
  fun h c => (respondPio voltage (reached voltage chips h) c).1

-- Nothing from outside keeps a pin low that is read for its state.
def Unloaded (chips : Pio → Ds2408) : Prop :=
  ∀ d, (chips d).inputs &&& ~~~(d.readShadowMask ||| d.inputMask) =
    ~~~(d.readShadowMask ||| d.inputMask)

variable {voltage} {chips : Pio → Ds2408} {chip chip' : Ds2408} {d d' : Pio} {data : UInt8}
  {h : History OwCall.Answer} {p : BusProgram (Option UInt8)} {a : Option UInt8}
  {uninitialised : History OwCall.Answer → UInt8} {store : Relay → Bool} {w : OwWorld}

theorem onChip_eq (hr : Runs Ds2408.respond p chip () a chip' ()) : onChip p chip = (a, chip') := by
  have ⟨h', hp, ha⟩ := hr chip [] rfl
  rw [onChip, hp, ← ha]

theorem respondPio_read : respondPio voltage chips (.readPIOLogicStateDS2408 d) =
    (some (chips d).pins, chips) := by
  have hread : onChip OneWire.Bus.readPIOLogicStateDS2408 (chips d) =
      (some (chips d).pins, chips d) :=
    onChip_eq <| readRegisterDS2408_runs (by decide) (by decide)
  rw [respondPio]
  simp only [hread, Function.update_eq_self]

theorem respondPio_write : respondPio voltage chips (.channelAccessWriteDS2408 d data) =
    (some ((chips d).write data).pins, Function.update chips d ((chips d).write data)) := by
  rw [respondPio]
  simp only [onChip_eq channelAccessWriteDS2408_runs]

-- What the devices put out is what has been written to them.
theorem reached_eq : (reached voltage chips h d').latch =
      outputLatch (fun d => (chips d).latch) h d' ∧
    (reached voltage chips h d').inputs = (chips d').inputs := by
  induction h generalizing chips
  case nil => exact ⟨rfl, rfl⟩
  case cons x h hi =>
    have ⟨c, a⟩ := x
    rw [reached, outputLatch, List.foldl_cons, List.foldl_cons, ← reached, ← outputLatch]
    cases c
    case readPIOLogicStateDS2408 d =>
      dsimp only [latchCall]
      rw [respondPio_read]
      exact hi
    case readVadDS2438 => exact hi
    case channelAccessWriteDS2408 d data =>
      cases a
      case none   => exact hi
      case some b =>
        dsimp only [latchCall]
        rw [respondPio_write, hi.left, hi.right]
        refine ⟨congrArg (outputLatch · h d') ?_, ?_⟩
        case refine_1 => exact funext fun d₁ => Function.apply_update (fun _ => Ds2408.latch) _ _ _ d₁
        case refine_2 =>
          dsimp only
          by_cases hd : d' = d
          case pos => subst hd; rw [Function.update_self]; rfl
          case neg => rw [Function.update_of_ne hd]

-- So the driver and the devices make a bus on which the relays can be switched.
theorem pioBus_working (hu : Unloaded chips) :
    WorkingBus (pioBus voltage chips) fun d => (chips d).latch where
  read h d := by
    have ⟨hlatch, hinputs⟩ := @reached_eq voltage chips d h
    refine ⟨(reached voltage chips h d).pins, congrArg Prod.fst respondPio_read, ?_⟩
    rw [Ds2408.pins, hlatch, hinputs, UInt8.and_assoc, hu]
  write h d data := by
    rw [pioBus, respondPio_write]
    rfl

theorem setupPio_eq {e : Environment OwCall.Answer} {w : OwWorld} : ∃ h data w',
    setupPio d true true e w =
      some (Option.isSome (e h (.channelAccessWriteDS2408 d data)), w') :=
  ⟨_, _, _, rfl⟩

-- The setup puts the relays into the states of the shadows.
theorem setupPio_on_chips (hu : Unloaded chips) (shadows : Pio → UInt8) : ∃ w₁ w,
    setupPio .darlington true true (pioBus voltage chips) ⟨shadows, []⟩ = some (true, w₁) ∧
    setupPio .relay true true (pioBus voltage chips) w₁ = some (true, w) ∧
    Switched (fun d => (chips d).latch) (fun r => r.isOn (shadows r.pio)) w := by
  have setup (d : Pio) (w : OwWorld) :
      ∃ w', setupPio d true true (pioBus voltage chips) w = some (true, w') := by
    have ⟨h, data, w', hs⟩ := setupPio_eq (d := d) (e := pioBus voltage chips) (w := w)
    rw [(pioBus_working hu).write] at hs
    exact ⟨w', hs⟩
  have ⟨w₁, hd⟩ := setup .darlington ⟨shadows, []⟩
  have ⟨w, hr⟩ := setup .relay w₁
  exact ⟨w₁, w, hd, hr, switched_of_setup hd hr⟩

theorem relayStep_on_chips (hu : Unloaded chips) (calls : List RelayCall)
    (hs : Switched (fun d => (chips d).latch) store w) :
    ∃ w', run (relayStep (pioBus voltage chips) uninitialised) w calls = some w' ∧
      ∀ r : Relay, r.isOn (reached voltage chips w'.history r.pio).latch = requested store calls r := by
  have step (w : OwWorld) (store : Relay → Bool) (c : RelayCall)
      (hw : Switched (fun d => (chips d).latch) store w) :
      ∃ w', relayStep (pioBus voltage chips) uninitialised w c = some w' ∧
        Switched (fun d => (chips d).latch) (Store.writeAll store c.requests) w' :=
    have ⟨w', hw', _, _, hs⟩ := ((pioBus_working hu).call_spec store c).exec hw
    ⟨w', hw', hs⟩
  have ⟨w', hw', hs⟩ := run_simulates step hs calls
  refine ⟨w', hw', fun r => ?_⟩
  rw [reached_eq.left, hs.latch, requested_eq_foldl]

-- Behind the setup, the devices keep all relays in the states that have been requested last of them.
theorem relays_switched_on_chips {shadows : Pio → UInt8} (hu : Unloaded chips)
    (calls : List RelayCall) : ∃ w₁ w w',
      setupPio .darlington true true (pioBus voltage chips) ⟨shadows, []⟩ = some (true, w₁) ∧
      setupPio .relay true true (pioBus voltage chips) w₁ = some (true, w) ∧
      run (relayStep (pioBus voltage chips) uninitialised) w calls = some w' ∧
      ∀ r : Relay, r.isOn (reached voltage chips w'.history r.pio).latch =
        requested (fun r => r.isOn (shadows r.pio)) calls r := by
  have ⟨w₁, w, hd, hr, hs⟩ := @setupPio_on_chips voltage chips hu shadows
  have ⟨w', hw', hl⟩ := @relayStep_on_chips voltage chips uninitialised _ w hu calls hs
  exact ⟨w₁, w, w', hd, hr, hw', hl⟩

-- The charging current keeps no pin low, but the twelve volts are missing.
def chargingChips : Pio → Ds2408 := fun d =>
  { inputs := ~~~d.inputMask, latch := 0xFF, activity := 0, mask := 0, polarity := 0, control := 0 }

theorem unloaded_chargingChips : Unloaded chargingChips := by
  intro d
  cases d <;> decide

theorem relays_switched_on_chips_chargers : ∃ w₁ w w',
    setupPio .darlington true true (pioBus none chargingChips) ⟨Pio.initialState, []⟩ =
      some (true, w₁) ∧
    setupPio .relay true true (pioBus none chargingChips) w₁ = some (true, w) ∧
    run (relayStep (pioBus none chargingChips) fun _ => 0) w
      [.setAllBatteryChargersOff, .setO2BatteryChargerOn] = some w' ∧
    ∀ r : Relay, r.isOn (reached none chargingChips w'.history r.pio).latch =
      requested (fun r => r.isOn (Pio.initialState r.pio))
        [.setAllBatteryChargersOff, .setO2BatteryChargerOn] r :=
  relays_switched_on_chips unloaded_chargingChips _

end RoboOne.Hardware
