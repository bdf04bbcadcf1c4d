import RoboOne.Hardware.Agreement
import RoboOne.Hardware.Relays
import RoboOne.Library.Store

namespace RoboOne.Hardware

open Interaction Transition Bits Store

-- What the pins of the Darlington and of the relay PIO switch. The two toggles of the Orangutan are
-- read back as well, but are never left in the other state.
inductive Relay
  | rioPwr12V
  | rioPwrBatt
  | oPwr12V
  | oPwrBatt
  | rioBatteryCharger
  | o1BatteryCharger
  | o2BatteryCharger
  | o3BatteryCharger
  | onPCBRelays
  | externalRelays
  | oPwr
  | oRst
deriving DecidableEq

namespace Relay

def pio : Relay → Pio
  | rioPwr12V         => .darlington
  | rioPwrBatt        => .darlington
  | oPwr12V           => .relay
  | oPwrBatt          => .relay
  | rioBatteryCharger => .relay
  | o1BatteryCharger  => .relay
  | o2BatteryCharger  => .relay
  | o3BatteryCharger  => .relay
  | onPCBRelays       => .darlington
  | externalRelays    => .relay
  | oPwr              => .darlington
  | oRst              => .darlington

def pin : Relay → Nat
  | rioPwr12V         => 0
  | rioPwrBatt        => 1
  | oPwr12V           => 0
  | oPwrBatt          => 1
  | rioBatteryCharger => 2
  | o1BatteryCharger  => 3
  | o2BatteryCharger  => 4
  | o3BatteryCharger  => 5
  | onPCBRelays       => 7
  | externalRelays    => 6
  | oPwr              => 2
  | oRst              => 3

-- The level of the pin that means the relay is on.
def onLevel : Relay → Bool
  | rioPwr12V         => true
  | rioPwrBatt        => false
  | oPwr12V           => true
  | oPwrBatt          => false
  | rioBatteryCharger => false
  | o1BatteryCharger  => false
  | o2BatteryCharger  => false
  | o3BatteryCharger  => false
  | onPCBRelays       => false
  | externalRelays    => false
  | oPwr              => true
  | oRst              => true

def level (r : Relay) (on : Bool) : Bool :=
  on == r.onLevel

-- The state that the pins of its device put the relay into.
def isOn (r : Relay) (pinsState : UInt8) : Bool :=
  bit pinsState r.pin == r.onLevel

def read : Relay → OwProgram (Option Bool)
  | rioPwr12V         => readRioPwr12V
  | rioPwrBatt        => readRioPwrBatt
  | oPwr12V           => readOPwr12V
  | oPwrBatt          => readOPwrBatt
  | rioBatteryCharger => readRioBatteryCharger
  | o1BatteryCharger  => readO1BatteryCharger
  | o2BatteryCharger  => readO2BatteryCharger
  | o3BatteryCharger  => readO3BatteryCharger
  | onPCBRelays       => readOnPCBRelaysEnabled
  | externalRelays    => readExternalRelaysEnabled
  | oPwr              => readOPwr
  | oRst              => readORst

theorem read_eq (r : Relay) : r.read = readRelay r.pio (single r.pin) r.onLevel := by
  cases r <;> rfl

theorem pin_lt (r : Relay) : r.pin < 8 := by
  cases r <;> decide

theorem pio_eq (r : Relay) : r.pio = .darlington ∨ r.pio = .relay := by
  cases r <;> decide

theorem not_input (r : Relay) : bit r.pio.inputMask r.pin = false := by
  cases r <;> rfl

-- No two relays have the same pin of the same device.
theorem eq_of_pin_eq {r r' : Relay} (hd : r.pio = r'.pio) (hp : r.pin = r'.pin) : r = r' := by
  cases r <;> cases r' <;> first
    | rfl
    | exact absurd hd (by decide)
    | exact absurd hp (by decide)

end Relay

inductive RelayCall
  | toggleOPwr
  | toggleORst
  | setRioPwr12VOn
  | setRioPwr12VOff
  | setRioPwrBattOn
  | setRioPwrBattOff
  | setOPwr12VOn
  | setOPwr12VOff
  | setOPwrBattOn
  | setOPwrBattOff
  | setRioBatteryChargerOn
  | setRioBatteryChargerOff
  | setO1BatteryChargerOn
  | setO1BatteryChargerOff
  | setO2BatteryChargerOn
  | setO2BatteryChargerOff
  | setO3BatteryChargerOn
  | setO3BatteryChargerOff
  | setAllBatteryChargersOn
  | setAllBatteryChargersOff
  | setAllOChargersOn
  | setAllOChargersOff
  | disableOnPCBRelays
  | enableOnPCBRelays
  | disableExternalRelays
  | enableExternalRelays
  | read (r : Relay)
deriving DecidableEq

namespace RelayCall

def run (uninitialised : History OwCall.Answer → UInt8) : RelayCall → OwProgram Bool
  | toggleOPwr               => Hardware.toggleOPwr
  | toggleORst               => Hardware.toggleORst
  | setRioPwr12VOn           => Hardware.setRioPwr12VOn uninitialised
  | setRioPwr12VOff          => Hardware.setRioPwr12VOff uninitialised
  | setRioPwrBattOn          => Hardware.setRioPwrBattOn uninitialised
  | setRioPwrBattOff         => Hardware.setRioPwrBattOff uninitialised
  | setOPwr12VOn             => Hardware.setOPwr12VOn uninitialised
  | setOPwr12VOff            => Hardware.setOPwr12VOff uninitialised
  | setOPwrBattOn            => Hardware.setOPwrBattOn uninitialised
  | setOPwrBattOff           => Hardware.setOPwrBattOff uninitialised
  | setRioBatteryChargerOn   => Hardware.setRioBatteryChargerOn uninitialised
  | setRioBatteryChargerOff  => Hardware.setRioBatteryChargerOff uninitialised
  | setO1BatteryChargerOn    => Hardware.setO1BatteryChargerOn uninitialised
  | setO1BatteryChargerOff   => Hardware.setO1BatteryChargerOff uninitialised
  | setO2BatteryChargerOn    => Hardware.setO2BatteryChargerOn uninitialised
  | setO2BatteryChargerOff   => Hardware.setO2BatteryChargerOff uninitialised
  | setO3BatteryChargerOn    => Hardware.setO3BatteryChargerOn uninitialised
  | setO3BatteryChargerOff   => Hardware.setO3BatteryChargerOff uninitialised
  | setAllBatteryChargersOn  => Hardware.setAllBatteryChargersOn uninitialised
  | setAllBatteryChargersOff => Hardware.setAllBatteryChargersOff uninitialised
  | setAllOChargersOn        => Hardware.setAllOChargersOn uninitialised
  | setAllOChargersOff       => Hardware.setAllOChargersOff uninitialised
  | disableOnPCBRelays       => Hardware.disableOnPCBRelays uninitialised
  | enableOnPCBRelays        => Hardware.enableOnPCBRelays uninitialised
  | disableExternalRelays    => Hardware.disableExternalRelays uninitialised
  | enableExternalRelays     => Hardware.enableExternalRelays uninitialised
  | read r                   => do
    let isOn ← r.read
    return isOn.isSome

-- What is requested of which relays, in this order.
def requests : RelayCall → List (Relay × Bool)
  | toggleOPwr               => []
  | toggleORst               => []
  | setRioPwr12VOn           => [(.rioPwr12V, true)]
  | setRioPwr12VOff          => [(.rioPwr12V, false)]
  | setRioPwrBattOn          => [(.rioPwrBatt, true)]
  | setRioPwrBattOff         => [(.rioPwrBatt, false)]
  | setOPwr12VOn             => [(.oPwr12V, true)]
  | setOPwr12VOff            => [(.oPwr12V, false)]
  | setOPwrBattOn            => [(.oPwrBatt, true)]
  | setOPwrBattOff           => [(.oPwrBatt, false)]
  | setRioBatteryChargerOn   => [(.rioBatteryCharger, true)]
  | setRioBatteryChargerOff  => [(.rioBatteryCharger, false)]
  | setO1BatteryChargerOn    => [(.o1BatteryCharger, true)]
  | setO1BatteryChargerOff   => [(.o1BatteryCharger, false)]
  | setO2BatteryChargerOn    => [(.o2BatteryCharger, true)]
  | setO2BatteryChargerOff   => [(.o2BatteryCharger, false)]
  | setO3BatteryChargerOn    => [(.o3BatteryCharger, true)]
  | setO3BatteryChargerOff   => [(.o3BatteryCharger, false)]
  | setAllBatteryChargersOn  => [(.rioBatteryCharger, true), (.o1BatteryCharger, true),
    (.o2BatteryCharger, true), (.o3BatteryCharger, true)]
  | setAllBatteryChargersOff => [(.rioBatteryCharger, false), (.o1BatteryCharger, false),
    (.o2BatteryCharger, false), (.o3BatteryCharger, false)]
  | setAllOChargersOn        => [(.o1BatteryCharger, true), (.o2BatteryCharger, true),
    (.o3BatteryCharger, true)]
  | setAllOChargersOff       => [(.o1BatteryCharger, false), (.o2BatteryCharger, false),
    (.o3BatteryCharger, false)]
  | disableOnPCBRelays       => [(.onPCBRelays, false)]
  | enableOnPCBRelays        => [(.onPCBRelays, true)]
  | disableExternalRelays    => [(.externalRelays, false)]
  | enableExternalRelays     => [(.externalRelays, true)]
  | read _                   => []

end RelayCall

-- The state that has been requested last of a relay, or else what it was before.
def requested (initial : Relay → Bool) (calls : List RelayCall) (r : Relay) : Bool :=
  ((calls.flatMap RelayCall.requests).reverse.lookup r).getD (initial r)

def relayStep (env : Environment OwCall.Answer) (uninitialised : History OwCall.Answer → UInt8)
    (w : OwWorld) (c : RelayCall) : Option OwWorld :=
  exec (c.run uninitialised) env w

-- Everything on the bus succeeds, and a pin is read as what the device puts out, unless it is an input,
-- or is read from the shadow.
structure WorkingBus (env : Environment OwCall.Answer) (initial : Pio → UInt8) : Prop where
  read  : ∀ h d, ∃ pinsState, env h (.readPIOLogicStateDS2408 d) = some pinsState ∧
    pinsState &&& ~~~(d.readShadowMask ||| d.inputMask) =
      outputLatch initial h d &&& ~~~(d.readShadowMask ||| d.inputMask)
  write : ∀ h d data, (env h (.channelAccessWriteDS2408 d data)).isSome

-- The devices and their shadows have the relays in the states of the store.
structure Switched (initial : Pio → UInt8) (store : Relay → Bool) (w : OwWorld) : Prop where
  latch  : ∀ r : Relay, r.isOn (outputLatch initial w.history r.pio) = store r
  shadow : ∀ r : Relay, r.isOn (w.memory r.pio) = store r

variable {env : Environment OwCall.Answer} {uninitialised : History OwCall.Answer → UInt8}
  {initial latch shadows : Pio → UInt8} {d : Pio} {w₀ w₁ w : OwWorld} {data pinsState : UInt8}
  {store store' : Relay → Bool} {r r' : Relay} {on : Bool}

namespace Relay

theorem isOn_congr {b b' : UInt8} (h : bit b r.pin = bit b' r.pin) : r.isOn b = r.isOn b' := by
  rw [isOn, isOn, h]

theorem isOn_of_bit (h : bit pinsState r.pin = r.level on) : r.isOn pinsState = on := by
  rw [isOn, h, level]
  cases on <;> cases r.onLevel <;> rfl

-- How the state is computed by the functions that read it.
theorem isOn_eq_ite : r.isOn pinsState =
    if pinsState &&& single r.pin ≠ 0 then r.onLevel else !r.onLevel := by
  rw [isOn]
  simp only [and_single_ne_zero_iff r.pin_lt]
  cases bit pinsState r.pin <;> cases r.onLevel <;> rfl

theorem isOn_pinsSet (h : r'.pio = r.pio) :
    r'.isOn (pinsSet r.pio (single r.pin) (r.level on) pinsState) =
      if r' = r then on else r'.isOn pinsState := by
  have hb : bit (pinsSet r.pio (single r.pin) (r.level on) pinsState) r'.pin =
      if r'.pin = r.pin then r.level on else bit pinsState r'.pin := by
    rw [pinsSet, bit_or, bit_set r.pin_lt, ← h, r'.not_input, Bool.or_false]
  by_cases hr : r' = r
  case pos =>
    subst hr
    rw [if_pos rfl] at hb ⊢
    exact isOn_of_bit hb
  case neg =>
    rw [if_neg fun hp => hr (eq_of_pin_eq h hp)] at hb
    rw [if_neg hr]
    exact isOn_congr hb

-- The second turn takes back the first one.
theorem isOn_pinsToggled (h : r'.pio = r.pio) :
    r'.isOn ((pinsToggled r.pio (single r.pin))^[2] pinsState) = r'.isOn pinsState := by
  have hb (pinsState) : bit (pinsToggled r.pio (single r.pin) pinsState) r'.pin =
      (bit pinsState r'.pin ^^ decide (r'.pin = r.pin)) := by
    rw [pinsToggled, bit_or, bit_toggle r.pin_lt, ← h, r'.not_input, Bool.or_false]
  refine isOn_congr ?_
  rw [Function.iterate_succ_apply', Function.iterate_one, hb, hb, Bool.xor_assoc, Bool.xor_self,
    Bool.xor_false]

end Relay

-- The shadow and what is read of the device have the relays in the same states.
theorem isOn_accountForShadow (hl : ∀ r : Relay, r.isOn (latch r.pio) = store r)
    (hs : ∀ r : Relay, r.isOn (shadows r.pio) = store r)
    (hp : ∀ i, bit r.pio.readShadowMask i = false → bit r.pio.inputMask i = false →
      bit pinsState i = bit (latch r.pio) i) :
    r.isOn (accountForShadow r.pio (shadows r.pio) pinsState) = store r := by
  by_cases hm : bit r.pio.readShadowMask r.pin = true
  case pos =>
    rw [← hs]
    exact Relay.isOn_congr <| bit_accountForShadow.trans (if_pos hm)
  case neg =>
    rw [← hl]
    refine Relay.isOn_congr <| (bit_accountForShadow.trans (if_neg hm)).trans ?_
    exact hp _ (eq_false_of_ne_true hm) r.not_input

-- A program may be given what the devices put out before it, and the shadows.
theorem Switched.ensures {α : Type} {p : OwProgram α} {Q : α → OwWorld → Prop}
    (h : ∀ latch shadows, (∀ r : Relay, r.isOn (latch r.pio) = store r) →
      (∀ r : Relay, r.isOn (shadows r.pio) = store r) → Ensures env (At initial latch shadows) p Q) :
    Ensures env (Switched initial store) p Q :=
  fun w hw => h _ _ hw.latch hw.shadow w (At.here initial w)

-- A device is written, and with it its relays.
theorem Wrote.switched (hw : Wrote initial latch shadows d data w)
    (hl : ∀ r : Relay, r.isOn (latch r.pio) = store r)
    (hs : ∀ r : Relay, r.isOn (shadows r.pio) = store r)
    (hd : ∀ r : Relay, r.pio = d → r.isOn data = store' r)
    (ho : ∀ r : Relay, r.pio ≠ d → store r = store' r) : Switched initial store' w := by
  have hu {f : Pio → UInt8} (hf : ∀ r : Relay, r.isOn (f r.pio) = store r) (r : Relay) :
      r.isOn (Function.update f d data r.pio) = store' r := by
    by_cases h : r.pio = d
    case pos => rw [h, Function.update_self, hd r h]
    case neg => rw [Function.update_of_ne h, hf, ho r h]
  constructor
  case latch  => exact hw.latch ▸ hu hl
  case shadow => exact hw.memory ▸ hu hs

namespace WorkingBus

theorem exists_read (hb : WorkingBus env initial) {pins : Option UInt8}
    (hr : ReadOf env initial latch d pins) :
    ∃ pinsState, pins = some pinsState ∧ ∀ i, bit d.readShadowMask i = false →
      bit d.inputMask i = false → bit pinsState i = bit (latch d) i := by
  obtain ⟨h, rfl, rfl⟩ := hr
  have ⟨pinsState, hp, hl⟩ := hb.read h d
  refine ⟨pinsState, hp, fun i hs hi => ?_⟩
  have hl : bit _ i = bit _ i := congrArg (bit · i) hl
  simpa only [bit_and_not, bit_or, hs, hi, Bool.or_false, Bool.not_false, Bool.and_true] using hl

theorem wrote (hb : WorkingBus env initial) {success : Bool}
    (hw : Outcome env initial latch shadows d data success w) :
    success = true ∧ Wrote initial latch shadows d data w := by
  cases success
  case true => exact ⟨rfl, hw⟩
  case false =>
    have ⟨_, h, data', hn⟩ := hw
    have hs := hb.write h d data'
    rw [hn] at hs
    cases hs

-- The relay is switched, and no other one.
theorem setPinsWithShadow_spec (hb : WorkingBus env initial) (store : Relay → Bool) (r : Relay)
    (on : Bool) :
    Ensures env (Switched initial store)
      (setPinsWithShadow uninitialised r.pio (single r.pin) (r.level on)) fun success w =>
        success = true ∧ Switched initial (Function.update store r on) w := by
  refine Switched.ensures fun latch shadows hl hs =>
    Hardware.setPinsWithShadow_spec.mono (fun _ hw => hw) ?_
  rintro success w ⟨pins, junk, hr, ho⟩
  have ⟨hsuccess, hw⟩ := hb.wrote ho
  obtain ⟨pinsState, rfl, hp⟩ := hb.exists_read hr
  refine ⟨hsuccess, hw.switched hl hs (fun r' hr' => ?_) fun r' hr' => ?_⟩
  case refine_1 =>
    rw [Relay.isOn_pinsSet hr', Function.update_apply]
    refine if_congr Iff.rfl rfl ?_
    exact hr' ▸ isOn_accountForShadow hl hs (hr' ▸ hp)
  case refine_2 => exact (Function.update_of_ne (fun h => hr' (congrArg Relay.pio h)) _ _).symm

theorem togglePinsWithShadow_spec (hb : WorkingBus env initial) (r : Relay) :
    Ensures env (Switched initial store) (togglePinsWithShadow r.pio (single r.pin))
      fun success w => success = true ∧ Switched initial store w := by
  refine Switched.ensures fun latch shadows hl hs =>
    Hardware.togglePinsWithShadow_spec.mono (fun _ hw => hw) ?_
  rintro success w (⟨pinsState, hr, ho⟩ | ⟨hr, _⟩)
  case inl =>
    have ⟨hsuccess, hw⟩ := hb.wrote ho
    obtain ⟨_, ⟨rfl⟩, hp⟩ := hb.exists_read hr
    refine ⟨hsuccess, hw.switched hl hs (fun r' hr' => ?_) fun _ _ => rfl⟩
    rw [Relay.isOn_pinsToggled hr']
    exact hr' ▸ isOn_accountForShadow hl hs (hr' ▸ hp)
  case inr =>
    have ⟨_, h, _⟩ := hb.exists_read hr
    cases h

theorem readPinsWithShadow_spec (hb : WorkingBus env initial) (r : Relay) :
    Ensures env (Switched initial store) (readPinsWithShadow r.pio) fun read w =>
      (∃ pinsState, read = some pinsState ∧ r.isOn pinsState = store r) ∧
        Switched initial store w := by
  refine Switched.ensures fun latch shadows hl hs =>
    Hardware.readPinsWithShadow_spec.mono (fun _ hw => hw) ?_
  rintro read w ⟨⟨pins, hr, rfl⟩, hw⟩
  obtain ⟨pinsState, rfl, hp⟩ := hb.exists_read hr
  exact ⟨⟨_, rfl, isOn_accountForShadow hl hs hp⟩, hw.latch ▸ hl, hw.memory ▸ hs⟩

theorem read_spec (hb : WorkingBus env initial) (r : Relay) :
    Ensures env (Switched initial store) r.read fun isOn w =>
      isOn = some (store r) ∧ Switched initial store w := by
  rw [r.read_eq]
  refine (hb.readPinsWithShadow_spec r).bind fun read => .pull ?_
  rintro ⟨pinsState, rfl, hp⟩
  refine ensures_pure fun w hw => ⟨?_, hw⟩
  rw [Option.map_some, ← hp, Relay.isOn_eq_ite]

-- Each call does to the relays what it requests of them.
theorem call_spec (hb : WorkingBus env initial) (store : Relay → Bool) (c : RelayCall) :
    Ensures env (Switched initial store) (c.run uninitialised) fun success w =>
      success = true ∧ Switched initial (writeAll store c.requests) w := by
  have switch (store : Relay → Bool) (r : Relay) (on : Bool) :
      Ensures env (Switched initial store)
        (setPinsWithShadow uninitialised r.pio (single r.pin) (r.level on)) fun success w =>
          success = true ∧ Switched initial (Function.update store r on) w :=
    hb.setPinsWithShadow_spec store r on
  cases c
  case toggleOPwr               => exact hb.togglePinsWithShadow_spec .oPwr
  case toggleORst               => exact hb.togglePinsWithShadow_spec .oRst
  case setRioPwr12VOn           => exact switch store .rioPwr12V true
  case setRioPwr12VOff          => exact switch store .rioPwr12V false
  case setRioPwrBattOn          => exact switch store .rioPwrBatt true
  case setRioPwrBattOff         => exact switch store .rioPwrBatt false
  case setOPwr12VOn             => exact switch store .oPwr12V true
  case setOPwr12VOff            => exact switch store .oPwr12V false
  case setOPwrBattOn            => exact switch store .oPwrBatt true
  case setOPwrBattOff           => exact switch store .oPwrBatt false
  case setRioBatteryChargerOn   => exact switch store .rioBatteryCharger true
  case setRioBatteryChargerOff  => exact switch store .rioBatteryCharger false
  case setO1BatteryChargerOn    => exact switch store .o1BatteryCharger true
  case setO1BatteryChargerOff   => exact switch store .o1BatteryCharger false
  case setO2BatteryChargerOn    => exact switch store .o2BatteryCharger true
  case setO2BatteryChargerOff   => exact switch store .o2BatteryCharger false
  case setO3BatteryChargerOn    => exact switch store .o3BatteryCharger true
  case setO3BatteryChargerOff   => exact switch store .o3BatteryCharger false
  case setAllBatteryChargersOn =>
    exact (switch _ .rioBatteryCharger true).bind_ite <| (switch _ .o1BatteryCharger true).bind_ite <|
      (switch _ .o2BatteryCharger true).bind_ite <| switch _ .o3BatteryCharger true
  case setAllBatteryChargersOff =>
    exact (switch _ .rioBatteryCharger false).bind_ite <| (switch _ .o1BatteryCharger false).bind_ite <|
      (switch _ .o2BatteryCharger false).bind_ite <| switch _ .o3BatteryCharger false
  case setAllOChargersOn =>
    exact (switch _ .o1BatteryCharger true).bind_ite <| (switch _ .o2BatteryCharger true).bind_ite <|
      switch _ .o3BatteryCharger true
  case setAllOChargersOff =>
    exact (switch _ .o1BatteryCharger false).bind_ite <| (switch _ .o2BatteryCharger false).bind_ite <|
      switch _ .o3BatteryCharger false
  case disableOnPCBRelays       => exact switch store .onPCBRelays false
  case enableOnPCBRelays        => exact switch store .onPCBRelays true
  case disableExternalRelays    => exact switch store .externalRelays false
  case enableExternalRelays     => exact switch store .externalRelays true
  case read r =>
    refine (hb.read_spec r).bind fun isOn => .pull ?_
    rintro rfl
    exact ensures_pure fun w hw => ⟨rfl, hw⟩

end WorkingBus

-- The setup puts out what is in the shadows, and the inputs are no relays.
theorem switched_of_setup (hd : setupPio .darlington true true env w₀ = some (true, w₁))
    (hr : setupPio .relay true true env w₁ = some (true, w)) :
    Switched initial (fun r => r.isOn (w₀.memory r.pio)) w := by
  have hat := setupPio_spec.result (At.here initial w₀) hd
  have hat := setupPio_spec.result hat hr
  constructor
  case shadow => exact fun r => by rw [hat.memory]
  case latch =>
    intro r
    rw [hat.latch]
    refine Relay.isOn_congr ?_
    have hb : bit (w₀.memory r.pio ||| r.pio.inputMask) r.pin = bit (w₀.memory r.pio) r.pin := by
      rw [bit_or, r.not_input, Bool.or_false]
    rcases r.pio_eq with h | h
    case inl => simpa [h] using hb
    case inr => simpa [h] using hb

-- To begin with, the batteries supply everything, and the chargers are on, but the relays are disabled.
theorem isOn_initialState (r : Relay) : r.isOn (Pio.initialState r.pio) =
    decide (r ∈ [.rioPwrBatt, .oPwrBatt, .rioBatteryCharger, .o1BatteryCharger, .o2BatteryCharger,
      .o3BatteryCharger]) := by
  cases r <;> rfl

theorem requested_eq_foldl {calls : List RelayCall} : requested store calls r =
    calls.foldl (fun store c => writeAll store c.requests) store r := by
  rw [requested, ← writeAll_eq_lookup, writeAll_flatMap]

-- A relay is read in the state that was requested last, whatever has been done to other relays.
theorem relay_read_as_requested (hb : WorkingBus env initial)
    (hd : setupPio .darlington true true env w₀ = some (true, w₁))
    (hr : setupPio .relay true true env w₁ = some (true, w)) (calls : List RelayCall) :
    ∃ w', run (relayStep env uninitialised) w calls = some w' ∧ ∀ r : Relay, ∃ w'',
      r.read env w' = some (some (requested (fun r => r.isOn (w₀.memory r.pio)) calls r), w'') := by
  have step (w : OwWorld) (store : Relay → Bool) (c : RelayCall) (hw : Switched initial store w) :
      ∃ w', relayStep env uninitialised w c = some w' ∧
        Switched initial (writeAll store c.requests) w' :=
    have ⟨w', hw', _, _, hs⟩ := (hb.call_spec store c).exec hw
    ⟨w', hw', hs⟩
  have ⟨w', hw', hs⟩ := run_simulates step (switched_of_setup hd hr) calls
  refine ⟨w', hw', fun r => ?_⟩
  have ⟨_, w'', hread, h, _⟩ := hb.read_spec r w' hs
  exact ⟨w'', by rw [hread, h, requested_eq_foldl]⟩

theorem latchBus_working : WorkingBus latchBus Pio.initialState where
  read _ _    := ⟨_, rfl, rfl⟩
  write _ _ _ := rfl

theorem setupPio_latchBus (d : Pio) (w : OwWorld) :
    ∃ w', setupPio d true true latchBus w = some (true, w') :=
  ⟨_, rfl⟩

theorem relay_read_as_requested_chargers : ∃ w₁ w,
    setupPio .darlington true true latchBus ⟨Pio.initialState, []⟩ = some (true, w₁) ∧
    setupPio .relay true true latchBus w₁ = some (true, w) ∧
    ∃ w', run (relayStep latchBus fun _ => 0) w
      [.setAllBatteryChargersOff, .toggleOPwr, .setO2BatteryChargerOn] = some w' ∧
    ∀ r : Relay, ∃ w'', r.read latchBus w' =
      some (some (decide (r ∈ [.rioPwrBatt, .oPwrBatt, .o2BatteryCharger])), w'') := by
  have ⟨w₁, hd⟩ := setupPio_latchBus .darlington ⟨Pio.initialState, []⟩
  have ⟨w, hr⟩ := setupPio_latchBus .relay w₁
  refine ⟨w₁, w, hd, hr, ?_⟩
  have ⟨w', hw', hread⟩ := @relay_read_as_requested latchBus (fun _ => 0) _ _ _ _ latchBus_working hd hr
    [.setAllBatteryChargersOff, .toggleOPwr, .setO2BatteryChargerOn]
  refine ⟨w', hw', fun r => ?_⟩
  have ⟨w'', h⟩ := hread r
  exact ⟨w'', by rw [h]; cases r <;> rfl⟩

end RoboOne.Hardware
