import RoboOne.Hardware.Chips
import RoboOne.StateMachine.Unconfirmed

namespace RoboOne.Robot

open Hardware Interaction StateMachine Transition OneWire

-- What the devices put out switches a relay on.
def SwitchedOn (chips : Pio → Ds2408) (r : Relay) : Prop :=
  r.isOn (chips r.pio).latch

def supplyRelays : List Relay :=
  [.rioPwrBatt, .rioPwr12V, .oPwrBatt, .oPwr12V]

-- Each of the two loads has a supply.
def SuppliedBy (chips : Pio → Ds2408) : Prop :=
  (SwitchedOn chips .rioPwrBatt ∨ SwitchedOn chips .rioPwr12V) ∧
    (SwitchedOn chips .oPwrBatt ∨ SwitchedOn chips .oPwr12V)

-- The relays of the supplies behind the setup.
def initialRelays : Relays where
  rioPwr12V             := false
  rioPwrBatt            := true
  oPwr12V               := false
  oPwrBatt              := true
  externalRelaysEnabled := false

-- The relays of the state machine are in the states of the store.
structure Stored (x : Relays) (store : Relay → Bool) : Prop where
  rioPwr12V  : x.rioPwr12V = store .rioPwr12V
  rioPwrBatt : x.rioPwrBatt = store .rioPwrBatt
  oPwr12V    : x.oPwr12V = store .oPwr12V
  oPwrBatt   : x.oPwrBatt = store .oPwrBatt

variable {env : Environment Call.Answer} {x : Relays} {store store' : Relay → Bool}
  {m : HardwareMsgType} {ms msgs : List HardwareMsgType} {chips : Pio → Ds2408}
  {voltage : Option UInt16} {uninitialised : History OwCall.Answer → UInt8}
  {w w' : ServerWorld} {es : List Event} {h : History Call.Answer}

-- A message does in the state machine's view what the hardware server does.
theorem Stored.switch (hs : Stored x store) :
    Stored (x.switch m) fun r => (m.request? r).getD (store r) := by
  have ⟨h₁, h₂, h₃, h₄⟩ := hs
  cases m <;> constructor <;> first
    | rfl
    | assumption

theorem Stored.foldl_switch (hs : Stored x store) : Stored (ms.foldl Relays.switch x) fun r =>
    ms.foldl (fun on m => (m.request? r).getD on) (store r) := by
  induction ms generalizing x store
  case nil          => exact hs
  case cons m ms hi => exact hi hs.switch

theorem Stored.congr (hs : Stored x store) (h : ∀ r ∈ supplyRelays, store r = store' r) :
    Stored x store' where
  rioPwr12V  := hs.rioPwr12V.trans <| h _ (by decide)
  rioPwrBatt := hs.rioPwrBatt.trans <| h _ (by decide)
  oPwr12V    := hs.oPwr12V.trans <| h _ (by decide)
  oPwrBatt   := hs.oPwrBatt.trans <| h _ (by decide)

theorem Stored.suppliedBy (hs : Stored x fun r => r.isOn (chips r.pio).latch) (hx : x.Supplied) :
    SuppliedBy chips := by
  have ⟨h₁, h₂, h₃, h₄⟩ := hs
  rwa [Relays.Supplied, h₁, h₂, h₃, h₄] at hx

theorem stored_initialRelays : Stored initialRelays fun r => r.isOn (Pio.initialState r.pio) := by
  constructor <;> rfl

-- From its start on, the state machine keeps up the supplies that the devices switch. Messages may get
-- lost, or only what comes back of them, and others may be sent in between for other relays.
theorem supplies_kept_on_chips (hu : Unloaded chips)
    (hd : StateMachine.doAction .serverStart env ⟨none, []⟩ =
      some ((.successKeepRunning, some (.serverStart true)), w))
    (hr : run (eventStep env) w es = some w') (hh : h <+: w'.history) (hm : ms ∈ mayPerform h)
    (hs : ∀ r ∈ supplyRelays, requesting r msgs = requesting r ms) : ∃ w₁ w₂ w₃,
      setupPio .darlington true true (pioBus voltage chips) ⟨Pio.initialState, []⟩ = some (true, w₁) ∧
      setupPio .relay true true (pioBus voltage chips) w₁ = some (true, w₂) ∧
      run (serveStep (pioBus voltage chips) uninitialised) w₂ msgs = some w₃ ∧
      SuppliedBy (reached voltage chips w₃.history) := by
  have hinit : KeptUp initialRelays [] := by
    intro ms hm
    obtain rfl := List.mem_singleton.mp hm
    exact ⟨.inl rfl, .inl rfl⟩
  have hx := (keptUp_run hinit hd hr).held h List.nil_prefix hh ms hm
  have ⟨w₁, w₂, hd, hr, hw⟩ := @setupPio_on_chips voltage chips hu Pio.initialState
  have ⟨w₃, hw₃, hl⟩ := @serveStep_on_chips uninitialised w₂ voltage chips _ hu msgs hw
  refine ⟨w₁, w₂, w₃, hd, hr, hw₃, ?_⟩
  have hstored : Stored (ms.foldl Relays.switch initialRelays) fun r =>
      ms.foldl (fun on m => (m.request? r).getD on) (r.isOn (Pio.initialState r.pio)) :=
    stored_initialRelays.foldl_switch
  refine (hstored.congr fun r hr => ?_).suppliedBy hx
  rw [hl, hs r hr, foldl_requesting]

-- Nothing comes back when the 12 V supply of the Pi/RIO is switched on.
def unconfirmedEnvironment : Environment Call.Answer :=
  fun h c => match c with
    | .hardwareServerSendReceive .setRioPwr12VOn _ => (false, ⟨[], 0⟩)
    | c                                            => workingEnvironment h c

def startedUnconfirmed : ServerWorld :=
  (step unconfirmedEnvironment ⟨none, []⟩ .serverStart).getD ⟨none, []⟩

-- What is performed of the start and of the docking.
def performedUnconfirmed : List HardwareMsgType :=
  [.setRioPwrBattOn, .setRioPwr12VOff, .setOPwrBattOn, .setOPwr12VOff, .enableOnPCBRelays, .toggleOPwr,
    .sendOString, .enableExternalRelays, .setRioPwr12VOn, .setOPwr12VOn, .setOPwrBattOff, .toggleOPwr,
    .sendOString, .toggleOPwr, .sendOString]

-- A charger is switched on in between.
theorem supplies_kept_on_chips_unconfirmed : ∃ w',
    run (eventStep unconfirmedEnvironment) startedUnconfirmed [.mainsPowerAvailable] = some w' ∧
    ∃ w₁ w₂ w₃,
      setupPio .darlington true true (pioBus none chargingChips) ⟨Pio.initialState, []⟩ =
        some (true, w₁) ∧
      setupPio .relay true true (pioBus none chargingChips) w₁ = some (true, w₂) ∧
      run (serveStep (pioBus none chargingChips) fun _ => 0) w₂
        (.setO1BatteryChargerOn :: performedUnconfirmed) = some w₃ ∧
      SuppliedBy (reached none chargingChips w₃.history) := by
  have hd : StateMachine.doAction .serverStart unconfirmedEnvironment ⟨none, []⟩ =
      some ((.successKeepRunning, some (.serverStart true)), startedUnconfirmed) := rfl
  have ⟨w', hr, hm⟩ : ∃ w' ∈ run (eventStep unconfirmedEnvironment) startedUnconfirmed
      [.mainsPowerAvailable], performedUnconfirmed ∈ mayPerform w'.history := by decide +kernel
  exact ⟨w', hr, supplies_kept_on_chips unloaded_chargingChips hd hr List.prefix_rfl hm (by decide)⟩

end RoboOne.Robot
