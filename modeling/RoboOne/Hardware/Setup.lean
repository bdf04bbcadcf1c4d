import RoboOne.Hardware.Devices

namespace RoboOne.Hardware

open Interaction

-- What is seen of a setup: if a device was found, and what came of an operation that configures it.
inductive SetupEvent
  | found (n : OwDeviceName) (success : Bool)
  | operation (n : OwDeviceName) (success : Bool)
deriving DecidableEq

def setupEvent : ((c : OwCall ⊕ DeviceCall) × Sum.elim OwCall.Answer DeviceCall.Answer c) →
    Option SetupEvent
  | ⟨.inl (.channelAccessWriteDS2408 d _), readBack⟩           =>
    some (.operation (.pio d) (Option.isSome readBack))
  | ⟨.inr (.oneWireAccessDevice n), success⟩                   => some (.found n success)
  | ⟨.inr (.writeNVConfigThresholdDS2438 b _ _), success⟩      =>
    some (.operation (.batteryMonitor b) success)
  | ⟨.inr (.initTimeCapacityDS2438 b), success⟩                =>
    some (.operation (.batteryMonitor b) success)
  | ⟨.inr (.writeTimeCapacityDS2438 b _ _ _), success⟩         =>
    some (.operation (.batteryMonitor b) success)
  | ⟨.inr (.disableTestModeDS2408 d), success⟩                 => some (.operation (.pio d) success)
  | ⟨.inr (.writeControlRegisterDS2408 d _), success⟩          => some (.operation (.pio d) success)
  | _                                                          => none

def setupEvents (h : DeviceHistory) : List SetupEvent :=
  h.filterMap setupEvent

-- All operations that were performed on the device have succeeded.
def Configured (h : DeviceHistory) (n : OwDeviceName) : Prop :=
  .operation n false ∉ setupEvents h

def Found (h : DeviceHistory) (n : OwDeviceName) : Prop :=
  .found n true ∈ setupEvents h

-- Success is returned if and only if everything was found and configured.
def ReportedFaithfully (batteriesOnly success : Bool) (h : DeviceHistory) : Prop :=
  success = true ↔ ∀ n ∈ expectedDevices batteriesOnly, Found h n ∧ Configured h n

def lastExpected (batteriesOnly : Bool) : OwDeviceName :=
  if batteriesOnly then .batteryMonitor .o3 else .pio .generalPurpose

-- If everything is found, then no operation fails on a device unless one does on the last device.
def Unmasked (batteriesOnly : Bool) (h : DeviceHistory) : Prop :=
  (∀ n ∈ expectedDevices batteriesOnly, Found h n) → Configured h (lastExpected batteriesOnly) →
    ∀ n ∈ expectedDevices batteriesOnly, Configured h n

-- What is seen of the setup of a single device.
structure SetUp (n : OwDeviceName) (success : Bool) (h : DeviceHistory) : Prop where
  own        : ∃ successes : List Bool, setupEvents h = successes.map (.operation n)
  configured : success = true ↔ Configured h n

-- What is seen of the setup of some devices.
structure SetUpAll (ns : List OwDeviceName) (found : List Bool) (success : Bool)
    (h : DeviceHistory) : Prop where
  own      : ∀ e ∈ setupEvents h, ∃ n ∈ ns, ∃ success, e = .found n success ∨ e = .operation n success
  complete : found.all id ↔ ∀ n ∈ ns, Found h n
  last     : found.all id → ∀ n ∈ ns.getLast?, success = true ↔ Configured h n

variable {m : (Pio → UInt8) × ChargerStatics} {batteriesOnly success : Bool} {h h' : DeviceHistory}
  {d : Pio} {b : Charger} {n n' : OwDeviceName} {ns : List OwDeviceName} {found : List Bool}

@[simp]
theorem setupEvents_append : setupEvents (h ++ h') = setupEvents h ++ setupEvents h' :=
  List.filterMap_append

@[simp]
theorem setupEvents_nil : setupEvents [] = [] :=
  rfl

@[simp]
theorem setupEvents_cons {x} : setupEvents (x :: h) = (setupEvent x).toList ++ setupEvents h :=
  filterMap_cons_toList

theorem traces_deviceCall {c : DeviceCall}
    {Q : DeviceHistory → c.Answer → (Pio → UInt8) × ChargerStatics → Prop}
    (hQ : ∀ a : c.Answer, Q [⟨.inr c, a⟩] a m) : Traces m (deviceCall c) Q :=
  .call hQ

theorem traces_pins_debugPrintPinsState :
    Traces m (pins debugPrintPinsState) fun calls _ m' => setupEvents calls = [] ∧ m' = m :=
  .part <| debugPrintPinsState_traces fun _ _ _ _ => ⟨rfl, rfl⟩

theorem traces_pins_write {data : UInt8} :
    Traces m (pins (channelAccessWriteDS2408 d data)) fun calls success _ =>
      setupEvents calls = [.operation (.pio d) success] := by
  refine .part ?_
  exact .bind <| .call fun _ => .pure rfl

theorem SetUp.of_events (successes : List Bool)
    (he : setupEvents h = successes.map (.operation n)) (hs : success = successes.all id) :
    SetUp n success h where
  own := ⟨successes, he⟩
  configured := by
    rw [Configured, he, hs]
    simp

theorem setupBatteryMonitor_traces : Traces m (setupBatteryMonitor b) fun calls success _ =>
    SetUp (.batteryMonitor b) success calls := by
  refine .bind <| traces_deviceCall fun s₁ => .ite (fun h₁ => ?_) fun h₁ => ?_
  case refine_2 => exact .pure <| .of_events [s₁] rfl (by simpa using h₁)
  case refine_1 =>
    refine .bind <| traces_deviceCall fun s₂ => .ite (fun h₂ => ?_) fun h₂ => ?_
    case refine_2 =>
      exact .pure <| .of_events [s₁, s₂] rfl (by simpa [h₁] using h₂)
    case refine_1 =>
      refine .bind <| traces_deviceCall fun _ => traces_deviceCall fun s₃ => ?_
      exact .of_events [s₁, s₂, s₃] rfl (by simp [h₁, h₂])

-- The prints do not matter for what is behind them.
theorem traces_debugPrintPinsState_bind {α : Type} {p : DeviceProgram α}
    {Q : DeviceHistory → α → (Pio → UInt8) × ChargerStatics → Prop}
    (hp : ∀ calls, setupEvents calls = [] → Traces m p fun calls' => Q (calls ++ calls')) :
    Traces m (pins debugPrintPinsState >>= fun _ => p) Q := by
  refine .bind <| traces_pins_debugPrintPinsState.mono ?_
  rintro calls _ _ ⟨he, rfl⟩
  exact hp calls he

theorem setupPioDevice_traces :
    Traces m (setupPioDevice d) fun calls success _ => SetUp (.pio d) success calls := by
  refine .bind <| traces_deviceCall fun s₁ => traces_debugPrintPinsState_bind fun p₁ e₁ =>
    .ite (fun h₁ => ?_) fun h₁ => ?_
  case refine_2 =>
    refine .pure <| .of_events [s₁] ?_ (by simpa using h₁)
    simp [e₁, setupEvent]
  case refine_1 =>
    refine .bind <| traces_deviceCall fun s₂ => traces_debugPrintPinsState_bind fun p₂ e₂ =>
      .ite (fun h₂ => ?_) fun h₂ => ?_
    case refine_2 =>
      refine traces_debugPrintPinsState_bind fun p₃ e₃ =>
        .pure <| .of_events [s₁, s₂] ?_ (by simpa [h₁] using h₂)
      simp [e₁, e₂, e₃, setupEvent]
    case refine_1 =>
      refine .bind <| .part <| .load ?_
      refine .bind <| traces_pins_write.mono fun p₃ s₃ m' e₃ => ?_
      refine traces_debugPrintPinsState_bind fun p₄ e₄ =>
        .pure <| .of_events [s₁, s₂, s₃] ?_ (by simp [h₁, h₂])
      simp [e₁, e₂, e₃, e₄, setupEvent]

theorem setupDevice_traces (hb : batteriesOnly = true → ∀ d, n ≠ .pio d) :
    Traces m (setupDevice batteriesOnly n) fun calls success _ => SetUp n success calls := by
  cases n
  case batteryMonitor b => exact setupBatteryMonitor_traces
  case pio d =>
    cases batteriesOnly
    case false => exact .bind <| .assert rfl setupPioDevice_traces
    case true  => exact absurd rfl (hb rfl d)

-- What is seen of one device: if it was found, and then its setup.
structure SetUpOne (n : OwDeviceName) (found success : Bool) (h : DeviceHistory) : Prop where
  seen       : ∃ successes : List Bool,
    setupEvents h = .found n found :: successes.map (.operation n)
  configured : found = true → (success = true ↔ Configured h n)

theorem SetUpOne.of_missing : SetUpOne n false success [⟨.inr (.oneWireAccessDevice n), false⟩] where
  seen         := ⟨[], rfl⟩
  configured h := by cases h

theorem SetUpOne.of_found (hs : SetUp n success h) :
    SetUpOne n true success (⟨.inr (.oneWireAccessDevice n), true⟩ :: h) where
  seen := by
    have ⟨successes, he⟩ := hs.own
    exact ⟨successes, by simp [he, setupEvent]⟩
  configured _ := by
    rw [hs.configured, Configured, Configured, setupEvents_cons]
    simp [setupEvent]

namespace SetUpAll

variable {f s : Bool}

theorem mem_of_found (hs : SetUpAll ns found success h) (hf : Found h n) : n ∈ ns := by
  have ⟨n', hn, _, he⟩ := hs.own _ hf
  rcases he with he | he <;> cases he
  exact hn

theorem configured_of_notMem (hs : SetUpAll ns found success h) (hn : n ∉ ns) : Configured h n := by
  intro hc
  have ⟨n', hn', _, he⟩ := hs.own _ hc
  rcases he with he | he <;> cases he
  exact hn hn'

theorem cons (h₁ : SetUpOne n f s h) (h₂ : SetUpAll ns found success h') (hn : n ∉ ns)
    (hs : ns = [] → success = s) : SetUpAll (n :: ns) (f :: found) success (h ++ h') := by
  have ⟨successes, he⟩ := h₁.seen
  have hfound (n' : OwDeviceName) : Found h n' ↔ n' = n ∧ f = true := by
    simp [Found, he, eq_comm]
  have hconfigured (n' : OwDeviceName) (hn' : n' ≠ n) : Configured h n' := by
    simp [Configured, he, hn'.symm]
  constructor
  case own =>
    intro e hm
    rw [setupEvents_append, List.mem_append, he, List.mem_cons, List.mem_map] at hm
    rcases hm with (rfl | ⟨s, _, rfl⟩) | hm
    case inl.inl => exact ⟨n, .head _, f, .inl rfl⟩
    case inl.inr => exact ⟨n, .head _, s, .inr rfl⟩
    case inr =>
      have ⟨n', hn', h⟩ := h₂.own e hm
      exact ⟨n', .tail _ hn', h⟩
  case complete =>
    have happend (n' : OwDeviceName) : Found (h ++ h') n' ↔ Found h n' ∨ Found h' n' := by
      simp [Found]
    rw [List.all_cons, Bool.and_eq_true, h₂.complete, List.forall_mem_cons]
    simp only [happend, hfound]
    refine and_congr ?_ <| forall₂_congr fun n' hn' => ?_
    case refine_1 => simp [mt h₂.mem_of_found hn]
    case refine_2 =>
      have hne : n' ≠ n := fun h => hn (h ▸ hn')
      simp [hne]
  case last =>
    intro hall n' hn'
    have happend : Configured (h ++ h') n' ↔ Configured h n' ∧ Configured h' n' := by
      simp [Configured]
    rw [List.all_cons, Bool.and_eq_true] at hall
    rw [happend]
    cases ns
    case nil =>
      obtain rfl := Option.some.inj hn'
      rw [hs rfl, h₁.configured hall.left]
      exact (and_iff_left (h₂.configured_of_notMem hn)).symm
    case cons n₁ ns =>
      rw [List.getLast?_cons_cons] at hn'
      have hne : n' ≠ n := fun h => hn (h ▸ List.mem_of_getLast? hn')
      rw [h₂.last hall.right n' hn']
      exact (and_iff_right (hconfigured n' hne)).symm

end SetUpAll

theorem setupLoop_traces (hb : batteriesOnly = true → ∀ n ∈ ns, ∀ d, n ≠ .pio d)
    (hd : ns.Nodup) : Traces m (setupLoop batteriesOnly ns success) fun calls r _ =>
      SetUpAll ns r.1 r.2 calls ∧ (ns = [] → r.2 = success) := by
  induction ns generalizing m success
  case nil => exact .pure ⟨⟨by simp, by simp, by simp⟩, fun _ => rfl⟩
  case cons n ns hi =>
    have hi (s : Bool) (m : (Pio → UInt8) × ChargerStatics) :=
      @hi m s (fun h n' hn' => hb h n' (.tail _ hn')) hd.of_cons
    refine .bind <| traces_deviceCall fun f => .bind ?_
    cases f
    case false =>
      refine .pure <| .bind <| (hi success m).mono fun calls r m' ⟨hr, hs⟩ => .pure ⟨?_, nofun⟩
      simpa using SetUpAll.cons .of_missing hr (List.nodup_cons.mp hd).left hs
    case true =>
      refine (setupDevice_traces fun h => hb h n (.head _)).mono fun calls₁ s₁ m₁ h₁ => ?_
      refine .bind <| (hi s₁ m₁).mono fun calls r m' ⟨hr, hs⟩ => .pure ⟨?_, nofun⟩
      simpa using SetUpAll.cons (.of_found h₁) hr (List.nodup_cons.mp hd).left hs

theorem setupDevices_traces : Traces m (setupDevices batteriesOnly) fun calls success _ =>
    (success = true ↔ (∀ n ∈ expectedDevices batteriesOnly, Found calls n) ∧
      Configured calls (lastExpected batteriesOnly)) := by
  have hb : batteriesOnly = true → ∀ n ∈ expectedDevices batteriesOnly, ∀ d, n ≠ .pio d := by
    rintro rfl n hn d rfl
    revert hn
    cases d <;> decide
  have hd : (expectedDevices batteriesOnly).Nodup := by cases batteriesOnly <;> decide
  have hl : lastExpected batteriesOnly ∈ (expectedDevices batteriesOnly).getLast? := by
    cases batteriesOnly <;> rfl
  refine .bind <| (setupLoop_traces hb hd).mono fun calls ⟨found, success⟩ m' ⟨hs, _⟩ => .pure ?_
  rw [List.append_nil, ← hs.complete]
  cases hf : found.all id
  case false => simp
  case true  => simpa [hf] using hs.last hf _ hl

-- The setup is reported faithfully if and only if no failure is masked by the last device.
theorem setup_faithful_iff (env : DeviceEnvironment) (w : DeviceWorld) (batteriesOnly : Bool) :
    ∃ success w' calls, setupDevices batteriesOnly env w = some (success, w') ∧
      w'.history = w.history ++ calls ∧
      (ReportedFaithfully batteriesOnly success calls ↔ Unmasked batteriesOnly calls) := by
  have ⟨calls, success, m', hr, _, hs⟩ := @setupDevices_traces w.memory batteriesOnly env w.history
  refine ⟨success, _, calls, hr, rfl, ?_⟩
  have hl : lastExpected batteriesOnly ∈ expectedDevices batteriesOnly := by
    cases batteriesOnly <;> decide
  have hs : success = true ↔ _ := hs
  rw [ReportedFaithfully, hs, Unmasked]
  constructor
  case mp  => exact fun h hf hc n hn => (h.mp ⟨hf, hc⟩ n hn).right
  case mpr =>
    intro h
    constructor
    case mp  => exact fun ⟨hf, hc⟩ n hn => ⟨hf n hn, h hf hc n hn⟩
    case mpr => exact fun ha => ⟨fun n hn => (ha n hn).left, (ha _ hl).right⟩

-- A bus on which the config of the first battery monitor cannot be written, and all the rest succeeds.
def maskedEnvironment : DeviceEnvironment :=
  fun _ c => match c with
    | .inl (.readPIOLogicStateDS2408 _)                 => some 0
    | .inl (.channelAccessWriteDS2408 _ data)           => some data
    | .inl .readVadDS2438                               => none
    | .inr (.oneWireAccessDevice _)                     => true
    | .inr (.writeNVConfigThresholdDS2438 b _ _)        => decide (b ≠ .rio)
    | .inr (.initTimeCapacityDS2438 _)                  => true
    | .inr (.writeTimeCapacityDS2438 _ _ _ _)           => true
    | .inr (.disableTestModeDS2408 _)                   => true
    | .inr (.writeControlRegisterDS2408 _ _)            => true
    | .inr (.readPIOActivityLatchStateRegisterDS2408 _) => none
    | .inr (.resetActivityLatchesDS2408 _)              => true
    | .inr .getSystemTicks                              => (0 : UInt32)

-- Success is returned, although there is a failure.
theorem setupDevices_maskedEnvironment :
    (setupDevices true maskedEnvironment ⟨(Pio.initialState, ⟨0, 0⟩), []⟩).map (fun r =>
      (r.1, decide (.operation (.batteryMonitor .rio) false ∈ setupEvents r.2.history))) =
        some (true, true) := by
  decide +kernel

theorem setup_not_faithful : ¬∀ (env : DeviceEnvironment) (w : DeviceWorld) (batteriesOnly : Bool),
    ∃ success w' calls, setupDevices batteriesOnly env w = some (success, w') ∧
      w'.history = w.history ++ calls ∧ ReportedFaithfully batteriesOnly success calls := by
  intro h
  have ⟨success, w', calls, hr, hh, hf⟩ :=
    h maskedEnvironment ⟨(Pio.initialState, ⟨0, 0⟩), []⟩ true
  have hrun := setupDevices_maskedEnvironment
  rw [hr, Option.map_some, Option.some.injEq, Prod.mk.injEq, decide_eq_true_iff, hh] at hrun
  exact (hf.mp hrun.left (.batteryMonitor .rio) (.head _)).right hrun.right

end RoboOne.Hardware
