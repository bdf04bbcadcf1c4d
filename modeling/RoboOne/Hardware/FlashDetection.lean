import RoboOne.Hardware.Devices
import RoboOne.Library.Transition

namespace RoboOne.Hardware

open Interaction Transition

-- What is done to the state of the chargers: it is read, or the pins are used for something else.
inductive ChargerCall
  | readChargerState
  | usePins (p : OwProgram Unit)

def chargerStep (env : DeviceEnvironment) (w : DeviceWorld) : ChargerCall → Option DeviceWorld
  | .readChargerState => exec readChargerState env w
  | .usePins p        => exec (pins p) env w

-- What is seen of the clock and of the edge latch: a look at the clock, or a reset of the latch.
inductive LatchEvent
  | ticks (now : UInt32)
  | reset (success : Bool)
deriving DecidableEq

def latchEvent : ((c : OwCall ⊕ DeviceCall) × Sum.elim OwCall.Answer DeviceCall.Answer c) →
    Option LatchEvent
  | ⟨.inr .getSystemTicks, now⟩                       => some (.ticks now)
  | ⟨.inr (.resetActivityLatchesDS2408 _), success⟩   => some (.reset success)
  | _                                                 => none

def latchEvents (h : DeviceHistory) : List LatchEvent :=
  h.filterMap latchEvent

def LatchEvent.ticks? : LatchEvent → Option UInt32
  | ticks now => some now
  | reset _   => none

def ticksRead (h : DeviceHistory) : List UInt32 :=
  (latchEvents h).filterMap LatchEvent.ticks?

-- `ticksNow - ticksAtLastRead` in a call of `readChargerState`. The latter is read from the clock first
-- if it is zero.
def elapsed (statics : ChargerStatics) (h : DeviceHistory) : UInt32 :=
  let ticksAtLastRead :=
    if statics.ticksAtLastRead = 0 then (ticksRead h).headD 0 else statics.ticksAtLastRead
  (ticksRead h).getLastD 0 - ticksAtLastRead

def ChargeState.IsFlashing (s : ChargeState) : Prop :=
  s = .flashingGreen ∨ s = .flashingRed

-- A call that succeeds reports that a flash could have been detected only if enough time has elapsed,
-- and a charger that flashes only with this.
structure FlashTimed (statics : ChargerStatics) (h : DeviceHistory) (r : ChargerRead) : Prop where
  possible : r.success = true → r.pFlashDetectPossible = some true → 1 < elapsed statics h
  flashing : r.success = true → ∀ pState c, r.pState = some pState → (pState c).IsFlashing →
    r.pFlashDetectPossible = some true

-- The edge latch is not reset a single tick after the last time.
def LatchRested (statics : ChargerStatics) (h : DeviceHistory) : Prop :=
  (latchEvents h).getLast? = some (.reset true) → elapsed statics h ≠ 1

section

variable (env : DeviceEnvironment) (w : DeviceWorld)

def AlwaysFlashTimed : ChargerCall → Prop
  | .readChargerState => ∃ r w' calls, readChargerState env w = some (r, w') ∧
    w'.history = w.history ++ calls ∧ FlashTimed w.memory.2 calls r
  | .usePins _        => True

def AlwaysRested : ChargerCall → Prop
  | .readChargerState => ∀ r w' calls, readChargerState env w = some (r, w') →
    w'.history = w.history ++ calls → LatchRested w.memory.2 calls
  | .usePins _        => True

end

variable {m : (Pio → UInt8) × ChargerStatics} {statics : ChargerStatics} {h h' : DeviceHistory}
  {d : Pio} {r : ChargerRead}

@[simp]
theorem latchEvents_nil : latchEvents [] = [] :=
  rfl

@[simp]
theorem latchEvents_cons {x} : latchEvents (x :: h) = (latchEvent x).toList ++ latchEvents h :=
  filterMap_cons_toList

@[simp]
theorem latchEvents_append : latchEvents (h ++ h') = latchEvents h ++ latchEvents h' :=
  List.filterMap_append

-- The pins have nothing to do with the clock and with the latch.
@[simp]
theorem latchEvents_left {h : History OwCall.Answer} : latchEvents h.left = [] := by
  induction h
  case nil         => rfl
  case cons x h hi => exact (latchEvents_cons).trans hi

theorem traces_pins {α : Type} {p : OwProgram α} (hp : Traces m.1 p fun _ _ _ => True) :
    Traces m (pins p) fun calls _ m' => latchEvents calls = [] ∧ m'.2 = m.2 :=
  .part <| hp.mono fun _ _ _ _ => ⟨latchEvents_left, rfl⟩

theorem debugPrintPinsState_total {m : Pio → UInt8} :
    Traces m debugPrintPinsState fun _ _ _ => True :=
  debugPrintPinsState_traces fun _ _ _ _ => trivial

theorem readPins_total {m : Pio → UInt8} : Traces m (readPins d) fun _ _ _ => True :=
  .bind <| .call fun _ => .bind <| debugPrintPinsState_total.mono fun _ _ _ _ => .pure trivial

theorem readRelay_total {m : Pio → UInt8} {pinsMask : UInt8} {onLevel : Bool} :
    Traces m (readRelay d pinsMask onLevel) fun _ _ _ => True :=
  .bind <| .bind <| .call fun _ => .bind <| .load <| .bind <|
    debugPrintPinsState_total.mono fun _ _ _ _ => .pure <| .pure trivial

-- The latch is reset only if it could be read.
theorem readAndResetRisingEdgePins_traces :
    Traces m (readAndResetRisingEdgePins d) fun calls r m' => m' = m ∧
      (latchEvents calls = [.reset r.1] ∨ latchEvents calls = [] ∧ r.1 = false) := by
  have debug (m : (Pio → UInt8) × ChargerStatics) (success : Bool) (pinsState : Option UInt8) :
      Traces m (pins debugPrintPinsState >>= fun _ => pure (success, pinsState))
        fun calls r m' => m' = m ∧ latchEvents calls = [] ∧ r = (success, pinsState) :=
    .bind <| .part <| debugPrintPinsState_traces fun _ _ _ _ => .pure ⟨rfl, rfl, rfl⟩
  refine .bind <| .call fun pinsState => .bind ?_
  cases pinsState
  case none =>
    refine .pure <| (debug m _ _).mono ?_
    rintro calls _ _ ⟨rfl, hc, rfl⟩
    exact ⟨rfl, .inr ⟨by simp [hc, latchEvent], rfl⟩⟩
  case some pinsState =>
    refine .call fun success => (debug m _ _).mono ?_
    rintro calls _ _ ⟨rfl, hc, rfl⟩
    exact ⟨rfl, .inl <| by simp [hc, latchEvent]⟩

-- What the first part of a call does: if there have been no ticks yet, it looks at the clock.
inductive FirstPart (statics : ChargerStatics) (h : DeviceHistory) : ChargerStatics → Prop
  | first {statics' : ChargerStatics} (resets : List Bool) (zero : statics.ticksAtLastRead = 0)
    (events : latchEvents h = resets.map .reset ++ [.ticks statics'.ticksAtLastRead]) :
    FirstPart statics h statics'
  | later (nonzero : statics.ticksAtLastRead ≠ 0) (events : latchEvents h = []) :
    FirstPart statics h statics

theorem resetEdgeLatch_traces :
    Traces m resetEdgeLatch fun calls _ m' => FirstPart m.2 calls m'.2 := by
  refine .bind <| .bind <| .load <| .pure <| .ite (fun hz => ?_) fun hz => ?_
  case refine_2 => exact .pure <| .later hz rfl
  case refine_1 =>
    refine .bind <| readAndResetRisingEdgePins_traces.mono ?_
    rintro calls ⟨success, pinsEdgeState⟩ _ ⟨rfl, hc⟩
    refine .bind <| .call fun ticks => .bind <| .bind <| .load <| .store <| .pure ?_
    rcases hc with hc | ⟨hc, -⟩
    case inl => exact .first [success] hz (by simp [hc, latchEvent])
    case inr => exact .first [] hz (by simp [hc, latchEvent])

theorem FirstPart.elapsed_eq {statics' : ChargerStatics} {now : UInt32} {resets : List Bool}
    (hf : FirstPart statics h statics')
    (hh : latchEvents h' = .ticks now :: resets.map .reset) :
    elapsed statics (h ++ h') = now - statics'.ticksAtLastRead := by
  have hr (resets : List Bool) :
      (resets.map LatchEvent.reset).filterMap LatchEvent.ticks? = [] := by
    simp [LatchEvent.ticks?]
  have hticks : ticksRead h' = [now] := by
    rw [ticksRead, hh, List.filterMap_cons, hr]
    rfl
  have happend : ticksRead (h ++ h') = ticksRead h ++ [now] := by
    rw [← hticks, ticksRead, latchEvents_append, List.filterMap_append, ticksRead, ticksRead]
  rw [elapsed, happend]
  cases hf
  case later hz he => simp [hz]
  case first resets' hz he =>
    have hfirst : ticksRead h = [statics'.ticksAtLastRead] := by
      rw [ticksRead, he, List.filterMap_append, hr]
      rfl
    simp [hz, hfirst]

-- What a call reports, and what it has done to the latch and has tested before that.
structure Reported (statics : ChargerStatics) (h : DeviceHistory) (r : ChargerRead) : Prop where
  possible : r.success = true → r.pFlashDetectPossible = some true →
    (latchEvents h).getLast? = some (.reset true)
  reset    : (latchEvents h).getLast? = some (.reset true) →
    1 < -elapsed statics h ∧ r.success = true ∧ r.pFlashDetectPossible = some true
  flashing : r.success = true → ∀ pState c, r.pState = some pState → (pState c).IsFlashing →
    r.pFlashDetectPossible = some true

-- A call that ends before it resets the latch.
theorem Reported.of_not_reset (hp : r.pFlashDetectPossible ≠ some true)
    (hl : (latchEvents h).getLast? ≠ some (.reset true))
    (hf : ∀ pState c, r.pState = some pState → ¬(pState c).IsFlashing) : Reported statics h r where
  possible _ h          := absurd h hp
  reset h               := absurd h hl
  flashing _ pState c h := fun h' => absurd h' (hf pState c h)

theorem getChargeState_not_isFlashing {success poweredOn : Bool}
    {pinsState greenMask redMask : UInt8} :
    ¬(getChargeState success poweredOn pinsState greenMask redMask).IsFlashing := by
  rw [getChargeState, ChargeState.IsFlashing]
  split_ifs <;> simp

theorem FirstPart.getLast?_ne {statics' : ChargerStatics} (hf : FirstPart statics h statics') :
    (latchEvents h).getLast? ≠ some (.reset true) := by
  cases hf
  case first resets hz he => simp [he]
  case later hz he        => simp [he]

theorem Reported.of_firstPart {statics' : ChargerStatics} (hf : FirstPart statics h statics')
    (hr : .reset true ∉ latchEvents h') (hp : r.pFlashDetectPossible ≠ some true)
    (hs : ∀ pState c, r.pState = some pState → ¬(pState c).IsFlashing) :
    Reported statics (h ++ h') r := by
  refine .of_not_reset hp (fun hl => ?_) hs
  rw [latchEvents_append, List.getLast?_append, Option.or_eq_some_iff] at hl
  rcases hl with hl | ⟨-, hl⟩
  case inl => exact hr (List.mem_of_getLast? hl)
  case inr => exact hf.getLast?_ne hl

theorem Reported.of_reset {statics' : ChargerStatics} {now : UInt32}
    {pState : Charger → ChargeState} (hf : FirstPart statics h statics')
    (he : latchEvents h' = [.ticks now, .reset true]) (ht : statics'.ticksAtLastRead - now > 1) :
    Reported statics (h ++ h') ⟨true, some pState, some true⟩ where
  possible _ _     := by simp [he]
  reset _          := by
    have he : latchEvents h' = .ticks now :: [true].map .reset := he
    rw [hf.elapsed_eq he, UInt32.neg_sub]
    exact ⟨ht, rfl, rfl⟩
  flashing _ _ _ _ := fun _ => rfl

theorem traces_pins_bind {α β : Type} {p : OwProgram α} {f : α → DeviceProgram β}
    {Q : DeviceHistory → β → (Pio → UInt8) × ChargerStatics → Prop}
    (hp : Traces m.1 p fun _ _ _ => True)
    (hf : ∀ calls a m', latchEvents calls = [] → m'.2 = m.2 →
      Traces m' (f a) fun calls' => Q (calls ++ calls')) : Traces m (pins p >>= f) Q :=
  .bind <| (traces_pins hp).mono fun calls a m' ⟨he, hm⟩ => hf calls a m' he hm

theorem readChargerState_traces :
    Traces m readChargerState fun calls r _ => Reported m.2 calls r := by
  refine .bind <| resetEdgeLatch_traces.mono fun c₀ success m₀ h₀ => .ite (fun _ => ?_) fun _ => ?_
  case refine_2 => exact .pure <| .of_firstPart h₀ (by simp) (by simp) (by simp)
  case refine_1 =>
    refine .bind <| .call fun now => ?_
    refine traces_pins_bind readPins_total fun c₁ pinsState m₁ h₁ hm₁ => ?_
    cases pinsState
    case none =>
      exact .pure <| .of_firstPart h₀ (by simp [h₁, latchEvent]) (by simp) (by simp)
    case some pinsState =>
      refine traces_pins_bind readRelay_total fun c₂ relaysPowered m₂ h₂ hm₂ => ?_
      cases relaysPowered
      case none =>
        exact .pure <| .of_firstPart h₀ (by simp [h₁, h₂, latchEvent]) (by simp) (by simp)
      case some relaysPowered =>
        refine traces_pins_bind readRelay_total fun c₃ rioPowered m₃ h₃ hm₃ => ?_
        refine traces_pins_bind readRelay_total fun c₄ o1Powered m₄ h₄ hm₄ => ?_
        refine traces_pins_bind readRelay_total fun c₅ o2Powered m₅ h₅ hm₅ => ?_
        refine traces_pins_bind readRelay_total fun c₆ o3Powered m₆ h₆ hm₆ => ?_
        have hm : m₆.2 = m₀.2 := by rw [hm₆, hm₅, hm₄, hm₃, hm₂, hm₁]
        refine .bind <| .bind <| .load <| .pure <| .ite (fun ht => ?_) fun _ => ?_
        case refine_2 =>
          refine .pure <| .of_firstPart h₀ (by simp [h₁, h₂, h₃, h₄, h₅, h₆, latchEvent]) (by simp) ?_
          rintro _ c ⟨⟩
          exact getChargeState_not_isFlashing
        case refine_1 =>
          rw [hm] at ht
          refine .bind <| readAndResetRisingEdgePins_traces.mono ?_
          rintro c₇ ⟨success, pinsEdgeState⟩ _ ⟨rfl, h₇⟩
          refine .ite (fun hs => ?_) fun hs => ?_
          case refine_1 =>
            have h₇ : latchEvents c₇ = [.reset true] := by simpa [hs] using h₇
            refine .bind <| .bind <| .load <| .store <| .pure <| .of_reset h₀ ?_ ht
            simp [h₁, h₂, h₃, h₄, h₅, h₆, h₇, latchEvent]
          case refine_2 =>
            have h₇ : .reset true ∉ latchEvents c₇ := by
              rcases h₇ with h₇ | ⟨h₇, -⟩
              case inl => simpa [h₇] using hs
              case inr => simp [h₇]
            refine .pure <| .of_firstPart h₀ ?_ (by simp) ?_
            case refine_1 => simp [h₁, h₂, h₃, h₄, h₅, h₆, h₇, latchEvent]
            case refine_2 =>
              rintro _ c ⟨⟩
              exact getChargeState_not_isFlashing

-- If the reverse of the elapsed time is more than one tick, so is the elapsed time, unless it is one.
theorem one_lt_iff_of_neg {e : UInt32} (h : 1 < -e) : 1 < e ↔ e ≠ 1 := by
  rw [UInt32.lt_iff_toNat_lt, UInt32.toNat_neg] at h
  rw [UInt32.lt_iff_toNat_lt, Ne, ← UInt32.toNat_inj]
  have he := e.toNat_lt
  simp only [UInt32.toNat_one, UInt32.size] at h he ⊢
  omega

theorem Reported.flashTimed_iff (hr : Reported statics h r) :
    FlashTimed statics h r ↔ LatchRested statics h := by
  constructor
  case mp =>
    intro hf hl
    have ⟨he, hs, hp⟩ := hr.reset hl
    exact (one_lt_iff_of_neg he).mp <| hf.possible hs hp
  case mpr =>
    intro hl
    refine ⟨fun hs hp => ?_, hr.flashing⟩
    have hreset := hr.possible hs hp
    exact (one_lt_iff_of_neg (hr.reset hreset).left).mpr (hl hreset)

theorem alwaysFlashTimed_iff {env : DeviceEnvironment} {w : DeviceWorld} {c : ChargerCall} :
    AlwaysFlashTimed env w c ↔ AlwaysRested env w c := by
  cases c
  case usePins => exact Iff.rfl
  case readChargerState =>
    constructor
    case mp =>
      rintro ⟨r, w', calls, hr, hh, hf⟩ r' w'' calls' hr' hh'
      obtain ⟨rfl, rfl⟩ := Prod.mk.inj <| Option.some.inj <| hr.symm.trans hr'
      obtain rfl := List.append_cancel_left <| hh.symm.trans hh'
      have ⟨_, hs⟩ := readChargerState_traces.result hr hh
      exact hs.flashTimed_iff.mp hf
    case mpr =>
      intro hl
      have ⟨calls, r, m', hr, _, hs⟩ := @readChargerState_traces w.memory env w.history
      exact ⟨r, _, calls, hr, rfl, hs.flashTimed_iff.mpr <| hl _ _ _ hr rfl⟩

-- The flashes of the chargers are timed in all calls of a run if and only if the edge latch is never
-- reset a single tick after the last time.
theorem flash_detection_timed_iff (env : DeviceEnvironment) (w : DeviceWorld)
    (calls : List ChargerCall) : Along (chargerStep env) (AlwaysFlashTimed env) w calls ↔
      Along (chargerStep env) (AlwaysRested env) w calls :=
  ⟨.mono fun _ _ => alwaysFlashTimed_iff.mp, .mono fun _ _ => alwaysFlashTimed_iff.mpr⟩

-- What the clock shows if it is read behind the history.
def clock (env : DeviceEnvironment) (h : DeviceHistory) : UInt32 :=
  env h (.inr .getSystemTicks)

-- All calls succeed, and the clock makes a tick behind the first look at it.
def tickingEnvironment : DeviceEnvironment :=
  fun h c => match c with
    | .inl (.readPIOLogicStateDS2408 _)                 => some 0
    | .inl (.channelAccessWriteDS2408 _ data)           => some data
    | .inl .readVadDS2438                               => none
    | .inr (.oneWireAccessDevice _)                     => true
    | .inr (.writeNVConfigThresholdDS2438 _ _ _)        => true
    | .inr (.initTimeCapacityDS2438 _)                  => true
    | .inr (.writeTimeCapacityDS2438 _ _ _ _)           => true
    | .inr (.disableTestModeDS2408 _)                   => true
    | .inr (.writeControlRegisterDS2408 _ _)            => true
    | .inr (.readPIOActivityLatchStateRegisterDS2408 _) => some 0
    | .inr (.resetActivityLatchesDS2408 _)              => true
    | .inr .getSystemTicks                              =>
      if h.any fun x => x.1 matches .inr .getSystemTicks then (6 : UInt32) else (5 : UInt32)

theorem clock_tickingEnvironment {h h' : DeviceHistory} :
    clock tickingEnvironment h ≤ clock tickingEnvironment (h ++ h') := by
  have hle : ∀ a b : Bool, (if a then (6 : UInt32) else 5) ≤ if a || b then 6 else 5 := by decide
  simp only [clock, tickingEnvironment, List.any_append]
  exact hle _ _

theorem readChargerState_tickingEnvironment :
    (readChargerState tickingEnvironment ⟨(Pio.initialState, ⟨0, 0⟩), []⟩).map (fun r =>
      (r.1.success, r.1.pFlashDetectPossible, elapsed ⟨0, 0⟩ r.2.history)) =
        some (true, some true, 1) :=
  rfl

theorem flash_detection_not_timed : ¬∀ env : DeviceEnvironment,
    (∀ h h', clock env h ≤ clock env (h ++ h')) → ∀ (w : DeviceWorld) (calls : List ChargerCall),
      Along (chargerStep env) (AlwaysFlashTimed env) w calls := by
  intro h
  have ⟨r, w', calls, hr, hh, hf⟩ := (h tickingEnvironment (fun _ _ => clock_tickingEnvironment)
    ⟨(Pio.initialState, ⟨0, 0⟩), []⟩ [.readChargerState]).left
  have hrun := readChargerState_tickingEnvironment
  rw [hr, Option.map_some, Option.some.injEq, Prod.mk.injEq, Prod.mk.injEq, hh] at hrun
  have he : elapsed ⟨0, 0⟩ calls = 1 := hrun.right.right
  have hlt : 1 < elapsed ⟨0, 0⟩ calls := hf.possible hrun.left hrun.right.left
  rw [he] at hlt
  exact absurd hlt (by decide)

end RoboOne.Hardware
