import RoboOne.StateMachine.Dispatch

namespace RoboOne.StateMachine

open Hardware Interaction Transition

-- The relays that switch the supplies of the Pi/RIO and of the Hindbrain, and if the external
-- relays are enabled.
structure Relays where
  rioPwr12V             : Bool
  rioPwrBatt            : Bool
  oPwr12V               : Bool
  oPwrBatt              : Bool
  externalRelaysEnabled : Bool
deriving DecidableEq

namespace Relays

-- A message to the hardware server succeeds.
def switch (r : Relays) : HardwareMsgType → Relays
  | .setRioPwr12VOn        => { r with rioPwr12V := true }
  | .setRioPwr12VOff       => { r with rioPwr12V := false }
  | .setRioPwrBattOn       => { r with rioPwrBatt := true }
  | .setRioPwrBattOff      => { r with rioPwrBatt := false }
  | .setOPwr12VOn          => { r with oPwr12V := true }
  | .setOPwr12VOff         => { r with oPwr12V := false }
  | .setOPwrBattOn         => { r with oPwrBatt := true }
  | .setOPwrBattOff        => { r with oPwrBatt := false }
  | .enableExternalRelays  => { r with externalRelaysEnabled := true }
  | .disableExternalRelays => { r with externalRelaysEnabled := false }
  | _                      => r

def after (r : Relays) : (c : Call) × c.Answer → Relays
  | ⟨.hardwareServerSendReceive m _, success, _⟩ => if success then r.switch m else r
  | _                                            => r

-- Each of the two loads has a supply.
def Supplied (r : Relays) : Prop :=
  (r.rioPwrBatt ∨ r.rioPwr12V) ∧ (r.oPwrBatt ∨ r.oPwr12V)

end Relays

-- The relays behind a history, if they were `r` at its beginning.
def relays (r : Relays) (h : History Call.Answer) : Relays :=
  h.foldl Relays.after r

variable {env : Environment Call.Answer} {P : ServerWorld → Prop} {r x : Relays}
  {h₀ h : History Call.Answer} {c : Call} {a : c.Answer} {C : Call → Prop}
  {m on off : HardwareMsgType} {text onText offText : String}

theorem relays_append : relays r (h ++ [⟨c, a⟩]) = (relays r h).after ⟨c, a⟩ := by
  simp [relays]

theorem Relays.after_of_remains (hc : c.Remains) : x.after ⟨c, a⟩ = x := by
  cases c
  case printDebug                   => rfl
  case taskHandlerServerSendReceive => rfl
  all_goals cases hc

theorem Relays.after_of_powersHindbrain (hc : c.PowersHindbrain) : x.after ⟨c, a⟩ = x := by
  cases c
  case hardwareServerSendReceive m b =>
    obtain ⟨success, _⟩ := a
    rcases hc with rfl | rfl <;> cases success <;> rfl
  case printDebug => rfl
  case malloc     => rfl
  case usleep     => rfl
  all_goals cases hc

theorem ensures_hardwareServerSendReceive {Q : Bool → ServerWorld → Prop}
    (h : ∀ w success response, P w →
      env w.history (.hardwareServerSendReceive m none) = (success, response) →
      Q success (w.record (.hardwareServerSendReceive m none) (success, response))) :
    Ensures env P (hardwareServerSendReceive m) Q :=
  .bind (Q := fun a => Q a.fst) (ensures_call fun w hw => h w _ _ hw rfl)
    fun _ => ensures_pure fun _ hw => hw

-- Each of the two loads has had a supply all the time since the history was `h₀`.
def SuppliedSince (r : Relays) (h₀ : History Call.Answer) (w : ServerWorld) : Prop :=
  HeldSince h₀ (fun h => (relays r h).Supplied) w.history

theorem SuppliedSince.record {w : ServerWorld} (hw : SuppliedSince r h₀ w)
    (h : ((relays r w.history).after ⟨c, a⟩).Supplied) : SuppliedSince r h₀ (w.record c a) :=
  HeldSince.call hw (relays_append ▸ h)

theorem keeps_supplied {α : Type} {p : Program α} (hp : Makes C p)
    (hc : ∀ c, C c → ∀ (x : Relays) a, x.Supplied → (x.after ⟨c, a⟩).Supplied) :
    Keeps env (SuppliedSince r h₀) p :=
  hp.keeps fun c h _ a hw => hw.record (hc c h _ a hw.now)

theorem keeps_supplied_printDebug : Keeps env (SuppliedSince r h₀) (printDebug text) :=
  keeps_supplied (makes_printDebug (C := (· = .printDebug text)) rfl) <| by
    rintro _ rfl x _ h
    exact h

-- Neither supply is switched off while the other one is not on.
theorem keeps_supplied_switchSupply (hon : ∀ x : Relays, x.Supplied → (x.switch on).Supplied)
    (hoff : ∀ x : Relays, x.Supplied → ((x.switch on).switch off).Supplied) :
    Keeps env (SuppliedSince r h₀) (switchSupply onText on offText off) := by
  -- What the history is like when the one supply has been switched on.
  let On (w : ServerWorld) : Prop :=
    SuppliedSince r h₀ w ∧ ∃ x : Relays, x.Supplied ∧ relays r w.history = x.switch on
  refine .bind keeps_supplied_printDebug fun _ => ?_
  refine Ensures.bind (Q := fun success w => SuppliedSince r h₀ w ∧ (success = true → On w)) ?_
    fun _ => ?_
  case refine_1 =>
    refine ensures_hardwareServerSendReceive fun w success response hw _ => ?_
    cases success
    case false => exact ⟨hw.record hw.now, fun h => by cases h⟩
    case true =>
      have hs := hw.record (c := .hardwareServerSendReceive on none) (a := (true, response))
        (hon _ hw.now)
      exact ⟨hs, fun _ => ⟨hs, _, hw.now, relays_append⟩⟩
  case refine_2 =>
    refine .ite (fun hs => ?_) fun _ => ensures_pure fun _ h => h.left
    refine .bind (Q := fun _ => On) ?_ fun _ => ?_
    case refine_1 =>
      refine ensures_call fun w hw => ?_
      have ⟨hw, x, hx, he⟩ := hw.right hs
      exact ⟨hw.record hw.now, x, hx, relays_append.trans he⟩
    case refine_2 =>
      refine ensures_hardwareServerSendReceive fun w success response hw _ => ?_
      have ⟨hw, x, hx, he⟩ := hw
      refine hw.record ?_
      cases success
      case false => exact hw.now
      case true  => exact he ▸ hoff x hx

theorem keeps_supplied_switchToBattery :
    Keeps env (SuppliedSince r h₀) actionSwitchPiRioToBatteryPower ∧
      Keeps env (SuppliedSince r h₀) actionSwitchHindbrainToBatteryPower := by
  constructor <;> refine keeps_supplied_switchSupply (fun x hx => ?_) fun x hx => ?_
  all_goals simp_all [Relays.switch, Relays.Supplied]

theorem keeps_supplied_switchTo12VMains :
    Keeps env (SuppliedSince r h₀) actionSwitchPiRioTo12VMainsPower ∧
      Keeps env (SuppliedSince r h₀) actionSwitchHindbrainTo12VMainsPower := by
  constructor <;> refine keeps_supplied_switchSupply (fun x hx => ?_) fun x hx => ?_
  all_goals simp_all [Relays.switch, Relays.Supplied]

-- The relays that are not those of the supplies.
theorem keeps_supplied_switchRelays (hm : ∀ x : Relays, x.Supplied → (x.switch m).Supplied) :
    Keeps env (SuppliedSince r h₀) (printDebug text >>= fun _ => hardwareServerSendReceive m) := by
  refine .bind keeps_supplied_printDebug fun _ => ?_
  refine ensures_hardwareServerSendReceive fun w success response hw _ => hw.record ?_
  cases success
  case false => exact hw.now
  case true  => exact hm _ hw.now

theorem keeps_supplied_powersHindbrain {α : Type} {p : Program α}
    (hp : Makes Call.PowersHindbrain p) : Keeps env (SuppliedSince r h₀) p :=
  keeps_supplied hp fun _ hc _ _ hx => Relays.after_of_powersHindbrain hc ▸ hx

theorem keeps_supplied_ask (hc : ∀ (x : Relays) a, x.after ⟨c, a⟩ = x) :
    Keeps env (SuppliedSince r h₀) (ask c) :=
  ensures_call fun _ hw => hw.record <| hc _ _ ▸ hw.now

theorem keeps_supplied_enter {pState : RoboOneState} :
    Keeps env (SuppliedSince r h₀) (enter pState) :=
  .bind (ensures_store fun _ hw => hw) fun _ => keeps_supplied_printDebug

-- The entry actions of all states keep the supplies.
theorem keeps_supplied_transition (n : StateName) (pTaskReq : RoboOneTaskReq) :
    Keeps env (SuppliedSince r h₀) (n.transition pTaskReq) := by
  have h : EntryActions env fun _ => SuppliedSince r h₀ := by
    constructor
    case toBattery    => exact fun _ => keeps_supplied_switchToBattery
    case to12VMains   => exact fun _ => keeps_supplied_switchTo12VMains
    case switchOn     => exact fun _ => keeps_supplied_powersHindbrain makes_actionSwitchOnHindbrain
    case switchOff    => exact fun _ => keeps_supplied_powersHindbrain makes_actionSwitchOffHindbrain
    case failure      => exact fun _ => keeps_supplied_ask fun _ _ => rfl
    case permits      => exact fun _ => keeps_supplied_ask fun _ _ => rfl
    case switchRelays =>
      intro _ _ m hm
      refine keeps_supplied_switchRelays fun x hx => ?_
      simp only [relayMsgs, List.mem_cons, List.not_mem_nil, or_false] at hm
      rcases hm with rfl | rfl | rfl | rfl <;> exact hx
    case tasks =>
      exact fun _ _ => keeps_supplied makes_eventTasksAvailable fun _ hc _ _ hx =>
        Relays.after_of_remains hc ▸ hx
  exact h.transition keeps_supplied_enter pTaskReq

theorem supplied_handles : Handles env (SuppliedSince r h₀) fun _ => SuppliedSince r h₀ where
  keeps _ hc  := keeps_supplied_ask fun _ _ => Relays.after_of_remains hc
  remains _ h := h
  transition  := keeps_supplied_transition

theorem supplied_preserved : Preserves (eventStep env) (fun _ _ => True) fun w =>
    (∃ n : StateName, w.memory = some n.state) ∧ SuppliedSince r h₀ w where
  step {w e w'} := by
    intro ⟨⟨_, hn⟩, hw⟩ _ hs
    have hh : Handles env (SuppliedSince r h₀) fun _ => SuppliedSince r h₀ := supplied_handles
    have ⟨m, hm, hn, hw⟩ := hh.eventStep (e := e) hn hw
    exact Option.some.inj (hm.symm.trans hs) ▸ ⟨⟨_, hn⟩, hw⟩

-- From its start on, the server keeps up the supplies of both loads, whatever fails.
theorem supplies_kept (env : Environment Call.Answer) (r : Relays) (w₀ w w' : ServerWorld)
    (es : List Event) (h₀ : (relays r w₀.history).Supplied)
    (h : doAction .serverStart env w₀ =
      some ((.successKeepRunning, some (.serverStart true)), w))
    (hr : run (eventStep env) w es = some w') (h' : History Call.Answer)
    (hl : w₀.history <+: h') (hu : h' <+: w'.history) : (relays r h').Supplied := by
  have hw : SuppliedSince r w₀.history w :=
    start_ensures (fun _ hw => hw.record hw.now) (keeps_supplied_transition .init ⟨[]⟩)
      (HeldSince.start h₀) h
  have hw' := supplied_preserved.run_all ⟨⟨.init, start_memory h⟩, hw⟩ hr
  exact hw'.right.held h' hl hu

-- The robot docks, and is sent off again. At first both loads have the 12 V supply only.
theorem supplies_kept_working : ∃ w', run (eventStep workingEnvironment) startedWorld
    [.mainsPowerAvailable, .tasksAvailable ⟨[]⟩] = some w' ∧
      (relays ⟨true, false, true, false, false⟩ w'.history).Supplied := by
  have hm := start_memory start_workingEnvironment
  have ⟨w', hr, _⟩ : ∃ w', run (eventStep workingEnvironment) startedWorld
      [.mainsPowerAvailable, .tasksAvailable ⟨[]⟩] = some w' ∧ _ := run_refines (n := .init) hm _
  exact ⟨w', hr, supplies_kept workingEnvironment _ ⟨none, []⟩ startedWorld w' _
    ⟨.inr rfl, .inr rfl⟩ start_workingEnvironment hr _ List.nil_prefix List.prefix_rfl⟩

end RoboOne.StateMachine
