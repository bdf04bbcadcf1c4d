import RoboOne.StateMachine.Relays

namespace RoboOne.StateMachine

open Hardware Interaction Transition

-- What the hardware server may have performed of a call. Without a confirmation it is not known if the
-- message has got lost, or only what came back.
def performs : (c : Call) × c.Answer → List (List HardwareMsgType)
  | ⟨.hardwareServerSendReceive m _, success, _⟩ => if success then [[m]] else [[], [m]]
  | _                                            => [[]]

def mayPerform (h : History Call.Answer) : List (List HardwareMsgType) :=
  h.foldl (fun mss x => mss.flatMap fun ms => (performs x).map (ms ++ ·)) [[]]

-- Whatever has been performed, each of the two loads has a supply.
def KeptUp (r : Relays) (h : History Call.Answer) : Prop :=
  ∀ ms ∈ mayPerform h, (ms.foldl Relays.switch r).Supplied

-- They have been kept up all the time since the history was `h₀`.
def KeptUpSince (r : Relays) (h₀ : History Call.Answer) (w : ServerWorld) : Prop :=
  HeldSince h₀ (KeptUp r) w.history

variable {env : Environment Call.Answer} {P : ServerWorld → Prop} {r x : Relays}
  {h₀ h : History Call.Answer} {c : Call} {a : c.Answer} {C : Call → Prop} {w : ServerWorld}
  {m on off : HardwareMsgType} {ms : List HardwareMsgType} {text onText offText : String}

theorem mem_mayPerform_append : ms ∈ mayPerform (h ++ [⟨c, a⟩]) ↔
    ∃ ms₁ ∈ mayPerform h, ∃ ms₂ ∈ performs ⟨c, a⟩, ms₁ ++ ms₂ = ms := by
  simp [mayPerform]

-- The calls that leave both loads with a supply, whatever is performed of them.
def Harmless (c : Call) : Prop :=
  ∀ (a : c.Answer) (x : Relays), x.Supplied → ∀ ms ∈ performs ⟨c, a⟩, (ms.foldl Relays.switch x).Supplied

theorem KeptUpSince.record (hw : KeptUpSince r h₀ w)
    (h : ∀ x : Relays, x.Supplied → ∀ ms ∈ performs ⟨c, a⟩, (ms.foldl Relays.switch x).Supplied) :
    KeptUpSince r h₀ (w.record c a) := by
  refine HeldSince.call hw fun ms hm => ?_
  obtain ⟨ms₁, h₁, ms₂, h₂, rfl⟩ := mem_mayPerform_append.mp hm
  rw [List.foldl_append]
  exact h _ (hw.now ms₁ h₁) ms₂ h₂

theorem keeps_keptUp {α : Type} {p : Program α} (hp : Makes C p) (hc : ∀ c, C c → Harmless c) :
    Keeps env (KeptUpSince r h₀) p :=
  hp.keeps fun c h _ a hw => hw.record (hc c h a)

-- Nothing is performed of a call that sends no message to the hardware server.
theorem harmless_of_performs (h : ∀ a : c.Answer, performs ⟨c, a⟩ = [[]]) : Harmless c := by
  intro a x hx ms hm
  rw [h, List.mem_singleton] at hm
  exact hm ▸ hx

theorem harmless_hardwareServerSendReceive {b : Option OInputContainer}
    (hm : ∀ x : Relays, x.Supplied → (x.switch m).Supplied) :
    Harmless (.hardwareServerSendReceive m b) := by
  rintro ⟨success, _⟩ x hx ms hms
  cases success <;> simp only [performs, if_true, Bool.false_eq_true, if_false, List.mem_cons,
    List.not_mem_nil, or_false] at hms
  case false =>
    rcases hms with rfl | rfl
    case inl => exact hx
    case inr => exact hm x hx
  case true =>
    subst hms
    exact hm x hx

theorem harmless_of_remains (hc : c.Remains) : Harmless c := by
  refine harmless_of_performs fun a => ?_
  cases c
  case printDebug                   => rfl
  case taskHandlerServerSendReceive => rfl
  all_goals cases hc

theorem harmless_of_powersHindbrain (hc : c.PowersHindbrain) : Harmless c := by
  cases c
  case hardwareServerSendReceive m b =>
    rcases hc with rfl | rfl <;> exact harmless_hardwareServerSendReceive fun _ h => h
  case printDebug => exact harmless_of_performs fun _ => rfl
  case malloc     => exact harmless_of_performs fun _ => rfl
  case usleep     => exact harmless_of_performs fun _ => rfl
  all_goals cases hc

theorem keeps_keptUp_ask (hc : Harmless c) : Keeps env (KeptUpSince r h₀) (ask c) :=
  ensures_call fun _ hw => hw.record (hc _)

theorem keeps_keptUp_printDebug : Keeps env (KeptUpSince r h₀) (printDebug text) :=
  keeps_keptUp_ask <| harmless_of_performs fun _ => rfl

theorem keeps_keptUp_hardwareServerSendReceive
    (hm : ∀ x : Relays, x.Supplied → (x.switch m).Supplied) :
    Keeps env (KeptUpSince r h₀) (hardwareServerSendReceive m) :=
  .bind (keeps_keptUp_ask <| harmless_hardwareServerSendReceive hm) fun _ =>
    ensures_pure fun _ hw => hw

-- A supply is switched off only when it is known that the other one is on.
theorem keeps_keptUp_switchSupply (hon : ∀ x : Relays, x.Supplied → (x.switch on).Supplied)
    (hoff : ∀ x : Relays, x.Supplied → ((x.switch on).switch off).Supplied) :
    Keeps env (KeptUpSince r h₀) (switchSupply onText on offText off) := by
  -- The one supply has been switched on, whatever else has been performed.
  let On (w : ServerWorld) : Prop :=
    KeptUpSince r h₀ w ∧
      ∀ ms ∈ mayPerform w.history, ∃ x : Relays, x.Supplied ∧ ms.foldl Relays.switch r = x.switch on
  refine .bind keeps_keptUp_printDebug fun _ => ?_
  refine Ensures.bind (Q := fun success w => KeptUpSince r h₀ w ∧ (success = true → On w)) ?_
    fun _ => ?_
  case refine_1 =>
    refine ensures_hardwareServerSendReceive fun w success response hw _ => ?_
    have hs : KeptUpSince r h₀ (w.record (.hardwareServerSendReceive on none) (success, response)) :=
      hw.record (harmless_hardwareServerSendReceive hon _)
    refine ⟨hs, ?_⟩
    rintro rfl
    refine ⟨hs, fun ms hm => ?_⟩
    obtain ⟨ms₁, h₁, ms₂, h₂, rfl⟩ := mem_mayPerform_append.mp hm
    obtain rfl := List.mem_singleton.mp h₂
    exact ⟨_, hw.now ms₁ h₁, by rw [List.foldl_append]; rfl⟩
  case refine_2 =>
    refine .ite (fun hs => ?_) fun _ => ensures_pure fun _ h => h.left
    refine .bind (Q := fun _ => On) ?_ fun _ => ?_
    case refine_1 =>
      refine ensures_call fun w hw => ?_
      have ⟨hw, he⟩ := hw.right hs
      refine ⟨hw.record <| harmless_of_performs (fun _ => rfl) _, fun ms hm => ?_⟩
      obtain ⟨ms₁, h₁, ms₂, h₂, rfl⟩ := mem_mayPerform_append.mp hm
      obtain rfl := List.mem_singleton.mp h₂
      rw [List.append_nil]
      exact he ms₁ h₁
    case refine_2 =>
      refine ensures_hardwareServerSendReceive fun w success response hw _ => ?_
      have ⟨hw, he⟩ := hw
      refine HeldSince.call hw fun ms hm => ?_
      obtain ⟨ms₁, h₁, ms₂, h₂, rfl⟩ := mem_mayPerform_append.mp hm
      have ⟨x, hx, hs⟩ := he ms₁ h₁
      have hn := hw.now ms₁ h₁
      rw [List.foldl_append]
      cases success <;> simp only [performs, if_true, Bool.false_eq_true, if_false, List.mem_cons,
        List.not_mem_nil, or_false] at h₂
      case false =>
        rcases h₂ with rfl | rfl
        case inl => exact hn
        case inr => exact hs ▸ hoff x hx
      case true =>
        subst h₂
        exact hs ▸ hoff x hx

theorem keeps_keptUp_switchToBattery :
    Keeps env (KeptUpSince r h₀) actionSwitchPiRioToBatteryPower ∧
      Keeps env (KeptUpSince r h₀) actionSwitchHindbrainToBatteryPower := by
  constructor <;> refine keeps_keptUp_switchSupply (fun x hx => ?_) fun x hx => ?_
  all_goals simp_all [Relays.switch, Relays.Supplied]

theorem keeps_keptUp_switchTo12VMains :
    Keeps env (KeptUpSince r h₀) actionSwitchPiRioTo12VMainsPower ∧
      Keeps env (KeptUpSince r h₀) actionSwitchHindbrainTo12VMainsPower := by
  constructor <;> refine keeps_keptUp_switchSupply (fun x hx => ?_) fun x hx => ?_
  all_goals simp_all [Relays.switch, Relays.Supplied]

theorem keeps_keptUp_enter {pState : RoboOneState} :
    Keeps env (KeptUpSince r h₀) (enter pState) :=
  .bind (ensures_store fun _ hw => hw) fun _ => keeps_keptUp_printDebug

theorem keeps_keptUp_transition (n : StateName) (pTaskReq : RoboOneTaskReq) :
    Keeps env (KeptUpSince r h₀) (n.transition pTaskReq) := by
  have h : EntryActions env fun _ => KeptUpSince r h₀ := by
    constructor
    case toBattery  => exact fun _ => keeps_keptUp_switchToBattery
    case to12VMains => exact fun _ => keeps_keptUp_switchTo12VMains
    case switchOn   =>
      exact fun _ => keeps_keptUp makes_actionSwitchOnHindbrain fun _ => harmless_of_powersHindbrain
    case switchOff  =>
      exact fun _ => keeps_keptUp makes_actionSwitchOffHindbrain fun _ => harmless_of_powersHindbrain
    case failure    => exact fun _ => keeps_keptUp_ask <| harmless_of_performs fun _ => rfl
    case permits    => exact fun _ => keeps_keptUp_ask <| harmless_of_performs fun _ => rfl
    case switchRelays =>
      intro _ _ m hm
      refine .bind keeps_keptUp_printDebug fun _ =>
        keeps_keptUp_hardwareServerSendReceive fun x hx => ?_
      simp only [relayMsgs, List.mem_cons, List.not_mem_nil, or_false] at hm
      rcases hm with rfl | rfl | rfl | rfl <;> exact hx
    case tasks =>
      exact fun _ _ => keeps_keptUp makes_eventTasksAvailable fun _ => harmless_of_remains
  exact h.transition keeps_keptUp_enter pTaskReq

theorem keptUp_handles : Handles env (KeptUpSince r h₀) fun _ => KeptUpSince r h₀ where
  keeps _ hc  := keeps_keptUp_ask <| harmless_of_remains hc
  remains _ h := h
  transition  := keeps_keptUp_transition

theorem keptUp_preserved : Preserves (eventStep env) (fun _ _ => True) fun w =>
    (∃ n : StateName, w.memory = some n.state) ∧ KeptUpSince r h₀ w where
  step {w e w'} := by
    intro ⟨⟨_, hn⟩, hw⟩ _ hs
    have hh : Handles env (KeptUpSince r h₀) fun _ => KeptUpSince r h₀ := keptUp_handles
    have ⟨m, hm, hn, hw⟩ := hh.eventStep (e := e) hn hw
    exact Option.some.inj (hm.symm.trans hs) ▸ ⟨⟨_, hn⟩, hw⟩

-- From its start on, the server keeps up the supplies, even if it does not learn what has been switched.
theorem keptUp_run {w₀ w' : ServerWorld} {es : List Event} (hr : KeptUp r w₀.history)
    (h : doAction .serverStart env w₀ = some ((.successKeepRunning, some (.serverStart true)), w))
    (hs : run (eventStep env) w es = some w') : KeptUpSince r w₀.history w' := by
  have hw : KeptUpSince r w₀.history w :=
    start_ensures (fun _ hw => hw.record <| harmless_of_performs (fun _ => rfl) _)
      (keeps_keptUp_transition .init ⟨[]⟩) (HeldSince.start hr) h
  exact keptUp_preserved.run_all ⟨⟨.init, start_memory h⟩, hw⟩ hs |>.right

end RoboOne.StateMachine
