import RoboOne.StateMachine.Docking

namespace RoboOne.StateMachine

open Hardware Interaction Transition

-- What a history says about the Hindbrain.
structure Hindbrain where
  powered   : Bool
  failed    : Bool -- an INIT_FAILURE event has been sent
  allocated : Bool -- no `malloc` has failed
deriving DecidableEq

namespace Hindbrain

def toggle (x : Hindbrain) : Hindbrain :=
  { x with powered := !x.powered }

@[simp]
theorem toggle_toggle {x : Hindbrain} : x.toggle.toggle = x := by
  simp [toggle]

def after (x : Hindbrain) : (c : Call) × c.Answer → Hindbrain
  | ⟨.hardwareServerSendReceive .toggleOPwr _, success, _⟩ => if success then x.toggle else x
  | ⟨.stateMachineServerSendReceive .initFailure, _⟩       => { x with failed := true }
  | ⟨.malloc, success⟩                                     =>
    { x with allocated := x.allocated && success }
  | _                                                      => x

end Hindbrain

-- The Hindbrain behind a history, if it was `x` at its beginning.
def hindbrain (x : Hindbrain) (h : History Call.Answer) : Hindbrain :=
  h.foldl Hindbrain.after x

-- The Hindbrain answers the ping if and only if it is powered.
structure Serves (env : Environment Call.Answer) (x : Hindbrain) : Prop where
  served  : Served env
  answers : ∀ h, (env h (.hardwareServerSendReceive .sendOString
    (some ⟨pingString, true⟩))).snd.isOk = (hindbrain x h).powered

variable {env : Environment Call.Answer} {x y : Hindbrain} {w w' : ServerWorld} {e : Event}
  {c : Call} {C : Call → Prop} {H : Hindbrain → Prop} {m on off : HardwareMsgType}
  {text onText offText : String}

-- `H` is the case with the Hindbrain now.
def HindbrainIs (x : Hindbrain) (H : Hindbrain → Prop) (w : ServerWorld) : Prop :=
  H (hindbrain x w.history)

theorem HindbrainIs.of_eq (hy : HindbrainIs x (· = y) w) (h : H y) : HindbrainIs x H w :=
  (congrArg H hy).mpr h

theorem HindbrainIs.record {a : c.Answer} (hy : HindbrainIs x (· = y) w) :
    HindbrainIs x (· = y.after ⟨c, a⟩) (w.record c a) := by
  rw [HindbrainIs, World.record, hindbrain, List.foldl_concat]
  exact congrArg (Hindbrain.after · ⟨c, a⟩) hy

theorem keeps_hindbrain {α : Type} {p : Program α} (hp : Makes C p)
    (hc : ∀ c, C c → ∀ (y : Hindbrain) a, y.after ⟨c, a⟩ = y) : Keeps env (HindbrainIs x H) p := by
  refine hp.keeps fun c h w a hw => ?_
  have hr : HindbrainIs x (· = _) (w.record c a) := HindbrainIs.record rfl
  exact hr.of_eq <| hc c h _ _ ▸ hw

theorem keeps_hindbrain_ask (hc : ∀ (y : Hindbrain) a, y.after ⟨c, a⟩ = y) :
    Keeps env (HindbrainIs x H) (ask c) :=
  keeps_hindbrain (makes_ask (C := (· = c)) rfl) fun _ h => h ▸ hc

theorem keeps_hindbrain_printDebug : Keeps env (HindbrainIs x H) (printDebug text) :=
  keeps_hindbrain_ask fun _ _ => rfl

theorem ensures_toggleOPwr (hs : Served env) :
    Ensures env (HindbrainIs x (· = y)) (hardwareServerSendReceive .toggleOPwr) fun success w =>
      success = true ∧ HindbrainIs x (· = y.toggle) w := by
  refine ensures_hardwareServerSendReceive fun w success response hy he => ?_
  obtain rfl : success = true := (congrArg Prod.fst he).symm.trans (hs _ _ _)
  exact ⟨rfl, hy.record⟩

theorem ensures_malloc : Ensures env (HindbrainIs x (· = y)) malloc fun success =>
    HindbrainIs x (· = { y with allocated := y.allocated && success }) :=
  ensures_call fun _ hy => hy.record

-- The ping is answered if and only if the toggle has powered the Hindbrain.
theorem ensures_toggleOn (hs : Serves env x) : Ensures env (HindbrainIs x (· = y)) toggleOn
    fun success w => success = !y.powered ∧ HindbrainIs x (· = y.toggle) w := by
  refine .bind keeps_hindbrain_printDebug fun _ => ?_
  refine .bind_ite (ensures_toggleOPwr hs.served) ?_
  refine .bind (keeps_hindbrain_ask fun _ _ => rfl) fun _ => ?_
  refine .bind keeps_hindbrain_printDebug fun _ => ?_
  refine .bind (Q := fun a w => (a.fst && a.snd.isOk) = !y.powered ∧ HindbrainIs x (· = y.toggle) w)
    (ensures_call fun w hy => ?_) fun a => ensures_pure fun _ hw => hw
  refine ⟨?_, hy.record⟩
  rw [hs.served, hs.answers, show hindbrain x w.history = _ from hy, Bool.true_and]
  rfl

-- One of the two turns powers the Hindbrain, and is the last one.
theorem ensures_toggleOnTurns (hs : Serves env x) :
    Ensures env (HindbrainIs x (· = y)) (toggleOnTurns 2) fun success w =>
      success = true ∧ HindbrainIs x (· = { y with powered := true }) w := by
  refine .bind (ensures_toggleOn hs) fun _ => .pull ?_
  rintro rfl
  refine .ite (fun h => ensures_pure fun _ hw => ⟨rfl, ?_⟩) fun h => ?_
  case refine_1 =>
    rw [Hindbrain.toggle, h] at hw
    exact hw
  case refine_2 =>
    have hp : y.powered = true := by simpa using h
    have hy : y.toggle.toggle = { y with powered := true } := by
      rw [Hindbrain.toggle_toggle, ← hp]
    refine .bind (ensures_toggleOn hs) fun _ => .pull ?_
    rintro rfl
    refine .ite (fun _ => ensures_pure fun _ hw => ⟨rfl, hy ▸ hw⟩) fun h' => ?_
    exact absurd (by simp [Hindbrain.toggle, hp]) h'

-- It fails only if there is no memory.
def SwitchedOn (x y : Hindbrain) (success : Bool) : ServerWorld → Prop :=
  HindbrainIs x fun z => success = true ∧ z = { y with powered := true } ∨
    success = false ∧ z = { y with allocated := false }

theorem ensures_actionSwitchOnHindbrain (hs : Serves env x) :
    Ensures env (HindbrainIs x (· = y)) actionSwitchOnHindbrain (SwitchedOn x y) := by
  have hfail {success : Bool} (h : ¬success = true) :
      Ensures env (HindbrainIs x (· = { y with allocated := y.allocated && success }))
        (pure false : Program Bool) (SwitchedOn x y) := by
    obtain rfl := eq_false_of_ne_true h
    exact ensures_pure fun _ hw => .inr ⟨rfl, Bool.and_false y.allocated ▸ hw⟩
  have htrue {success : Bool} (h : success = true) :
      { y with allocated := y.allocated && success } = y := by
    rw [h, Bool.and_true]
  refine .bind ensures_malloc fun _ => .ite (fun h => ?_) hfail
  rw [htrue h]
  refine .bind ensures_malloc fun _ => .ite (fun h => ?_) hfail
  rw [htrue h]
  exact (ensures_toggleOnTurns hs).mono (fun _ h => h) fun _ _ => .inl

theorem ensures_toggleOff (hs : Served env) : Ensures env (HindbrainIs x (· = y)) toggleOff
    fun hindbrainOn w => hindbrainOn = true ∧ HindbrainIs x (· = y.toggle) w := by
  refine .bind keeps_hindbrain_printDebug fun _ => ?_
  refine .bind (ensures_toggleOPwr hs) fun _ => .pull fun _ => ?_
  refine .bind keeps_hindbrain_printDebug fun _ => ?_
  refine .bind (Q := fun a w => a.fst = true ∧ HindbrainIs x (· = y.toggle) w)
    (ensures_call fun w hy => ⟨hs _ _ _, hy.record⟩) fun a => ensures_pure fun _ hw => hw

-- The ping can always be sent, so there are two turns, which leave the Hindbrain as it was.
theorem ensures_toggleOffTurns (hs : Served env) :
    Ensures env (HindbrainIs x (· = y)) (toggleOffTurns 2) fun _ => HindbrainIs x (· = y) := by
  refine .bind_ite (ensures_toggleOff hs) ?_
  refine .bind (ensures_toggleOff hs) fun _ => .pull ?_
  rintro rfl
  refine .ite (fun _ => ensures_pure fun _ hw => ?_) fun h => absurd rfl h
  rw [Hindbrain.toggle_toggle] at hw
  exact hw

-- The states in which the Hindbrain is to be powered.
def poweredStates : List StateName :=
  [.init, .mobile]

-- What the entry actions of a state make of the Hindbrain. Nothing switches it off.
inductive Hindbrain.Entered (x : Hindbrain) (n : StateName) : Hindbrain → Prop
  | on (h : n ∈ poweredStates)       : Entered x n { x with powered := true }
  | failed (h : n ∈ poweredStates)   : Entered x n { x with failed := true, allocated := false }
  | off (h : n ∉ poweredStates)      : Entered x n x
  | noMemory (h : n ∉ poweredStates) : Entered x n { x with allocated := false }

theorem ensures_actionSwitchOffHindbrain {n : StateName} (hs : Served env) (hn : n ∉ poweredStates) :
    Ensures env (HindbrainIs x (· = y)) actionSwitchOffHindbrain
      fun _ => HindbrainIs x (y.Entered n) := by
  refine .bind ensures_malloc fun success => .ite (fun h => ?_) fun h => ?_
  case refine_1 =>
    rw [h, Bool.and_true]
    exact .bind (ensures_toggleOffTurns hs) fun _ => ensures_pure fun _ hw => hw.of_eq (.off hn)
  case refine_2 =>
    rw [eq_false_of_ne_true h, Bool.and_false]
    exact ensures_pure fun _ hw => hw.of_eq (.noMemory hn)

theorem Hindbrain.after_of_switches {ms : List HardwareMsgType} (hm : .toggleOPwr ∉ ms) (c : Call)
    (hc : c.Switches ms) (y : Hindbrain) (a : c.Answer) : y.after ⟨c, a⟩ = y := by
  cases c
  case printDebug => rfl
  case hardwareServerSendReceive m _ =>
    have hn : m ≠ .toggleOPwr := fun he => hm (he ▸ hc)
    cases m <;> first | rfl | exact absurd rfl hn
  all_goals cases hc

theorem Hindbrain.after_of_remains (c : Call) (hc : c.Remains) (y : Hindbrain) (a : c.Answer) :
    y.after ⟨c, a⟩ = y := by
  cases c
  case printDebug                   => rfl
  case taskHandlerServerSendReceive => rfl
  all_goals cases hc

theorem ensures_hindbrain_switchRelays (hs : Served env) (hm : .toggleOPwr ∉ [m]) :
    Ensures env (HindbrainIs x H) (printDebug text >>= fun _ => hardwareServerSendReceive m)
      fun success w => success = true ∧ HindbrainIs x H w :=
  (keeps_hindbrain makes_switchRelays (Hindbrain.after_of_switches hm)).returns
    (switchRelays_succeeds hs)

theorem ensures_hindbrain_switchSupply (hs : Served env) (hm : .toggleOPwr ∉ [on, off]) :
    Ensures env (HindbrainIs x H) (switchSupply onText on offText off)
      fun success w => success = true ∧ HindbrainIs x H w :=
  (keeps_hindbrain makes_switchSupply (Hindbrain.after_of_switches hm)).returns
    (switchSupply_succeeds hs)

theorem keeps_hindbrain_enter {pState : RoboOneState} :
    Keeps env (HindbrainIs x H) (enter pState) :=
  .bind (ensures_store fun _ hw => hw) fun _ => keeps_hindbrain_printDebug

-- Both Init and Mobile end with the report of a failure.
theorem ensures_hindbrain_reportFailure {n : StateName} {success : Bool} (hn : n ∈ poweredStates) :
    Ensures env (SwitchedOn x y success)
      (if !success then
        stateMachineServerSendReceive .initFailure >>= fun _ => pure ()
      else
        pure () : Program Unit) fun _ => HindbrainIs x (y.Entered n) := by
  cases success
  case true =>
    refine ensures_pure fun w hw => ?_
    rcases hw with ⟨_, hw⟩ | ⟨h, _⟩
    case inl => exact HindbrainIs.of_eq hw (.on hn)
    case inr => cases h
  case false =>
    refine .bind (Q := fun _ => HindbrainIs x (y.Entered n)) (ensures_call fun w hw => ?_)
      fun _ => ensures_pure fun _ hw => hw
    rcases hw with ⟨h, _⟩ | ⟨_, hw⟩
    case inl => cases h
    case inr =>
      exact (HindbrainIs.record hw).of_eq (.failed hn)

theorem ensures_hindbrain_transition (hs : Serves env x) (n : StateName)
    (pTaskReq : RoboOneTaskReq) :
    Ensures env (HindbrainIs x (· = y)) (n.transition pTaskReq)
      fun _ => HindbrainIs x (y.Entered n) := by
  cases n
  case init =>
    refine .bind keeps_hindbrain_enter fun _ => ?_
    refine .bind (ensures_hindbrain_switchSupply hs.served (by decide)) fun _ => .pull fun _ => ?_
    refine .bind (ensures_hindbrain_switchSupply hs.served (by decide)) fun _ => .pull fun _ => ?_
    refine .bind_ite (ensures_hindbrain_switchRelays hs.served (by decide)) ?_
    refine .bind (ensures_actionSwitchOnHindbrain hs) fun _ => ?_
    exact ensures_hindbrain_reportFailure (by decide)
  case batteryIdle =>
    refine .bind keeps_hindbrain_enter fun _ => ?_
    exact .bind (ensures_actionSwitchOffHindbrain hs.served (by decide)) fun _ => Keeps.pure
  case docked =>
    refine .bind keeps_hindbrain_enter fun _ => ?_
    refine .bind_ite (ensures_hindbrain_switchRelays hs.served (by decide)) ?_
    refine .bind (ensures_hindbrain_switchSupply hs.served (by decide)) fun _ => .pull fun _ => ?_
    refine .bind (ensures_hindbrain_switchSupply hs.served (by decide)) fun _ => .pull fun _ => ?_
    refine .bind (ensures_actionSwitchOffHindbrain (n := .docked) hs.served (by decide)) fun _ => ?_
    exact Keeps.bind (keeps_hindbrain_ask fun _ _ => rfl) fun _ => .pure
  case dockedCharging =>
    exact keeps_hindbrain_enter.mono (fun _ hw => hw) fun _ _ hw => hw.of_eq (.off (by decide))
  case dockedMainsIdle =>
    exact keeps_hindbrain_enter.mono (fun _ hw => hw) fun _ _ hw => hw.of_eq (.off (by decide))
  case mobile =>
    refine .bind keeps_hindbrain_enter fun _ => ?_
    refine .bind (keeps_hindbrain_ask fun _ _ => rfl) fun _ => ?_
    refine .bind_ite (ensures_hindbrain_switchSupply hs.served (by decide)) ?_
    refine .bind_ite (ensures_hindbrain_switchSupply hs.served (by decide)) ?_
    refine .bind (ensures_actionSwitchOnHindbrain hs) fun success => .ite (fun h => ?_) fun h => ?_
    case refine_1 =>
      refine .bind (Q := fun _ => SwitchedOn x y success) ?_
        fun _ => ensures_hindbrain_reportFailure (by decide)
      exact keeps_hindbrain makes_eventTasksAvailable Hindbrain.after_of_remains
    case refine_2 => exact ensures_hindbrain_reportFailure (by decide)
  case shutdown =>
    refine .bind keeps_hindbrain_enter fun _ => ?_
    refine .bind (keeps_hindbrain_ask fun _ _ => rfl) fun _ => ?_
    refine .bind (ensures_actionSwitchOffHindbrain (n := .shutdown) hs.served (by decide)) fun _ => ?_
    refine .bind (ensures_hindbrain_switchRelays hs.served (by decide)) fun _ => .pull fun _ => ?_
    refine .bind (ensures_hindbrain_switchRelays hs.served (by decide)) fun _ => .pull fun _ => ?_
    exact Keeps.pure

theorem hindbrain_handles (hs : Serves env x) :
    Handles env (HindbrainIs x (· = y)) fun t => HindbrainIs x (t.elim (· = y) y.Entered) where
  keeps c hc  := keeps_hindbrain_ask <| Hindbrain.after_of_remains c hc
  remains _ h := h
  transition  := ensures_hindbrain_transition hs

-- The Hindbrain is powered in Init and Mobile and in no other state, and no INIT_FAILURE event has been
-- sent.
structure PowerFollows (x : Hindbrain) (w : ServerWorld) : Prop where
  powered   : ∀ n : StateName, w.memory = some n.state →
    ((hindbrain x w.history).powered = true ↔ n ∈ poweredStates)
  noFailure : (hindbrain x w.history).failed = false

-- The way that the events take through the diagram.
def diagramStep (n : StateName) (e : Event) : Option StateName :=
  some (n.next e.dispatched)

variable {n : StateName} {es : List Event}

theorem powerFollows_iff (h : w.memory = some n.state) : PowerFollows x w ↔
    ((hindbrain x w.history).powered = true ↔ n ∈ poweredStates) ∧
      (hindbrain x w.history).failed = false := by
  refine ⟨fun ⟨hp, hs⟩ => ⟨hp n h, hs⟩, fun ⟨hp, hs⟩ => ⟨fun n' h' => ?_, hs⟩⟩
  obtain rfl : n' = n := StateName.state_injective <| Option.some.inj <| h'.symm.trans h
  exact hp

-- An event leaves the state and the Hindbrain as they are, or makes one of the transitions.
theorem hindbrain_eventStep (hs : Serves env x) (e : Event) (h : w.memory = some n.state) :
    ∃ w', eventStep env w e = some w' ∧ w'.memory = some (n.next e.dispatched).state ∧
      (n.next e.dispatched = n ∧ hindbrain x w'.history = hindbrain x w.history ∨
        (hindbrain x w.history).Entered (n.next e.dispatched) (hindbrain x w'.history)) := by
  have ⟨w', hw', hn, hq⟩ := (hindbrain_handles hs).eventStep (e := e) h rfl
  refine ⟨w', hw', hn, ?_⟩
  rw [next_eq_target]
  cases ht : n.state.target e.dispatched <;> rw [ht] at hq
  case none    => exact .inl ⟨rfl, hq⟩
  case some n' => exact .inr hq

theorem Hindbrain.Entered.allocated_eq_false (h : x.Entered n y) (ha : x.allocated = false) :
    y.allocated = false := by
  cases h
  case on       => exact ha
  case failed   => rfl
  case off      => exact ha
  case noMemory => rfl

-- Once a `malloc` has failed, this remains so.
theorem noMemory_preserved (hs : Serves env x) : Preserves (eventStep env) (fun _ _ => True) fun w =>
    (∃ n : StateName, w.memory = some n.state) ∧ (hindbrain x w.history).allocated = false where
  step {w e w'} := by
    intro ⟨⟨n, hn⟩, ha⟩ _ h
    have ⟨m, hm, hn', hq⟩ := hindbrain_eventStep hs e hn
    obtain rfl : m = w' := Option.some.inj <| hm.symm.trans h
    refine ⟨⟨_, hn'⟩, ?_⟩
    rcases hq with ⟨_, hq⟩ | hq
    case inl => rw [hq, ha]
    case inr => exact hq.allocated_eq_false ha

-- A run that starts well goes well for as long as the events remain within Init and Mobile, and there
-- is memory.
theorem throughout_powerFollows_iff (hs : Serves env x) (h : w.memory = some n.state)
    (hn : n ∈ poweredStates) (hx : hindbrain x w.history = ⟨true, false, true⟩)
    (hr : run (eventStep env) w es = some w') :
    Throughout (eventStep env) (PowerFollows x) w es ↔
      Throughout diagramStep (· ∈ poweredStates) n es ∧
        (hindbrain x w'.history).allocated = true := by
  have hw : PowerFollows x w := (powerFollows_iff h).mpr (by simp [hx, hn])
  induction es generalizing w n
  case nil =>
    obtain rfl := Option.some.inj hr
    exact iff_of_true hw ⟨hn, by rw [hx]⟩
  case cons e es hi =>
    have ⟨m, hm, hn', hq⟩ := hindbrain_eventStep hs e h
    have ⟨m', hm', hr⟩ := run_cons_iff.mp hr
    obtain rfl := Option.some.inj <| hm.symm.trans hm'
    have hd : diagramStep n e = some (n.next e.dispatched) := rfl
    rw [throughout_cons_iff hm, throughout_cons_iff hd, and_iff_right hw, and_iff_right hn]
    -- The power remains on, so a transition to another state is wrong.
    have hoff (hn : n.next e.dispatched ∉ poweredStates)
        (hp : (hindbrain x m.history).powered = true) :
        Throughout (eventStep env) (PowerFollows x) m es ↔
          Throughout diagramStep (· ∈ poweredStates) (n.next e.dispatched) es ∧
            (hindbrain x w'.history).allocated = true :=
      iff_of_false (fun ht => hn <| ((powerFollows_iff hn').mp ht.head).left.mp hp)
        fun ht => hn ht.left.head
    rcases hq with ⟨he, hq⟩ | hq
    case inl =>
      have hx' : hindbrain x m.history = ⟨true, false, true⟩ := hq.trans hx
      rw [he] at hn' ⊢
      exact hi hn' hn hx' hr ((powerFollows_iff hn').mpr (by simp [hx', hn]))
    case inr =>
      rw [hx] at hq
      generalize hz : hindbrain x m.history = z at hq
      cases hq
      case on hn => exact hi hn' hn hz hr ((powerFollows_iff hn').mpr (by simp [hz, hn]))
      case failed =>
        have ha := (noMemory_preserved hs).run_all ⟨⟨_, hn'⟩, by rw [hz]⟩ hr
        refine iff_of_false (fun ht => ?_) fun ht => ?_
        case refine_1 => exact Bool.false_ne_true <| (hz ▸ ht.head.noFailure).symm
        case refine_2 => exact Bool.false_ne_true <| ha.right.symm.trans ht.right
      case off hn      => exact hoff hn (by rw [hz])
      case noMemory hn => exact hoff hn (by rw [hz])

-- Behind the start of the server, the Hindbrain is powered if there was memory.
theorem start_hindbrain {w₀ : ServerWorld} (hs : Serves env x)
    (hf : (hindbrain x w₀.history).failed = false)
    (ha : (hindbrain x w₀.history).allocated = true)
    (h : doAction .serverStart env w₀ =
      some ((.successKeepRunning, some (.serverStart true)), w)) :
    hindbrain x w.history = ⟨true, false, true⟩ ∨
      (hindbrain x w.history).failed = true ∧ (hindbrain x w.history).allocated = false := by
  have hm (w : ServerWorld) (hw : HindbrainIs x (· = hindbrain x w₀.history) w) :
      HindbrainIs x (· = hindbrain x w₀.history) (w.record .malloc true) :=
    hw.record.of_eq <| by simp [Hindbrain.after]
  have hw : HindbrainIs x ((hindbrain x w₀.history).Entered .init) w :=
    start_ensures hm (ensures_hindbrain_transition hs .init ⟨[]⟩) rfl h
  rw [HindbrainIs] at hw
  generalize hindbrain x w.history = z at hw
  cases hw
  case on          => exact .inl (by rw [hf, ha])
  case failed      => exact .inr ⟨rfl, rfl⟩
  case off hn      => exact absurd (by decide) hn
  case noMemory hn => exact absurd (by decide) hn

-- The power of the Hindbrain always follows the state, if and only if the events remain within Init and
-- Mobile, and there is memory.
theorem power_follows_iff (env : Environment Call.Answer) (x : Hindbrain) (w₀ w w' : ServerWorld)
    (es : List Event) (hs : Serves env x) (hf : (hindbrain x w₀.history).failed = false)
    (ha : (hindbrain x w₀.history).allocated = true)
    (h : doAction .serverStart env w₀ =
      some ((.successKeepRunning, some (.serverStart true)), w))
    (hr : run (eventStep env) w es = some w') :
    Throughout (eventStep env) (PowerFollows x) w es ↔
      Throughout diagramStep (· ∈ poweredStates) .init es ∧
        (hindbrain x w'.history).allocated = true := by
  have hn := start_memory h
  rcases start_hindbrain hs hf ha h with hx | ⟨hf, ha⟩
  case inl => exact throughout_powerFollows_iff (n := .init) hs hn (by decide) hx hr
  case inr =>
    have ha' := (noMemory_preserved hs).run_all ⟨⟨.init, hn⟩, ha⟩ hr
    refine iff_of_false (fun ht => ?_) fun ht => ?_
    case refine_1 => exact Bool.false_ne_true <| ht.head.noFailure.symm.trans hf
    case refine_2 => exact Bool.false_ne_true <| ha'.right.symm.trans ht.right

-- Everything succeeds, and the Hindbrain answers the ping when it is powered.
def servingEnvironment (x : Hindbrain) : Environment Call.Answer :=
  fun h c => match c with
    | .printDebug _                      => ()
    | .malloc                            => true
    | .usleep _                          => ()
    | .hardwareServerSendReceive _ _     =>
      (true, if (hindbrain x h).powered then ⟨['O', 'K'], 3⟩ else ⟨[], 0⟩)
    | .batteryManagerServerSendReceive _ => true
    | .taskHandlerServerSendReceive _    => true
    | .stateMachineServerSendReceive _   => true

theorem servingEnvironment_serves (x : Hindbrain) : Serves (servingEnvironment x) x where
  served _ _ _ := rfl
  answers h := by
    rw [servingEnvironment]
    split
    case isTrue hp  => exact hp.symm
    case isFalse hp => exact (eq_false_of_ne_true hp).symm

-- The Hindbrain is off at first.
def unpowered : Hindbrain where
  powered   := false
  failed    := false
  allocated := true

-- There is a task right after the start.
theorem power_follows_iff_serving : ∃ w w',
    doAction .serverStart (servingEnvironment unpowered) ⟨none, []⟩ =
      some ((.successKeepRunning, some (.serverStart true)), w) ∧
    run (eventStep (servingEnvironment unpowered)) w [.tasksAvailable ⟨[]⟩] = some w' ∧
    (Throughout (eventStep (servingEnvironment unpowered)) (PowerFollows unpowered) w
        [.tasksAvailable ⟨[]⟩] ↔
      Throughout diagramStep (· ∈ poweredStates) .init [.tasksAvailable ⟨[]⟩] ∧
        (hindbrain unpowered w'.history).allocated = true) := by
  have hs := servingEnvironment_serves unpowered
  have ⟨w, hw⟩ := start_of_malloc (servingEnvironment unpowered) ⟨none, []⟩ rfl
  have ⟨w', hw', _⟩ := eventStep_spec (servingEnvironment unpowered) (.tasksAvailable ⟨[]⟩)
    (n := .init) (start_memory hw)
  have hr := run_singleton.trans hw'
  exact ⟨w, w', hw, hr, power_follows_iff _ _ _ w w' _ hs rfl rfl hw hr⟩

-- The timer of Init expires, and Battery Idle does not switch off the power.
theorem power_not_follows : ¬∀ (env : Environment Call.Answer) (x : Hindbrain)
    (w₀ w : ServerWorld) (es : List Event), Serves env x →
      (hindbrain x w₀.history).failed = false → (hindbrain x w₀.history).allocated = true →
      doAction .serverStart env w₀ =
        some ((.successKeepRunning, some (.serverStart true)), w) →
      Throughout (eventStep env) (PowerFollows x) w es := by
  intro h
  have hs := servingEnvironment_serves unpowered
  have ⟨w, hw⟩ := start_of_malloc (servingEnvironment unpowered) ⟨none, []⟩ rfl
  have ht := h _ unpowered ⟨none, []⟩ w [.timerExpiry] hs rfl rfl hw
  have hn := start_memory hw
  rcases start_hindbrain hs rfl rfl hw with hx | ⟨hf, _⟩
  case inl =>
    have ⟨w', hw', _⟩ := eventStep_spec (servingEnvironment unpowered) .timerExpiry (n := .init) hn
    have hd := throughout_powerFollows_iff (n := .init) hs hn (by decide) hx
      (run_singleton.trans hw') |>.mp ht
    have hi : StateName.batteryIdle ∈ poweredStates := (hd.left.right _ rfl).head
    exact absurd hi (by decide)
  case inr => exact Bool.false_ne_true <| ht.head.noFailure.symm.trans hf

end RoboOne.StateMachine
