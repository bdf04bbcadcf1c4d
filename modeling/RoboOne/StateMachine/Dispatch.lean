import RoboOne.StateMachine.Diagram

namespace RoboOne.StateMachine

open Interaction Transition Hardware

abbrev ServerWorld :=
  World Call.Answer (Option RoboOneState)

-- An event arrives at the server.
def eventStep (env : Environment Call.Answer) (w : ServerWorld) (e : Event) : Option ServerWorld :=
  step env w (.event e)

-- The states that an insufficient power event leaves for Shutdown.
def Powered (s : RoboOneState) : Prop :=
  s ∈ [.init, .batteryIdle, .docked, .dockedCharging, .dockedMainsIdle]

instance : DecidablePred Powered :=
  fun _ => inferInstanceAs (Decidable (_ ∈ _))

-- The event runs the handler that the state has registered for it, and nothing else. What this means
-- for insufficient power, and for the Docked state.
structure Dispatched (env : Environment Call.Answer) (w : ServerWorld) (e : Event) : Prop where
  handled   : (eventStep env w e).isSome
  handler   : ∀ s, w.memory = some s → doAction (.event e) env w =
    (do s.handler e; return (.successKeepRunning, none) : Program _) env w
  shutsDown : e = .insufficientPower → ∀ s, w.memory = some s → Powered s →
    ∀ w' ∈ eventStep env w e, w'.memory = some .shutdown
  ignored   : e = .insufficientPower → w.memory = some .mobile →
    eventStep env w e = exec (defaultEventInsufficientPower .mobile) env w
  docks     : ∀ w' ∈ eventStep env w e, w'.memory = some .docked →
    w.memory = some .docked ∨ e = .mainsPowerAvailable

-- The event whose handler the server calls.
def Event.dispatched : Event → Event
  | insufficientPower => mainsPowerAvailable
  | e                 => e

theorem Event.dispatched_of_ne {e : Event} (h : e ≠ insufficientPower) : e.dispatched = e := by
  cases e <;> first | rfl | exact absurd rfl h

variable {env : Environment Call.Answer} {w w' : ServerWorld} {e : Event} {s : RoboOneState}
  {n : StateName} {P : ServerWorld → Prop}

theorem doEvent_apply (h : w.memory = some s) :
    doEvent e env w = s.handler e.dispatched env w := by
  have hi (f : RoboOneState → Program Unit) : withInstance f env w = f s env w := by
    rw [withInstance, bind_apply]
    simp only [load, Option.bind_some, h]
  cases e <;> exact hi _

theorem doAction_event (h : w.memory = some s) : doAction (.event e) env w =
    (do s.handler e.dispatched; return (.successKeepRunning, none) : Program _) env w := by
  rw [doAction, bind_apply, doEvent_apply h]
  rfl

theorem eventStep_eq_exec (h : w.memory = some s) :
    eventStep env w e = exec (s.handler e.dispatched) env w := by
  rw [eventStep, step, exec, doAction_event h, bind_apply, exec]
  cases s.handler e.dispatched env w <;> rfl

theorem eventStep_spec (env : Environment Call.Answer) (e : Event)
    (h : w.memory = some n.state) :
    ∃ w', eventStep env w e = some w' ∧ w'.memory = some (n.next e.dispatched).state := by
  have ⟨w', hw, _, hm⟩ := (handler_spec env e.dispatched).exec h
  exact ⟨w', (eventStep_eq_exec h).trans hw, hm⟩

-- Without a context the ASSERT of the event functions fails.
theorem eventStep_eq_none (h : w.memory = none) : eventStep env w e = none := by
  have hi (f : RoboOneState → Program Unit) : withInstance f env w = none := by
    rw [withInstance, bind_apply]
    simp only [load, Option.bind_some, h]
    rfl
  have he : doEvent e env w = none := by
    cases e <;> exact hi _
  rw [eventStep, step, exec, doAction, bind_apply, he]
  rfl

-- An event leads to what its handler ensures.
theorem Handles.eventStep {Q : Option StateName → ServerWorld → Prop} (hq : Handles env P Q)
    (h : w.memory = some n.state) (hw : P w) :
    ∃ w', eventStep env w e = some w' ∧ w'.memory = some (n.next e.dispatched).state ∧
      Q (n.state.target e.dispatched) w' := by
  have ⟨w', hw', _, hm, hq⟩ := (handler_spec env e.dispatched).and hq.handler |>.exec ⟨h, hw⟩
  exact ⟨w', (eventStep_eq_exec h).trans hw', hm, hq⟩

-- The server follows the diagram, except that it takes insufficient power for mains power.
theorem run_refines (h : w.memory = some n.state) (es : List Event) :
    ∃ w', run (eventStep env) w es = some w' ∧
      w'.memory = some (es.foldl (fun n e => n.next e.dispatched) n).state := by
  have hs (w : ServerWorld) (n : StateName) (e : Event) (h : w.memory = some n.state) :
      ∃ w', eventStep env w e = some w' ∧ w'.memory = some (n.next e.dispatched).state :=
    eventStep_spec env e h
  exact run_simulates hs h es

theorem printDebug_text_eq {text text' : String}
    (h : printDebug text env w = printDebug text' env w) : text = text' := by
  have h := World.call_eq_of_record_eq (Prod.mk.inj <| Option.some.inj h).right
  exact Call.printDebug.inj h

-- The two handlers differ in all states.
theorem handler_ne (h : w.memory = some n.state) :
    n.state.handler .mainsPowerAvailable env w ≠ n.state.handler .insufficientPower env w := by
  intro he
  by_cases hn : n = .shutdown
  case pos =>
    -- Both are default handlers here, which print different texts.
    subst hn
    have ht := printDebug_text_eq he
    exact absurd ht (by decide)
  case neg =>
    have ⟨_, _, hm, hm'⟩ := handler_spec env .mainsPowerAvailable w h
    have ⟨_, _, hi, hi'⟩ := handler_spec env .insufficientPower w h
    obtain ⟨-, rfl⟩ := Prod.mk.inj <| Option.some.inj <| hm.symm.trans (he.trans hi)
    have hs := StateName.state_injective <| Option.some.inj <| hm'.symm.trans hi'
    cases n <;> first | exact hn rfl | cases hs

theorem not_dispatched (h : w.memory = some n.state) : ¬Dispatched env w .insufficientPower := by
  intro hd
  have he := hd.handler _ h
  rw [doAction_event h, bind_apply, bind_apply] at he
  have ⟨a, m, hm, _⟩ := handler_spec env .mainsPowerAvailable w h
  have ⟨a', m', hm', _⟩ := handler_spec env .insufficientPower w h
  rw [Event.dispatched, hm, hm'] at he
  obtain rfl : m = m' := (Prod.mk.inj <| Option.some.inj he).right
  exact handler_ne h (hm.trans hm'.symm)

theorem dispatched_of_ne (h : w.memory = some n.state) (he : e ≠ .insufficientPower) :
    Dispatched env w e := by
  have hd := Event.dispatched_of_ne he
  have ⟨w', hw, hm⟩ := eventStep_spec env e h
  rw [hd] at hm
  constructor
  case handled   => exact Option.isSome_iff_exists.mpr ⟨w', hw⟩
  case handler   => exact fun s hs => (doAction_event hs).trans <| by rw [hd]
  case shutsDown => exact fun h => absurd h he
  case ignored   => exact fun h => absurd h he
  case docks     =>
    intro m hm' hdocked
    obtain rfl : w' = m := Option.some.inj <| hw.symm.trans hm'
    have hn : n.next e = .docked :=
      StateName.state_injective <| Option.some.inj <| hm.symm.trans hdocked
    exact (StateName.next_eq_docked hn).imp_left fun hn => by rw [h, hn, StateName.state]

theorem dispatched_iff (h : w.memory = some n.state) :
    Dispatched env w e ↔ e ≠ .insufficientPower := by
  constructor
  case mp =>
    rintro hd rfl
    exact not_dispatched h hd
  case mpr => exact dispatched_of_ne h

theorem eventStep_total (env : Environment Call.Answer) (e : Event)
    (h : ∃ n : StateName, w.memory = some n.state) :
    ∃ w', eventStep env w e = some w' ∧ ∃ n : StateName, w'.memory = some n.state := by
  have ⟨_, hn⟩ := h
  have ⟨w', hw, hm⟩ := eventStep_spec env e hn
  exact ⟨w', hw, _, hm⟩

-- All states that the server gets into.
theorem state_preserved : Preserves (eventStep env) (fun _ _ => True)
    (fun w => ∃ n : StateName, w.memory = some n.state) where
  step {w e w'} h _ hs := by
    have ⟨m, hm, hn⟩ := eventStep_total env e h
    exact Option.some.inj (hm.symm.trans hs) ▸ hn

-- A successful start of the server ends with what the transition to Init ensures.
theorem start_ensures {Q : ServerWorld → Prop} {w₀ : ServerWorld}
    (hm : ∀ w, P w → P (w.record .malloc true))
    (ht : Ensures env P transitionToInit fun _ => Q)
    (hP : P w₀) (h : doAction .serverStart env w₀ =
      some ((.successKeepRunning, some (.serverStart true)), w)) : Q w := by
  have hs : Ensures env P actionStateMachineServerStart fun cnf w =>
      cnf = .serverStart true → Q w := by
    rw [actionStateMachineServerStart]
    refine .bind (Q := fun pgRoboOneContext w => pgRoboOneContext = true → P w)
      (ensures_call fun w hw h => h ▸ hm w hw) fun pgRoboOneContext => ?_
    refine .ite (fun hc => ?_) fun _ => ?_
    case refine_1 =>
      refine .bind (ht.mono (fun _ h => h hc) fun _ _ h => h) fun _ => ?_
      exact ensures_pure fun _ h _ => h
    case refine_2 =>
      exact .bind (Q := fun _ _ => True) (ensures_store fun _ _ => trivial)
        fun _ => ensures_pure fun _ _ h => by cases h
  have ⟨cnf, w', hw', hq⟩ := hs w₀ hP
  rw [doAction, bind_apply, hw'] at h
  obtain ⟨hr, rfl⟩ := Prod.mk.inj <| Option.some.inj h
  exact hq <| Option.some.inj <| Prod.mk.inj hr |>.right

-- The start succeeds if there is memory for the context.
theorem start_of_malloc (env : Environment Call.Answer) (w₀ : ServerWorld)
    (hm : env w₀.history .malloc = true) : ∃ w, doAction .serverStart env w₀ =
      some ((.successKeepRunning, some (.serverStart true)), w) := by
  have hs : Ensures env (· = w₀) (doAction .serverStart) fun r _ =>
      r = (.successKeepRunning, some (.serverStart true)) := by
    rw [doAction, actionStateMachineServerStart]
    refine .bind (Q := fun cnf _ => cnf = .serverStart true) ?_
      fun _ => ensures_pure fun _ h => by rw [h]
    refine .bind (Q := fun pgRoboOneContext _ => pgRoboOneContext = true)
      (ensures_call fun _ hw => hw ▸ hm) fun _ => .ite (fun _ => ?_) fun h _ hw => absurd hw h
    exact .bind (transition_spec .init ⟨[]⟩) fun _ => ensures_pure fun _ _ => rfl
  have ⟨_, w, hw, hr⟩ := hs w₀ rfl
  exact ⟨w, hr ▸ hw⟩

theorem start_memory {w₀ : ServerWorld} (h : doAction .serverStart env w₀ =
    some ((.successKeepRunning, some (.serverStart true)), w)) : w.memory = some .init :=
  start_ensures (P := fun _ => True) (fun _ _ => trivial) (transition_spec .init ⟨[]⟩) trivial h

-- After the start of the server all events are dispatched as they should be, if and only if none of
-- them is insufficient power.
theorem events_dispatched_iff (env : Environment Call.Answer) (w₀ w : ServerWorld)
    (es : List Event) (h : doAction .serverStart env w₀ =
      some ((.successKeepRunning, some (.serverStart true)), w)) :
    Along (eventStep env) (Dispatched env) w es ↔ .insufficientPower ∉ es := by
  have hi : ∃ n : StateName, w.memory = some n.state := ⟨.init, start_memory h⟩
  calc
    _ ↔ Along (eventStep env) (fun _ e => e ≠ .insufficientPower) w es :=
      state_preserved.along_congr hi fun _ _ ⟨_, hn⟩ => dispatched_iff hn
    _ ↔ ∀ e ∈ es, e ≠ .insufficientPower :=
      along_forall_iff (fun _ e h => eventStep_total env e h) hi es
    _ ↔ _ :=
      List.forall_mem_ne'

-- Everything succeeds, and the Hindbrain responds.
def workingEnvironment : Environment Call.Answer :=
  fun _ c => match c with
    | .printDebug _                      => ()
    | .malloc                            => true
    | .usleep _                          => ()
    | .hardwareServerSendReceive _ _     => (true, ⟨['O', 'K'], 3⟩)
    | .batteryManagerServerSendReceive _ => true
    | .taskHandlerServerSendReceive _    => true
    | .stateMachineServerSendReceive _   => true

-- The server behind STATE_MACHINE_SERVER_START.
def startedWorld : ServerWorld :=
  (step workingEnvironment ⟨none, []⟩ .serverStart).getD ⟨none, []⟩

theorem start_workingEnvironment : doAction .serverStart workingEnvironment ⟨none, []⟩ =
    some ((.successKeepRunning, some (.serverStart true)), startedWorld) :=
  rfl

theorem events_dispatched_iff_working :
    Along (eventStep workingEnvironment) (Dispatched workingEnvironment) startedWorld
      [.mainsPowerAvailable, .insufficientCharge, .shutdown] ↔
    .insufficientPower ∉ [.mainsPowerAvailable, .insufficientCharge, Event.shutdown] :=
  events_dispatched_iff workingEnvironment ⟨none, []⟩ startedWorld _ start_workingEnvironment

-- The first event is insufficient power, which leads from Init to Docked.
theorem events_not_dispatched : ¬∀ (env : Environment Call.Answer) (w₀ w : ServerWorld)
    (es : List Event), doAction .serverStart env w₀ =
      some ((.successKeepRunning, some (.serverStart true)), w) →
      Along (eventStep env) (Dispatched env) w es := by
  intro h
  have ha := h _ _ startedWorld [.insufficientPower] start_workingEnvironment
  exact not_dispatched (n := .init) (start_memory start_workingEnvironment) ha.left

end RoboOne.StateMachine
