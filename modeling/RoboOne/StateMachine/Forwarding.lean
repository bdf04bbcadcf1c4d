import RoboOne.StateMachine.Dispatch

namespace RoboOne.StateMachine

open Hardware Interaction Transition

-- What calls of the server say about the tasks.
structure Forwarding where
  newTasks : List RoboOneTaskReq -- the NEW_TASK messages
  failures : Nat                 -- the INIT_FAILURE events
  answered : Bool                -- the Hindbrain has answered a ping with OK
deriving DecidableEq

namespace Forwarding

def after (x : Forwarding) : (c : Call) × c.Answer → Forwarding
  | ⟨.taskHandlerServerSendReceive pTaskReq, _⟩      =>
    { x with newTasks := x.newTasks ++ [pTaskReq] }
  | ⟨.stateMachineServerSendReceive .initFailure, _⟩ => { x with failures := x.failures + 1 }
  | ⟨.hardwareServerSendReceive .sendOString (some ⟨_, true⟩), success, pResponseString⟩ =>
    { x with answered := x.answered || (success && pResponseString.isOk) }
  | _                                                => x

-- No calls have been made.
def start : Forwarding where
  newTasks := []
  failures := 0
  answered := false

end Forwarding

-- The calls that have led from the one world to the other.
def forwarding (w w' : ServerWorld) : Forwarding :=
  (w'.history.drop w.history.length).foldl Forwarding.after .start

-- The states that handle a task.
def taskStates : List StateName :=
  [.init, .batteryIdle, .docked, .dockedMainsIdle, .mobile]

-- Each task that one of these states receives is passed on exactly once.
def ForwardedOnce (env : Environment Call.Answer) (w : ServerWorld) (e : Event) : Prop :=
  ∀ pTaskReq, e = .tasksAvailable pTaskReq → ∀ n ∈ taskStates, w.memory = some n.state →
    ∀ w' ∈ eventStep env w e, (forwarding w w').newTasks = [pTaskReq]

-- A task is passed on exactly once if the state is Mobile already, or if its entry actions get as far as
-- an answer of the Hindbrain. It is dropped otherwise, with one INIT_FAILURE event in its place. Nothing
-- else is ever passed on.
structure Forwarded (env : Environment Call.Answer) (w : ServerWorld) (e : Event) : Prop where
  handled : (eventStep env w e).isSome
  tasks   : ∀ pTaskReq, e = .tasksAvailable pTaskReq → ∀ n ∈ taskStates, w.memory = some n.state →
    ∀ w' ∈ eventStep env w e, if n = .mobile ∨ (forwarding w w').answered then
      (forwarding w w').newTasks = [pTaskReq] ∧ (forwarding w w').failures = 0
    else
      (forwarding w w').newTasks = [] ∧ (forwarding w w').failures = 1
  nothing : ∀ w' ∈ eventStep env w e, (forwarding w w').newTasks ≠ [] →
    ∃ pTaskReq, e = .tasksAvailable pTaskReq ∧ ∃ n ∈ taskStates, w.memory = some n.state

variable {env : Environment Call.Answer} {h₀ : History Call.Answer} {x y : Forwarding}
  {w w' : ServerWorld} {e : Event} {n : StateName} {c : Call} {C : Call → Prop}
  {F : Forwarding → Prop} {m on off : HardwareMsgType} {text onText offText : String}
  {pTaskReq : RoboOneTaskReq} {pState : RoboOneState}

-- `F` holds of the calls since the history `h₀`.
abbrev ForwardingIs (h₀ : History Call.Answer) (F : Forwarding → Prop) : ServerWorld → Prop :=
  FoldSince Forwarding.after .start h₀ F

theorem keeps_forwarding {α : Type} {p : Program α} (hp : Makes C p)
    (hc : ∀ c, C c → ∀ (y : Forwarding) a, y.after ⟨c, a⟩ = y) :
    Keeps env (ForwardingIs h₀ F) p :=
  FoldSince.keeps hp fun c h y a hy => (hc c h y a).symm ▸ hy

theorem Forwarding.after_of_switches {ms : List HardwareMsgType} (hm : .sendOString ∉ ms) (c : Call)
    (hc : c.Switches ms) (y : Forwarding) (a : c.Answer) : y.after ⟨c, a⟩ = y := by
  cases c
  case printDebug => rfl
  case hardwareServerSendReceive m _ =>
    have hn : m ≠ .sendOString := fun he => hm (he ▸ hc)
    cases m <;> first | rfl | exact absurd rfl hn
  all_goals cases hc

theorem keeps_forwarding_ask (hc : ∀ (y : Forwarding) a, y.after ⟨c, a⟩ = y) :
    Keeps env (ForwardingIs h₀ F) (ask c) :=
  keeps_forwarding (makes_ask (C := (· = c)) rfl) fun _ h => h ▸ hc

theorem keeps_forwarding_printDebug : Keeps env (ForwardingIs h₀ F) (printDebug text) :=
  keeps_forwarding_ask fun _ _ => rfl

theorem keeps_forwarding_enter : Keeps env (ForwardingIs h₀ F) (enter pState) :=
  .bind (ensures_store fun _ hw => hw) fun _ => keeps_forwarding_printDebug

theorem keeps_forwarding_switchSupply (hm : .sendOString ∉ [on, off]) :
    Keeps env (ForwardingIs h₀ F) (switchSupply onText on offText off) :=
  keeps_forwarding makes_switchSupply (Forwarding.after_of_switches hm)

-- Only a task that is passed on adds to the tasks.
theorem Forwarding.after_newTasks (h : ∀ pTaskReq, c ≠ .taskHandlerServerSendReceive pTaskReq)
    {a : c.Answer} : (y.after ⟨c, a⟩).newTasks = y.newTasks := by
  unfold after
  split
  case h_1 he => exact absurd (congrArg Sigma.fst he) (h _)
  all_goals rfl

-- No task has been passed on.
abbrev NoTasks (h₀ : History Call.Answer) : ServerWorld → Prop :=
  ForwardingIs h₀ (·.newTasks = [])

theorem keeps_noTasks {α : Type} {p : Program α} (hp : Makes C p)
    (hc : ∀ pTaskReq, ¬C (.taskHandlerServerSendReceive pTaskReq)) : Keeps env (NoTasks h₀) p := by
  refine FoldSince.keeps hp fun c h y a hy => Eq.trans (Forwarding.after_newTasks ?_) hy
  rintro pTaskReq rfl
  exact hc pTaskReq h

theorem keeps_noTasks_ask (hc : ∀ pTaskReq, c ≠ .taskHandlerServerSendReceive pTaskReq) :
    Keeps env (NoTasks h₀) (ask c) :=
  keeps_noTasks (makes_ask (C := (· = c)) rfl) fun pTaskReq h => hc pTaskReq h.symm

theorem keeps_noTasks_defaultEvent {event : String} :
    Keeps env (NoTasks h₀) (defaultEvent event pState) :=
  keeps_forwarding_printDebug

theorem keeps_noTasks_switchRelays :
    Keeps env (NoTasks h₀) (printDebug text >>= fun _ => hardwareServerSendReceive m) :=
  keeps_noTasks makes_switchRelays fun _ => id

theorem keeps_noTasks_switchSupply :
    Keeps env (NoTasks h₀) (switchSupply onText on offText off) :=
  keeps_noTasks makes_switchSupply fun _ => id

-- No transition passes on a task but that to Mobile.
theorem keeps_noTasks_transition (pTaskReq : RoboOneTaskReq) (hn : n ≠ .mobile) :
    Keeps env (NoTasks h₀) (n.transition pTaskReq) := by
  have hfail : Keeps env (NoTasks h₀) (stateMachineServerSendReceive .initFailure) :=
    keeps_noTasks_ask fun _ h => by cases h
  have hpermit (b : Bool) : Keeps env (NoTasks h₀) (batteryManagerServerSendReceive b) :=
    keeps_noTasks_ask fun _ h => by cases h
  have hoff : Keeps env (NoTasks h₀) actionSwitchOffHindbrain :=
    keeps_noTasks makes_actionSwitchOffHindbrain fun _ => id
  cases n
  case init =>
    refine keeps_forwarding_enter.bind fun _ => .bind keeps_noTasks_switchSupply fun _ => ?_
    refine .bind keeps_noTasks_switchSupply fun _ => .bind keeps_noTasks_switchRelays fun _ => ?_
    refine .ite ?_ (keeps_reportFailure hfail)
    refine .bind ?_ fun _ => keeps_reportFailure hfail
    exact keeps_noTasks makes_actionSwitchOnHindbrain fun _ => id
  case batteryIdle     => exact keeps_forwarding_enter.bind fun _ => .bind hoff fun _ => .pure
  case dockedCharging  => exact keeps_forwarding_enter
  case dockedMainsIdle => exact keeps_forwarding_enter
  case docked =>
    have hlast : Keeps env (NoTasks h₀)
        (batteryManagerServerSendReceive true >>= fun _ => (pure () : Program Unit)) :=
      .bind (hpermit true) fun _ => .pure
    refine keeps_forwarding_enter.bind fun _ => .bind keeps_noTasks_switchRelays fun _ => ?_
    refine .ite (.bind keeps_noTasks_switchSupply fun _ => ?_) hlast
    exact .bind keeps_noTasks_switchSupply fun _ => .bind hoff fun _ => hlast
  case mobile          => exact absurd rfl hn
  case shutdown =>
    refine keeps_forwarding_enter.bind fun _ => .bind (hpermit false) fun _ => ?_
    refine .bind hoff fun _ => .bind keeps_noTasks_switchRelays fun _ => ?_
    exact .bind keeps_noTasks_switchRelays fun _ => .pure

-- So nothing but a task does so at all.
theorem keeps_noTasks_call (p : Handler) : Keeps env (NoTasks h₀) (p.call pState) := by
  cases p
  case transitionToInit             => exact keeps_noTasks_transition (n := .init) ⟨[]⟩ nofun
  case transitionToBatteryIdle      => exact keeps_noTasks_transition (n := .batteryIdle) ⟨[]⟩ nofun
  case transitionToDocked           => exact keeps_noTasks_transition (n := .docked) ⟨[]⟩ nofun
  case transitionToDocked_Charging  => exact keeps_forwarding_enter
  case transitionToDocked_MainsIdle => exact keeps_forwarding_enter
  case transitionToShutdown         => exact keeps_noTasks_transition (n := .shutdown) ⟨[]⟩ nofun
  all_goals exact keeps_noTasks_defaultEvent

theorem keeps_noTasks_handler (he : ∀ pTaskReq, e ≠ .tasksAvailable pTaskReq) :
    Keeps env (NoTasks h₀) (pState.handler e) := by
  cases e
  case tasksAvailable pTaskReq => exact absurd rfl (he pTaskReq)
  all_goals exact keeps_noTasks_call _

-- The handler of Mobile passes on its task, whether it is accepted or not.
theorem ensures_eventTasksAvailable :
    Ensures env (ForwardingIs h₀ (· = y)) (eventTasksAvailable pTaskReq) fun _ =>
      ForwardingIs h₀ (· = { y with newTasks := y.newTasks ++ [pTaskReq] }) := by
  refine .bind (Q := fun _ => ForwardingIs h₀
    (· = { y with newTasks := y.newTasks ++ [pTaskReq] })) ?_ fun _ => ?_
  case refine_1 =>
    refine ensures_call fun w hw => hw.record ?_
    rintro _ rfl
    rfl
  case refine_2 => exact Keeps.ite keeps_forwarding_printDebug .pure

-- What the calls say when the Hindbrain has been switched on, or not.
def switchedOn (success : Bool) : Forwarding :=
  { Forwarding.start with answered := success }

theorem ensures_toggleOn_answered : Ensures env (ForwardingIs h₀ (· = .start)) toggleOn
    fun success => ForwardingIs h₀ (· = switchedOn success) := by
  refine .bind keeps_forwarding_printDebug fun _ => ?_
  refine .bind (keeps_forwarding (makes_hardwareServerSendReceive (C := (· = _)) rfl) ?_) fun _ => ?_
  case refine_1 =>
    rintro _ rfl y a
    rfl
  refine .ite (fun _ => ?_) fun _ => ensures_pure fun _ hw => hw
  refine .bind (keeps_forwarding_ask fun _ _ => rfl) fun _ => ?_
  refine .bind keeps_forwarding_printDebug fun _ => ?_
  refine .bind (Q := fun a => ForwardingIs h₀ (· = switchedOn (a.fst && a.snd.isOk)))
    (ensures_call fun w hw => hw.record ?_) fun _ => ensures_pure fun _ hw => hw
  rintro _ rfl
  rfl

theorem ensures_toggleOnTurns_answered {turns : Nat} :
    Ensures env (ForwardingIs h₀ (· = .start)) (toggleOnTurns turns)
      fun success => ForwardingIs h₀ (· = switchedOn success) := by
  induction turns
  case zero          => exact ensures_pure fun _ hw => hw
  case succ turns hi =>
    refine .bind ensures_toggleOn_answered fun success => ?_
    cases success
    case false => exact hi
    case true  => exact ensures_pure fun _ hw => hw

theorem ensures_switchOn_answered :
    Ensures env (ForwardingIs h₀ (· = .start)) actionSwitchOnHindbrain
      fun success => ForwardingIs h₀ (· = switchedOn success) := by
  have hfail : Ensures env (ForwardingIs h₀ (· = .start)) (pure false : Program Bool)
      fun success => ForwardingIs h₀ (· = switchedOn success) := ensures_pure fun _ hw => hw
  refine .bind (keeps_forwarding_ask fun _ _ => rfl) fun _ => .ite (fun _ => ?_) fun _ => hfail
  refine .bind (keeps_forwarding_ask fun _ _ => rfl) fun _ => .ite (fun _ => ?_) fun _ => hfail
  exact ensures_toggleOnTurns_answered

-- What the transition to Mobile makes of a task.
inductive Moved (pTaskReq : RoboOneTaskReq) : Forwarding → Prop
  | forwarded : Moved pTaskReq ⟨[pTaskReq], 0, true⟩
  | dropped   : Moved pTaskReq ⟨[], 1, false⟩

theorem ensures_transitionToMobile :
    Ensures env (ForwardingIs h₀ (· = .start)) (transitionToMobile pTaskReq)
      fun _ => ForwardingIs h₀ (Moved pTaskReq) := by
  -- At whichever entry action it fails, nothing has been passed on yet.
  have hfail {success : Bool} (h : ¬success = true) : Ensures env (ForwardingIs h₀ (· = .start))
      (if !success then
        stateMachineServerSendReceive .initFailure >>= fun _ => pure ()
      else
        pure () : Program Unit) fun _ => ForwardingIs h₀ (Moved pTaskReq) := by
    refine .ite (fun _ => ?_) fun hs => absurd (by simpa using hs) h
    refine .bind (Q := fun _ => ForwardingIs h₀ (Moved pTaskReq))
      (ensures_call fun w hw => hw.record ?_) fun _ => ensures_pure fun _ hw => hw
    rintro _ rfl
    exact .dropped
  refine .bind keeps_forwarding_enter fun _ => .bind (keeps_forwarding_ask fun _ _ => rfl) fun _ => ?_
  refine .bind (keeps_forwarding_switchSupply (by decide)) fun _ => .ite (fun _ => ?_) hfail
  refine .bind (keeps_forwarding_switchSupply (by decide)) fun _ => .ite (fun _ => ?_) hfail
  refine .bind ensures_switchOn_answered fun success => .ite (fun h => ?_) fun h => ?_
  case refine_1 =>
    refine .bind ensures_eventTasksAvailable fun _ => ?_
    subst h
    exact ensures_pure fun w hw => hw.mono fun _ h => h ▸ .forwarded
  case refine_2 =>
    refine (hfail h).mono (fun w hw => ?_) fun _ _ hw => hw
    rw [eq_false_of_ne_true h] at hw
    exact hw

-- What the handler of an event ensures about the calls of the step.
theorem eventStep_forwarding (env : Environment Call.Answer) (h : w.memory = some n.state)
    (hp : Ensures env (ForwardingIs w.history (· = .start)) (n.state.handler e.dispatched)
      fun _ => ForwardingIs w.history F) :
    ∃ w', eventStep env w e = some w' ∧ F (forwarding w w') := by
  have ⟨w', hw, _, hf⟩ := hp.exec (FoldSince.start rfl)
  exact ⟨w', (eventStep_eq_exec h).trans hw, hf.result⟩

-- Mobile passes on the task at once, and the other states make the transition to Mobile.
theorem eventStep_tasksAvailable (env : Environment Call.Answer) (pTaskReq : RoboOneTaskReq)
    (h : w.memory = some n.state) (hn : n ∈ taskStates) :
    ∃ w', eventStep env w (.tasksAvailable pTaskReq) = some w' ∧
      (n = .mobile ∧ forwarding w w' = ⟨[pTaskReq], 0, false⟩ ∨
        n ≠ .mobile ∧ Moved pTaskReq (forwarding w w')) := by
  by_cases hm : n = .mobile
  case pos =>
    subst hm
    have ⟨w', hw, hf⟩ := eventStep_forwarding env (e := .tasksAvailable pTaskReq) h
      ensures_eventTasksAvailable
    exact ⟨w', hw, .inl ⟨rfl, hf⟩⟩
  case neg =>
    have hp : n.state.handler (.tasksAvailable pTaskReq) = transitionToMobile pTaskReq := by
      cases n
      case dockedCharging => exact absurd hn (by decide)
      case mobile         => exact absurd rfl hm
      case shutdown       => exact absurd hn (by decide)
      all_goals rfl
    have ⟨w', hw, hf⟩ := eventStep_forwarding env (e := .tasksAvailable pTaskReq) h <|
      hp.symm ▸ ensures_transitionToMobile
    exact ⟨w', hw, .inr ⟨hm, hf⟩⟩

-- Any other event passes on nothing, and neither does a task that the state does not handle.
theorem eventStep_noTasks (env : Environment Call.Answer) (h : w.memory = some n.state)
    (he : ∀ pTaskReq, e = .tasksAvailable pTaskReq → n ∉ taskStates) :
    ∃ w', eventStep env w e = some w' ∧ (forwarding w w').newTasks = [] := by
  refine eventStep_forwarding env (F := (·.newTasks = [])) h ?_
  refine Ensures.mono (P := NoTasks w.history) ?_ (fun _ hw => hw.mono fun _ h => h ▸ rfl)
    fun _ _ hw => hw
  cases e
  case tasksAvailable pTaskReq =>
    have hn := he pTaskReq rfl
    cases n
    case dockedCharging => exact keeps_noTasks_defaultEvent
    case shutdown       => exact keeps_noTasks_defaultEvent
    all_goals exact absurd (by decide) hn
  all_goals exact keeps_noTasks_handler fun _ h => by cases h

theorem forwarded (env : Environment Call.Answer) (e : Event) (h : w.memory = some n.state) :
    Forwarded env w e := by
  by_cases he : ∃ pTaskReq, e = .tasksAvailable pTaskReq ∧ n ∈ taskStates
  case pos =>
    obtain ⟨pTaskReq, rfl, hn⟩ := he
    have ⟨w', hw, hf⟩ := eventStep_tasksAvailable env pTaskReq h hn
    constructor
    case handled => exact Option.isSome_iff_exists.mpr ⟨w', hw⟩
    case tasks =>
      rintro _ ⟨⟩ n' _ hn' m hm
      obtain rfl := Option.some.inj <| hw.symm.trans hm
      obtain rfl : n' = n := StateName.state_injective <| Option.some.inj <| hn'.symm.trans h
      rcases hf with ⟨rfl, hf⟩ | ⟨hne, hf⟩
      case inl => simp [hf]
      case inr =>
        generalize forwarding w w' = z at hf
        cases hf
        case forwarded => simp
        case dropped   => simp [hne]
    case nothing => exact fun _ _ _ => ⟨pTaskReq, rfl, n, hn, h⟩
  case neg =>
    have ⟨w', hw, hf⟩ := eventStep_noTasks (e := e) env h fun t ht hn => he ⟨t, ht, hn⟩
    constructor
    case handled => exact Option.isSome_iff_exists.mpr ⟨w', hw⟩
    case tasks =>
      intro pTaskReq ht n' hn hn'
      obtain rfl : n' = n := StateName.state_injective <| Option.some.inj <| hn'.symm.trans h
      exact absurd ⟨pTaskReq, ht, hn⟩ he
    case nothing =>
      intro m hm hne
      obtain rfl := Option.some.inj <| hw.symm.trans hm
      exact absurd hf hne

-- This is what becomes of the tasks in any run, whatever the entry actions come to.
theorem tasks_forwarded (env : Environment Call.Answer) (w₀ w : ServerWorld) (es : List Event)
    (h : doAction .serverStart env w₀ =
      some ((.successKeepRunning, some (.serverStart true)), w)) :
    Along (eventStep env) (Forwarded env) w es :=
  state_preserved.along_congr (P := fun _ _ => True) ⟨.init, start_memory h⟩
    (fun _ e ⟨_, hn⟩ => iff_of_true trivial (forwarded env e hn)) |>.mp (.of_forall fun _ _ => trivial)

theorem tasks_forwarded_working :
    Along (eventStep workingEnvironment) (Forwarded workingEnvironment) startedWorld
      [.tasksAvailable ⟨[1]⟩, .tasksAvailable ⟨[2]⟩, .noTasksAvailable] :=
  tasks_forwarded workingEnvironment ⟨none, []⟩ startedWorld _ start_workingEnvironment

-- Nothing fails but that the battery power of the Pi is switched on.
def unsuppliedEnvironment : Environment Call.Answer :=
  fun h c => match c with
    | .hardwareServerSendReceive .setRioPwrBattOn _ => (false, ⟨[], 0⟩)
    | c                                             => workingEnvironment h c

def unsuppliedWorld : ServerWorld :=
  (step unsuppliedEnvironment ⟨none, []⟩ .serverStart).getD ⟨none, []⟩

theorem start_unsuppliedEnvironment : doAction .serverStart unsuppliedEnvironment ⟨none, []⟩ =
    some ((.successKeepRunning, some (.serverStart true)), unsuppliedWorld) :=
  rfl

-- A task that arrives in Init is dropped.
theorem tasks_not_forwarded : ¬∀ (env : Environment Call.Answer) (w₀ w : ServerWorld)
    (es : List Event), doAction .serverStart env w₀ =
      some ((.successKeepRunning, some (.serverStart true)), w) →
      Along (eventStep env) (ForwardedOnce env) w es := by
  intro h
  have ha := h _ _ unsuppliedWorld [.tasksAvailable ⟨[]⟩] start_unsuppliedEnvironment
  have hf := ha.left ⟨[]⟩ rfl .init (by decide) (start_memory start_unsuppliedEnvironment) _ rfl
  exact absurd hf (by decide +kernel)

end RoboOne.StateMachine
