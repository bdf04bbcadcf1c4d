import RoboOne.Monitor.Windows

namespace RoboOne.Monitor

open Hardware Interaction

-- The calls that are neither about mains power, nor to the Battery Manager.
def Plain : MonitorCall → Prop
  | .readBool f               => f ≠ .readMains12VPin
  | .eventMainsPowerAvailable => False
  | .batteryManagerData _ _   => False
  | _                         => True

-- A message with data for the Battery Manager.
def IsData : MonitorCall → Prop
  | .batteryManagerData _ _ => True
  | _                       => False

variable {C : MonitorCall → Prop} {R : Bool → MonitorHistory → Bool → Prop} {w : Window}
  {c : MonitorCall} {text : String} {p : MonitorProgram Unit} {n : Nat}

theorem Plain.not_isData {c : MonitorCall} (h : Plain c) : ¬IsData c := by
  cases c
  case batteryManagerData => exact h.elim
  all_goals exact id

theorem makes_ask (h : C c) : Makes C (ask c) :=
  .call h

theorem makes_onlyIf {φ : Prop} [Decidable φ] (h : Makes C p) : Makes C (onlyIf φ p) :=
  .ite h .pure

theorem makes_printLine (hc : C (.wclrtoeol w)) (hp : C (.wprintw w text)) :
    Makes C (printLine w text) :=
  .bind (makes_ask hc) fun _ => makes_ask hp

theorem makes_displayPowerStatesHelper {isKnown isEnabled is12V isBatt : Bool} :
    Makes Plain (displayPowerStatesHelper w isKnown isEnabled is12V isBatt) :=
  .ite (.ite (makes_ask trivial) <| .ite (makes_ask trivial) <| .ite (makes_ask trivial) <|
    makes_ask trivial) <| makes_ask trivial

theorem makes_displayPowerState {enabled is12V isBatt : ReadBoolFunction}
    (he : enabled ≠ .readMains12VPin) (h : is12V ≠ .readMains12VPin)
    (hb : isBatt ≠ .readMains12VPin) : Makes Plain (displayPowerState enabled is12V isBatt) := by
  refine .bind (makes_ask he) fun isEnabled => ?_
  cases isEnabled
  case none => exact makes_displayPowerStatesHelper
  case some =>
    refine .bind (makes_ask h) fun on12V => ?_
    cases on12V
    case none => exact makes_displayPowerStatesHelper
    case some =>
      refine .bind (makes_ask hb) fun onBatt => ?_
      cases onBatt <;> exact makes_displayPowerStatesHelper

theorem makes_printChargeStates {r : ChargerReading} {cs : List Charger} :
    Makes Plain (printChargeStates r cs) := by
  induction cs
  case nil => exact .pure
  case cons c cs hi =>
    have ha : decide (chargeStateValue (r.state c) < gChargeStrings.length) = true := by
      cases r.state c <;> rfl
    rw [printChargeStates, ha]
    exact .bind .pure fun _ => .bind (makes_ask trivial) fun _ => hi

theorem makes_updateChgWindow : Makes Plain updateChgWindow := by
  refine .bind (makes_ask trivial) fun _ => .bind (makes_printLine trivial trivial) fun _ =>
    .bind (makes_ask trivial) fun r => .bind ?_ fun _ => .bind (makes_ask trivial) fun _ => .pure
  cases r
  case none   => exact .pure
  case some r =>
    exact makes_onlyIf <| .bind (makes_ask trivial) fun _ => .bind (makes_ask trivial) fun _ =>
      makes_printChargeStates

theorem makes_printTaskInfo {info : RoboOneTaskInfo} : Makes Plain (printTaskInfo info) :=
  makes_onlyIf <| .bind (makes_ask trivial) fun _ => makes_onlyIf <| .bind (makes_ask trivial) fun _ =>
    makes_onlyIf <| makes_ask trivial

theorem makes_updateStateWindow : Makes Plain updateStateWindow := by
  refine .bind (makes_ask trivial) fun _ => .bind (makes_ask trivial) fun _ =>
    .bind (makes_ask trivial) fun _ => .bind (makes_onlyIf ?_) fun _ => .pure
  refine .bind (makes_ask trivial) fun context => .bind ?_ fun _ => .bind (makes_ask trivial) fun _ =>
    .bind (makes_onlyIf <| .bind (makes_ask trivial) fun _ => makes_ask trivial) fun _ =>
      .bind (makes_ask trivial) fun _ => .bind (makes_ask trivial) fun _ =>
        .bind (makes_ask trivial) fun _ => .bind makes_printTaskInfo fun _ => makes_ask trivial
  rcases context with _ | _ | _ <;> exact makes_ask trivial

theorem makes_updateCmdWindow : Makes Plain updateCmdWindow := by
  refine .bind (makes_ask trivial) fun key => .bind (makes_ask trivial) fun ⟨_, _⟩ => ?_
  refine .bind (makes_onlyIf <| .bind (makes_ask trivial) fun _ => makes_printLine trivial trivial)
    fun _ => ?_
  exact .bind (makes_ask trivial) fun _ => .bind (makes_ask trivial) fun _ => .pure

variable {count i : UInt8} {S : MonitorHistory → Prop}

-- The variable does not matter for the calls.
theorem relates_updateMains12V (hS : Composes fun (_ : Bool) calls (_ : Bool) => S calls)
    (hc : ∀ c, ¬IsData c → ∀ a, S [⟨c, a⟩]) :
    Relates (fun _ calls _ => S calls) updateMains12V := by
  have any {c : MonitorCall} (h : ¬IsData c) : Relates (fun _ calls _ => S calls) (ask c) :=
    fun _ => .call <| hc c h
  refine .bind hS (any id) fun present => ?_
  cases present
  case none => exact any id
  case some present =>
    refine .bind hS (fun m => .load <| hS.refl m) fun previous =>
      .bind hS (.ite (.bind hS (any id) fun _ => ?_) <| any id) fun _ m => .store <| hS.refl m
    exact .ite (.bind hS (any id) fun _ => .pure hS) <| .pure hS

theorem relates_update (hR : Composes R) (hc : ∀ c, Plain c → ∀ m a, R m [⟨c, a⟩] m)
    (hm : Relates R updateMains12V) (hr : w ≠ .rio) (ho : w ≠ .o) :
    Relates R (w.update count) := by
  have plain {α : Type} {p : MonitorProgram α} (hp : Makes Plain p) : Relates R p := hp.relates hR hc
  cases w
  case output => exact .pure hR
  case rio    => contradiction
  case o      => contradiction
  case chg    => exact plain makes_updateChgWindow
  case state  => exact plain makes_updateStateWindow
  case cmd    => exact plain makes_updateCmdWindow
  case power  =>
    refine .bind hR (.ite ?_ (.pure hR)) fun _ =>
      .bind hR (plain <| makes_ask trivial) fun _ => .pure hR
    refine .bind hR (plain <| makes_ask trivial) fun _ =>
      .bind hR (plain <| makes_printLine trivial trivial) fun _ =>
        .bind hR (plain <| makes_ask trivial) fun _ =>
          .bind hR (plain <| makes_ask trivial) fun _ => .bind hR hm fun _ => ?_
    exact .bind hR (plain <| makes_displayPowerState (by decide) (by decide) (by decide)) fun _ =>
      plain <| makes_displayPowerState (by decide) (by decide) (by decide)

theorem relates_updateWindows {ws : List Window} (hR : Composes R)
    (hc : ∀ c, Plain c → ∀ m a, R m [⟨c, a⟩] m) (h : ∀ w ∈ ws, Relates R (w.update count)) :
    Relates R (updateWindows count ws) := by
  induction ws
  case nil => exact .pure hR
  case cons w ws hi =>
    have ht : Makes Plain (ask .taskHandlerTick) := makes_ask trivial
    exact .bind hR (h w (.head _)) fun _ => .bind hR (ht.relates hR hc) fun _ =>
      .ite (.pure hR) <| hi fun w' hw => h w' (.tail _ hw)

-- What the monitor does is in a relation if the updates are that are about mains power and batteries.
theorem runMonitor_relates (hR : Composes R) (hc : ∀ c, Plain c → ∀ m a, R m [⟨c, a⟩] m)
    (hm : Relates R updateMains12V) (hr : ∀ count, Relates R (updateRioWindow count))
    (ho : ∀ count, Relates R (updateOWindow count)) : Relates R (runMonitor n i) := by
  have update (count : UInt8) (w : Window) : Relates R (w.update count) := by
    by_cases h : w = .rio ∨ w = .o
    case pos =>
      rcases h with rfl | rfl
      case inl => exact hr count
      case inr => exact ho count
    case neg => exact relates_update hR hc hm (h <| .inl ·) (h <| .inr ·)
  induction n generalizing i
  case zero => exact .pure hR
  case succ n hi =>
    have hd : Makes Plain (ask .doupdate) := makes_ask trivial
    exact .bind hR (relates_updateWindows hR hc fun w _ => update i w) fun _ =>
      .bind hR (hd.relates hR hc) fun _ => .ite (.pure hR) hi

end RoboOne.Monitor
