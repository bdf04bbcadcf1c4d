import RoboOne.Monitor.Turns

namespace RoboOne.Monitor

open Hardware Interaction
open BatteryManager (Battery)

-- The calls of the windows with the batteries.
def AboutBatteries : MonitorCall → Prop
  | .readBool _               => False
  | .eventMainsPowerAvailable => False
  | _                         => True

-- What is seen of mains power.
inductive MainsEvent
  | reading (mains12VPresent : Bool)
  | event
deriving DecidableEq

def mainsEvent? : (c : MonitorCall) × c.Answer → Option MainsEvent
  | ⟨.readBool .readMains12VPin, some mains12VPresent⟩ => some (.reading mains12VPresent)
  | ⟨.eventMainsPowerAvailable, _⟩                     => some .event
  | _                                                  => none

def MainsEvent.reading? : MainsEvent → Option Bool
  | .reading mains12VPresent => some mains12VPresent
  | .event                   => none

-- The readings that succeeded.
def readings (calls : MonitorHistory) : List Bool :=
  (calls.filterMap mainsEvent?).filterMap MainsEvent.reading?

-- One event behind each reading with which mains power has come, and no other ones.
def announced : Bool → List Bool → List MainsEvent
  | _,        []           => []
  | previous, present :: ps =>
    .reading present :: (if present && !previous then [.event] else []) ++ announced present ps

-- What the monitor sees of mains power, and what it takes mains power to be behind that.
structure Announces (previous : Bool) (calls : MonitorHistory) (previous' : Bool) : Prop where
  events : calls.filterMap mainsEvent? = announced previous (readings calls)
  last   : previous' = (readings calls).getLastD previous

variable {C : MonitorCall → Prop} {count : UInt8} {calls calls' : MonitorHistory}
  {previous previous₁ previous' : Bool} {steps : List (Batteries → Step)} {bs : Batteries}
  {ps ps' : List Bool}

theorem announced_append :
    announced previous (ps ++ ps') = announced previous ps ++ announced (ps.getLastD previous) ps' := by
  induction ps generalizing previous
  case nil          => rfl
  case cons p ps hi => simp only [List.cons_append, announced, hi, List.append_assoc, List.getLastD_cons]

theorem getLastD_append : (ps ++ ps').getLastD previous = ps'.getLastD (ps.getLastD previous) := by
  induction ps generalizing previous
  case nil          => rfl
  case cons p ps hi => rw [List.cons_append, List.getLastD_cons, List.getLastD_cons, hi]

theorem readings_append : readings (calls ++ calls') = readings calls ++ readings calls' := by
  rw [readings, List.filterMap_append, List.filterMap_append, readings, readings]

theorem announces_composes : Composes Announces where
  refl _       := ⟨rfl, rfl⟩
  trans h₁ h₂ := by
    constructor
    case events =>
      rw [List.filterMap_append, h₁.events, h₂.events, h₁.last, readings_append, announced_append]
    case last => rw [h₂.last, h₁.last, readings_append, getLastD_append]

theorem makes_perform (h : ∀ step ∈ steps, ∀ bs, C (step bs).call) : Makes C (perform steps bs) := by
  induction steps generalizing bs
  case nil => exact .pure
  case cons step steps hi =>
    refine .bind (makes_ask <| h step (.head _) bs) fun a => ?_
    cases (step bs).put a bs
    case none => exact .pure
    case some => exact hi fun step' hs => h step' (.tail _ hs)

theorem aboutBatteries_reads {fields : List (Field × Battery)} :
    ∀ step ∈ reads fields, ∀ bs, AboutBatteries (step bs).call := by
  intro step hs bs
  have ⟨⟨f, b⟩, _, h⟩ := List.mem_map.mp hs
  subst h
  cases f <;> trivial

theorem makes_updateBatteryWindow {w : Window} {batteries : List Battery} {backoff : UInt8}
    {power capacity lifetime : Batteries → String} :
    Makes AboutBatteries (updateBatteryWindow w batteries backoff power capacity lifetime count) := by
  refine .bind (makes_perform aboutBatteries_reads) fun ⟨success, bs⟩ => .bind (makes_ask trivial)
    fun _ => .bind (makes_onlyIf <| makes_printLine trivial trivial) fun _ =>
      .bind (makes_onlyIf ?_) fun _ => .bind (makes_ask trivial) fun _ => .pure
  refine .bind (makes_perform ?_) fun ⟨success, bs⟩ => .bind (makes_ask trivial) fun _ =>
    .bind (makes_onlyIf <| makes_printLine trivial trivial) fun _ =>
      .bind (makes_ask trivial) fun _ => makes_onlyIf <| makes_printLine trivial trivial
  intro step hs
  rcases List.mem_append.mp hs with h | h
  case inl => exact aboutBatteries_reads step h
  case inr =>
    have ⟨b, _, h⟩ := List.mem_map.mp h
    exact fun _ => h ▸ trivial

theorem mainsEvent?_eq_none {c : MonitorCall} {a : c.Answer} (hr : c ≠ .readBool .readMains12VPin)
    (he : c ≠ .eventMainsPowerAvailable) : mainsEvent? ⟨c, a⟩ = none := by
  unfold mainsEvent?
  split
  case h_1 h => exact absurd (congrArg Sigma.fst h) hr
  case h_2 h => exact absurd (congrArg Sigma.fst h) he
  case h_3   => rfl

theorem announces_singleton {c : MonitorCall} {a : c.Answer} (hr : c ≠ .readBool .readMains12VPin)
    (he : c ≠ .eventMainsPowerAvailable) : Announces previous [⟨c, a⟩] previous := by
  have hn : [(⟨c, a⟩ : (c : MonitorCall) × c.Answer)].filterMap mainsEvent? = [] := by
    rw [List.filterMap_cons, mainsEvent?_eq_none hr he]
    rfl
  constructor
  case events => rw [readings, hn]; rfl
  case last   => rw [readings, hn]; rfl

theorem AboutBatteries.relates {α : Type} {p : MonitorProgram α} (h : Makes AboutBatteries p) :
    Relates Announces p :=
  h.relates announces_composes fun _ hc _ _ =>
    announces_singleton (by rintro rfl; exact hc) (by rintro rfl; exact hc)

theorem announces_updateMains12V : Relates Announces updateMains12V := by
  intro previous
  refine .bind <| .call fun a => ?_
  cases a
  case none => exact .call fun _ => ⟨rfl, rfl⟩
  case some present =>
    refine .bind <| .load ?_
    cases present
    case false => exact .bind <| .call fun _ => .store ⟨rfl, rfl⟩
    case true =>
      cases previous
      case false => exact .bind <| .bind <| .call fun _ => .bind <| .call fun _ => .pure <| .store ⟨rfl, rfl⟩
      case true => exact .bind <| .bind <| .call fun _ => .pure <| .store ⟨rfl, rfl⟩

-- Whatever the servers answer, the monitor sends an event behind each reading with which mains power has
-- come, and never one again before mains power has been away. It does not matter if the event is lost.
theorem mains_power_announced {n : Nat} {i : UInt8} {env : MonitorEnvironment} {w : MonitorWorld} :
    ∃ calls exitDashboard w', runMonitor n i env w = some (exitDashboard, w') ∧
      w'.history = w.history ++ calls ∧ Answered env w.history calls ∧
      calls.filterMap mainsEvent? = announced w.memory (readings calls) ∧
      w'.memory = (readings calls).getLastD w.memory := by
  have h : Relates Announces (runMonitor n i) :=
    runMonitor_relates announces_composes
      (fun _ hc _ _ => announces_singleton (by rintro rfl; exact hc rfl) (by rintro rfl; exact hc))
      announces_updateMains12V (fun _ => AboutBatteries.relates makes_updateBatteryWindow)
      fun _ => AboutBatteries.relates makes_updateBatteryWindow
  have ⟨calls, exitDashboard, m', hr, ha, hc⟩ := h w.memory env w.history
  exact ⟨calls, exitDashboard, _, hr, rfl, ha, hc.events, hc.last⟩

end RoboOne.Monitor
