import RoboOne.Monitor.Batteries

namespace RoboOne.Monitor

open Hardware Interaction
open BatteryManager (Battery BatteryData BatteryStatus)

-- The batteries whose data are due in a turn.
def due (i : UInt8) : List Battery :=
  (if i % slowUpdateBackoff = 0 then [.rio] else []) ++
    if i % slowerUpdateBackoff = 0 then [.o1, .o2, .o3] else []

-- Those that are due in so many turns.
def dueIn : Nat → UInt8 → List Battery
  | 0,     _ => []
  | n + 1, i => due i ++ dueIn n (i + 1)

def sentFor? : (c : MonitorCall) × c.Answer → Option Battery
  | ⟨.batteryManagerData b _, _⟩ => some b
  | _                            => none

def sent (calls : MonitorHistory) : List Battery :=
  calls.filterMap sentFor?

-- What has to be read before data are sent can be read, and the Battery Manager answers.
def Healthy : (c : MonitorCall) × c.Answer → Prop
  | ⟨.readRemainingCapacity _, a⟩          => a ≠ none
  | ⟨.readBattLifetimeChargeDischarge _, a⟩ => a ≠ none
  | ⟨.readBattTemperature _, a⟩            => a ≠ none
  | ⟨.batteryManagerData _ _, a⟩           => a ≠ none
  | _                                      => True

-- No other data are sent than those of the batteries, and all of them if all is well and `φ`, and then `Q`.
def Delivers {α : Type} (φ : Prop) (batteries : List Battery) (p : MonitorProgram α) (Q : α → Prop) :
    Prop :=
  ∀ m, Traces m p fun calls a _ => (sent calls).Sublist batteries ∧
    (φ → (∀ x ∈ calls, Healthy x) → sent calls = batteries ∧ Q a)

variable {α β : Type} {φ : Prop} {C : MonitorCall → Prop} {calls calls' : MonitorHistory}
  {batteries batteries' : List Battery} {p : MonitorProgram α} {Q : α → Prop} {b : Battery}
  {bs : Batteries} {fields : List (Field × Battery)} {i count : UInt8} {n : Nat} {w : Window}
  {backoff : UInt8} {power capacity lifetime : Batteries → String}

theorem sent_append : sent (calls ++ calls') = sent calls ++ sent calls' :=
  List.filterMap_append ..

theorem sent_eq_nil {c : MonitorCall} {a : c.Answer} (h : ¬IsData c) : sent [⟨c, a⟩] = [] := by
  cases c
  case batteryManagerData => exact absurd trivial h
  all_goals rfl

namespace Delivers

theorem pure {a : α} (h : φ → Q a) : Delivers φ [] (pure a) Q :=
  fun _ => .pure ⟨.slnil, fun hf _ => ⟨rfl, h hf⟩⟩

theorem bind {f : α → MonitorProgram β} {R : β → Prop} (hp : Delivers φ batteries p Q)
    (hf : ∀ a, Delivers (Q a) batteries' (f a) R) :
    Delivers φ (batteries ++ batteries') (p >>= f) R := by
  intro m
  refine .bind <| (hp m).mono fun calls a m₁ ⟨hs, ha⟩ => ?_
  refine (hf a m₁).mono fun calls' b m' ⟨hs', hb⟩ => ⟨?_, fun h hall => ?_⟩
  case refine_1 => exact sent_append ▸ hs.append hs'
  case refine_2 =>
    have ⟨he, hq⟩  := ha h fun x hx => hall x (List.mem_append_left _ hx)
    have ⟨he', hr⟩ := hb hq fun x hx => hall x (List.mem_append_right _ hx)
    exact ⟨by rw [sent_append, he, he'], hr⟩

theorem bind_nil_left {f : α → MonitorProgram β} {R : β → Prop} (hp : Delivers φ [] p Q)
    (hf : ∀ a, Delivers (Q a) batteries (f a) R) : Delivers φ batteries (p >>= f) R :=
  hp.bind hf

theorem bind_nil_right {f : α → MonitorProgram β} {R : β → Prop} (hp : Delivers φ batteries p Q)
    (hf : ∀ a, Delivers (Q a) [] (f a) R) : Delivers φ batteries (p >>= f) R :=
  List.append_nil batteries ▸ hp.bind hf

theorem ask {c : MonitorCall} {Q : c.Answer → Prop} (h : ¬IsData c)
    (hq : φ → ∀ a, Healthy ⟨c, a⟩ → Q a) : Delivers φ [] (ask c) Q :=
  fun _ => .call fun a => ⟨sent_eq_nil h ▸ .slnil, fun hf hall =>
    ⟨sent_eq_nil h, hq hf a <| hall _ (.head _)⟩⟩

theorem mono {φ' : Prop} {Q' : α → Prop} (h : Delivers φ batteries p Q) (hf : φ' → φ)
    (hq : ∀ a, Q a → Q' a) : Delivers φ' batteries p Q' :=
  fun m => (h m).mono fun _ a _ ⟨hs, ha⟩ =>
    ⟨hs, fun h hall => (ha (hf h) hall).imp_right (hq a)⟩

-- Data may be missing if something has gone wrong before.
theorem of_not (hn : ¬φ) (h : Delivers φ [] p Q) : Delivers φ batteries p Q :=
  fun m => (h m).mono fun _ _ _ ⟨hs, _⟩ => ⟨hs.trans (List.nil_sublist _), fun hf => absurd hf hn⟩

theorem of_relates (h : Relates (fun _ calls _ => sent calls = []) p) : Delivers φ [] p fun _ => φ :=
  fun m => (h m).mono fun _ _ _ hs => ⟨hs ▸ .slnil, fun hf _ => ⟨hs, hf⟩⟩

theorem nothing {φ' : Prop} (h : Delivers φ [] p Q) : Delivers φ' [] p fun _ => True :=
  fun m => (h m).mono fun _ _ _ ⟨hs, _⟩ => ⟨hs, fun _ _ => ⟨List.sublist_nil.mp hs, trivial⟩⟩

end Delivers

-- What is read for the Battery Manager, as opposed to current and voltage.
def Field.IsSlow : Field → Prop
  | current => False
  | voltage => False
  | _       => True

theorem Field.not_isData {f : Field} : ¬IsData (Step.read b f).call := by
  cases f <;> exact id

theorem Field.put_ne_none {f : Field} {a : (Step.read b f).call.Answer} (hf : f.IsSlow)
    (h : Healthy ⟨(Step.read b f).call, a⟩) : (Step.read b f).put a bs ≠ none := by
  cases f
  case current | voltage => exact hf.elim
  all_goals exact fun hn => h <| Option.map_eq_none_iff.mp hn

theorem delivers_reads :
    Delivers (∀ x ∈ fields, x.fst.IsSlow) [] (perform (reads fields) bs) fun r => r.fst = true := by
  induction fields generalizing bs
  case nil => exact .pure fun _ => rfl
  case cons x fields hi =>
    have ⟨f, b⟩ := x
    have hr : Delivers (∀ x ∈ (f, b) :: fields, x.fst.IsSlow) [] (ask (Step.read b f).call) fun a =>
        (Step.read b f).put a bs ≠ none ∧ ∀ x ∈ fields, x.fst.IsSlow :=
      .ask Field.not_isData fun hf a ha =>
        ⟨Field.put_ne_none (hf _ <| .head _) ha, fun x hx => hf x (.tail _ hx)⟩
    refine hr.bind fun a => ?_
    cases (Step.read b f).put a bs
    case none    => exact .pure fun h => absurd rfl h.left
    case some bs => exact hi.mono (fun h => h.right) fun _ h => h

theorem delivers_sends {φ : Prop} :
    Delivers φ batteries (perform (batteries.map .send) bs) fun _ => True := by
  induction batteries generalizing bs φ
  case nil => exact .pure fun _ => trivial
  case cons b batteries hi =>
    have hs : Delivers φ [b] (ask (Step.send b bs).call) fun a => (Step.send b bs).put a bs ≠ none :=
      fun _ => .call fun a => ⟨.refl _, fun _ hall =>
        ⟨rfl, fun hn => hall _ (.head _) <| Option.map_eq_none_iff.mp hn⟩⟩
    refine hs.bind fun a => ?_
    cases (Step.send b bs).put a bs
    case none    => exact .of_not (· rfl) <| .pure fun _ => trivial
    case some bs => exact hi

theorem delivers_sendData :
    Delivers True batteries (perform (reads ([.remainingCapacity, .chargeDischarge, .temperature] ×ˢ
      batteries) ++ batteries.map .send) bs) fun _ => True := by
  have hf : ∀ x ∈ [.remainingCapacity, .chargeDischarge, .temperature] ×ˢ batteries,
      Field.IsSlow x.fst := by
    intro ⟨f, b⟩ hx
    have hf := (List.pair_mem_product.mp hx).left
    simp only [List.mem_cons, List.not_mem_nil, or_false] at hf
    rcases hf with rfl | rfl | rfl <;> trivial
  rw [perform_append]
  refine (delivers_reads.mono (fun _ => hf) fun _ h => h).bind fun ⟨success, bs'⟩ => ?_
  cases success
  case true  => exact delivers_sends
  case false => exact .of_not Bool.false_ne_true <| .pure fun _ => trivial

theorem sentNothing_composes : Composes fun (_ : Bool) calls (_ : Bool) => sent calls = [] where
  refl _      := rfl
  trans h h'  := by rw [sent_append, h, h']; rfl

theorem delivers_of_plain {p : MonitorProgram α} (h : Makes Plain p) :
    Delivers φ [] p fun _ => φ :=
  .of_relates <| h.relates sentNothing_composes fun _ hc _ _ => sent_eq_nil hc.not_isData

theorem delivers_updateBatteryWindow :
    Delivers True (if count % backoff = 0 then batteries else [])
      (updateBatteryWindow w batteries backoff power capacity lifetime count)
      fun exitDashboard => exitDashboard = false := by
  have called {c : MonitorCall} (hc : Plain c) : Delivers True [] (ask c) fun _ => True :=
    delivers_of_plain <| makes_ask hc
  have line {success : Bool} {text : String} :
      Delivers True [] (onlyIf success <| printLine w text) fun _ => True :=
    delivers_of_plain <| makes_onlyIf <| makes_printLine trivial trivial
  refine .bind_nil_left delivers_reads.nothing fun ⟨success, bs⟩ => .bind_nil_left (called trivial)
    fun _ => .bind_nil_left line fun _ => .bind_nil_right (Q := fun _ => True) ?_ fun _ =>
      .bind_nil_left (called trivial) fun _ => .pure fun _ => rfl
  by_cases h : count % backoff = 0
  case neg =>
    rw [onlyIf, if_neg h, if_neg h]
    exact .pure fun _ => trivial
  case pos =>
    rw [onlyIf, if_pos h, if_pos h]
    exact .bind_nil_right delivers_sendData fun _ => .bind_nil_left (called trivial) fun _ =>
      .bind_nil_left line fun _ => .bind_nil_left (called trivial) fun _ => line

theorem delivers_updateRioWindow :
    Delivers True (if count % slowUpdateBackoff = 0 then [.rio] else []) (updateRioWindow count)
      fun exitDashboard => exitDashboard = false :=
  delivers_updateBatteryWindow

theorem delivers_updateOWindow :
    Delivers True (if count % slowerUpdateBackoff = 0 then [.o1, .o2, .o3] else [])
      (updateOWindow count) fun exitDashboard => exitDashboard = false :=
  delivers_updateBatteryWindow

-- If there is no exit, then the windows behind the one are updated, too.
theorem Delivers.cons {ws : List Window}
    (hw : Delivers True batteries (w.update count) fun exitDashboard => exitDashboard = false)
    (h : Delivers True batteries' (updateWindows count ws) fun _ => True) :
    Delivers True (batteries ++ batteries') (updateWindows count (w :: ws)) fun _ => True := by
  refine .bind hw fun exitDashboard =>
    .bind_nil_left (delivers_of_plain <| makes_ask trivial) fun _ => ?_
  cases exitDashboard
  case true  => exact .of_not Bool.noConfusion (.pure fun _ => trivial)
  case false => exact h.mono (fun _ => trivial) fun _ h => h

theorem delivers_gWindowList :
    Delivers True (due i) (updateWindows i gWindowList) fun _ => True := by
  have plain {c : MonitorCall} (h : ¬IsData c) {a : c.Answer} : sent [⟨c, a⟩] = [] := sent_eq_nil h
  have rest : Delivers True [] (updateWindows i [.power, .chg, .state, .cmd]) fun _ => True := by
    refine .of_relates <| relates_updateWindows sentNothing_composes (fun _ hc _ _ => plain hc.not_isData)
      fun w hw => relates_update sentNothing_composes (fun _ hc _ _ => plain hc.not_isData)
        (relates_updateMains12V sentNothing_composes fun _ h _ => plain h) ?_ ?_
    all_goals
      rintro rfl
      simp at hw
  have ho := Delivers.cons (w := .o) delivers_updateOWindow rest
  rw [List.append_nil] at ho
  have output : Delivers True [] (Window.update i .output) fun exitDashboard => exitDashboard = false :=
    .pure fun _ => rfl
  exact output.cons <| .cons (w := .rio) delivers_updateRioWindow ho

theorem mem_dueIn_twenty : b ∈ dueIn 20 i := by
  obtain ⟨⟨i⟩⟩ := i
  revert i
  cases b <;> decide +kernel

theorem dueIn_mono (h : b ∈ dueIn n i) {n' : Nat} (hn : n ≤ n') : b ∈ dueIn n' i := by
  induction n generalizing n' i
  case zero => cases h
  case succ n hi =>
    cases n'
    case zero    => omega
    case succ n' =>
      refine List.mem_append.mpr <| (List.mem_append.mp h).imp_right fun h => hi h ?_
      omega

theorem traces_runMonitor {m : Bool} :
    Traces m (runMonitor n i) fun calls exitDashboard _ => ∃ turns ≤ n,
      (exitDashboard = false → turns = n) ∧ (sent calls).Sublist (dueIn turns i) ∧
        ((∀ x ∈ calls, Healthy x) → sent calls = dueIn turns i) := by
  induction n generalizing m i
  case zero => exact .pure ⟨0, le_refl 0, fun _ => rfl, .slnil, fun _ => rfl⟩
  case succ n hi =>
    refine .bind <| (delivers_gWindowList m).mono fun calls exitDashboard m₁ ⟨hs, ha⟩ => ?_
    refine .bind <| .call fun a => ?_
    have sent_turn (calls' : MonitorHistory) :
        sent (calls ++ ([⟨.doupdate, a⟩] ++ calls')) = sent calls ++ sent calls' := by
      rw [sent_append, sent_append]
      rfl
    cases exitDashboard
    case true =>
      refine .pure ⟨1, by omega, nofun, ?_, fun hall => ?_⟩
      case refine_1 => exact sent_turn [] ▸ hs.append .slnil
      case refine_2 =>
        rw [sent_turn, (ha trivial fun x hx => hall x <| List.mem_append_left _ hx).left]
        rfl
    case false =>
      refine hi.mono fun calls' exitDashboard m' ⟨turns, hn, ht, hs', ha'⟩ =>
        ⟨turns + 1, by omega, fun h => congrArg (· + 1) (ht h), ?_, fun hall => ?_⟩
      case refine_1 => exact sent_turn calls' ▸ hs.append hs'
      case refine_2 =>
        rw [sent_turn, (ha trivial fun x hx => hall x <| List.mem_append_left _ hx).left,
          ha' fun x hx => hall x <| List.mem_append_right _ <| List.mem_append_right _ hx]
        rfl

-- Data of a battery are sent at most once for each time when they are due, whatever goes wrong, and exactly
-- so if nothing does. So each battery is heard of at least every 20 turns, also when the counter wraps.
theorem battery_data_sent_when_due {env : MonitorEnvironment} {w : MonitorWorld} :
    ∃ calls exitDashboard w', runMonitor n i env w = some (exitDashboard, w') ∧
      w'.history = w.history ++ calls ∧ Answered env w.history calls ∧
      ∃ turns ≤ n, (exitDashboard = false → turns = n) ∧
        (sent calls).Sublist (dueIn turns i) ∧
        ((∀ x ∈ calls, Healthy x) → sent calls = dueIn turns i ∧
          (20 ≤ turns → ∀ b, b ∈ sent calls)) := by
  have ⟨calls, exitDashboard, m', hr, hc, turns, hn, ht, hs, ha⟩ :=
    traces_runMonitor (n := n) (i := i) (m := w.memory) env w.history
  refine ⟨calls, exitDashboard, _, hr, rfl, hc, turns, hn, ht, hs, fun h => ⟨ha h, fun hl b => ?_⟩⟩
  rw [ha h]
  exact dueIn_mono mem_dueIn_twenty hl

end RoboOne.Monitor
