import RoboOne.Library.Observer
import RoboOne.Monitor.Turns

namespace RoboOne.Monitor

open Hardware Interaction Interaction.Observer
open BatteryManager (Battery BatteryData BatteryStatus)

-- The message with which a value of the battery is read, answered with the one in the data.
def Field.reading (b : Battery) (d : BatteryData) : Field → (c : MonitorCall) × c.Answer
  | current           => ⟨.readBattCurrent b, some d.current⟩
  | voltage           => ⟨.readBattVoltage b, some d.voltage⟩
  | remainingCapacity => ⟨.readRemainingCapacity b, some d.remainingCapacity⟩
  | chargeDischarge   => ⟨.readBattLifetimeChargeDischarge b, some d.chargeDischarge⟩
  | temperature       => ⟨.readBattTemperature b, some d.temperature⟩

-- The same message, without an answer.
def Field.failure (b : Battery) : Field → (c : MonitorCall) × c.Answer
  | current           => ⟨.readBattCurrent b, none⟩
  | voltage           => ⟨.readBattVoltage b, none⟩
  | remainingCapacity => ⟨.readRemainingCapacity b, none⟩
  | chargeDischarge   => ⟨.readBattLifetimeChargeDischarge b, none⟩
  | temperature       => ⟨.readBattTemperature b, none⟩

-- The data of a battery are the answers to some messages. Current and voltage may be zero instead, if one
-- of them could not be read of some battery.
structure Backed (recent : MonitorHistory) (b : Battery) (d : BatteryData) : Prop where
  remainingCapacity : Field.remainingCapacity.reading b d ∈ recent
  chargeDischarge   : Field.chargeDischarge.reading b d ∈ recent
  temperature       : Field.temperature.reading b d ∈ recent
  power             : (Field.current.reading b d ∈ recent ∨ d.current = 0) ∧
    (Field.voltage.reading b d ∈ recent ∨ d.voltage = 0)
  failure           : Field.current.reading b d ∈ recent ∧ Field.voltage.reading b d ∈ recent ∨
    ∃ b', Field.current.failure b' ∈ recent ∨ Field.voltage.failure b' ∈ recent

-- What has been called since the Task Handler was ticked last, as it is behind each window update. Data are
-- expected to be from there.
def freshness : Observer MonitorCall.Answer MonitorHistory where
  see recent x := if x.fst = .taskHandlerTick then [] else recent ++ [x]
  Expects
    | recent, ⟨.batteryManagerData b d, _⟩ => Backed recent b d
    | _,      _                            => True

-- The values of some fields have been read. The others may be zero.
def Holds (recent : MonitorHistory) (fields : List (Field × Battery)) (bs : Batteries) : Prop :=
  ∀ f b, f.reading b (bs.data b) ∈ recent ∨
    (f, b) ∉ fields ∧ f.reading b (bs.data b) = f.reading b (Batteries.zero.data b)

variable {C : MonitorCall → Prop} {recent recent' : MonitorHistory} {f : Field} {b : Battery}
  {fields fields' : List (Field × Battery)} {bs bs' : Batteries} {batteries : List Battery}
  {w : Window} {backoff count : UInt8} {power capacity lifetime : Batteries → String}

theorem Holds.zero : Holds recent [] .zero :=
  fun _ _ => .inr ⟨List.not_mem_nil, rfl⟩

theorem Holds.mono (h : Holds recent fields bs) (hr : recent ⊆ recent') (hf : fields' ⊆ fields) :
    Holds recent' fields' bs := by
  intro f b
  cases h f b
  case inl h => exact .inl (hr h)
  case inr h => exact .inr ⟨fun hm => h.left (hf hm), h.right⟩

theorem Holds.read (h : Holds recent fields bs) (hf : (f, b) ∈ fields) :
    f.reading b (bs.data b) ∈ recent :=
  (h f b).resolve_right fun hn => hn.left hf

theorem readInto_eq_some {α : Type} {set : α → BatteryData → BatteryData} {a : Option α}
    (h : Step.readInto b set a bs = some bs') :
    ∃ v, a = some v ∧ bs'.data b = set v (bs.data b) ∧ ∀ b' ≠ b, bs'.data b' = bs.data b' := by
  cases a
  case none => cases h
  case some v =>
    obtain rfl := Option.some.inj h
    exact ⟨v, rfl, Function.update_self .., fun b' hb => Function.update_of_ne hb ..⟩

-- What is read is put where it belongs, and nothing else is changed.
theorem Step.put_eq_some {a : (Step.read b f).call.Answer} (h : (Step.read b f).put a bs = some bs') :
    f.reading b (bs'.data b) = ⟨(Step.read b f).call, a⟩ ∧ ∀ f' b', (f', b') ≠ (f, b) →
      f'.reading b' (bs'.data b') = f'.reading b' (bs.data b') := by
  cases f
  all_goals
    dsimp only [read] at a h
    have ⟨v, ha, hd, ho⟩ := readInto_eq_some h
    refine ⟨by subst ha; rw [hd]; rfl, fun f' b' hn => ?_⟩
    by_cases hb : b' = b
    case neg => rw [ho b' hb]
    case pos =>
      subst hb
      cases f'
      all_goals first | exact absurd rfl hn | (rw [hd]; rfl)

theorem Step.put_eq_none {a : (Step.read b f).call.Answer} (h : (Step.read b f).put a bs = none) :
    f.failure b = ⟨(Step.read b f).call, a⟩ := by
  cases f <;> cases a <;> first | rfl | cases h

theorem accepts_read :
    freshness.Accepts recent (ask (Step.read b f).call) fun a recent' =>
      recent' = recent ++ [⟨(Step.read b f).call, a⟩] := by
  refine .call fun a => ⟨?_, if_neg ?_⟩
  case refine_1 => cases f <;> trivial
  case refine_2 => cases f <;> exact MonitorCall.noConfusion

-- What has been read is known to have been read if all messages succeed. Else one of them is seen to fail.
theorem accepts_reads (h : Holds recent fields bs) :
    freshness.Accepts recent (perform (reads fields') bs) fun r recent' =>
      recent ⊆ recent' ∧ Holds recent' fields r.snd ∧
        (r.fst = true → Holds recent' (fields' ++ fields) r.snd) ∧
          (r.fst = false → ∃ x ∈ fields', x.fst.failure x.snd ∈ recent') := by
  induction fields' generalizing recent fields bs
  case nil => exact .pure ⟨fun _ hx => hx, h, fun _ => h, nofun⟩
  case cons x fields' hi =>
    have ⟨f, b⟩ := x
    refine .bind accepts_read fun a recent₁ hr => ?_
    have hs : recent ⊆ recent₁ := hr ▸ List.subset_append_left ..
    have hm : ⟨(Step.read b f).call, a⟩ ∈ recent₁ := hr ▸ List.mem_append_right _ (.head _)
    cases hp : (Step.read b f).put a bs
    case none =>
      refine .pure ⟨hs, h.mono hs fun _ hx => hx, nofun, fun _ => ⟨(f, b), .head _, ?_⟩⟩
      rwa [Step.put_eq_none hp]
    case some bs₁ =>
      have ⟨hv, ho⟩ := Step.put_eq_some hp
      have h₁ : Holds recent₁ ((f, b) :: fields) bs₁ := by
        intro f' b'
        by_cases hn : (f', b') = (f, b)
        case pos =>
          obtain ⟨rfl, rfl⟩ := Prod.mk.inj hn
          exact .inl (hv ▸ hm)
        case neg =>
          rw [ho f' b' hn, List.mem_cons, not_or]
          exact (h f' b').imp (hs ·) fun h => ⟨⟨hn, h.left⟩, h.right⟩
      refine (hi h₁).mono fun r recent' ⟨hs', hh, ht, hf⟩ => ⟨fun _ hx => hs' (hs hx), ?_, ?_, ?_⟩
      case refine_1 => exact hh.mono (fun _ hx => hx) (List.subset_cons_self ..)
      case refine_2 =>
        exact fun hr => (ht hr).mono (fun _ hx => hx) fun y hy => List.perm_middle.symm.subset hy
      case refine_3 =>
        intro hr
        have ⟨y, hy, hm⟩ := hf hr
        exact ⟨y, .tail _ hy, hm⟩

theorem Backed.mono {d : BatteryData} (h : Backed recent b d) (hr : recent ⊆ recent') :
    Backed recent' b d where
  remainingCapacity := hr h.remainingCapacity
  chargeDischarge   := hr h.chargeDischarge
  temperature       := hr h.temperature
  power             := ⟨h.power.left.imp_left (hr ·), h.power.right.imp_left (hr ·)⟩
  failure           := by
    refine h.failure.imp (.imp (hr ·) (hr ·)) fun ⟨b', hb⟩ => ⟨b', hb.imp (hr ·) (hr ·)⟩

theorem current_eq_of_reading_eq {d d' : BatteryData}
    (h : Field.current.reading b d = Field.current.reading b d') : d.current = d'.current := by
  injection h with _ h
  exact Option.some.inj h

theorem voltage_eq_of_reading_eq {d d' : BatteryData}
    (h : Field.voltage.reading b d = Field.voltage.reading b d') : d.voltage = d'.voltage := by
  injection h with _ h
  exact Option.some.inj h

theorem Backed.of_holds (h : Holds recent fields bs)
    (hf : ∀ f ∈ [Field.remainingCapacity, .chargeDischarge, .temperature], (f, b) ∈ fields)
    (hp : (∀ f ∈ [Field.current, .voltage], (f, b) ∈ fields) ∨
      ∃ b', Field.current.failure b' ∈ recent ∨ Field.voltage.failure b' ∈ recent) :
    Backed recent b (bs.data b) where
  remainingCapacity := h.read <| hf _ <| .head _
  chargeDischarge   := h.read <| hf _ <| .tail _ <| .head _
  temperature       := h.read <| hf _ <| .tail _ <| .tail _ <| .head _
  power             := by
    constructor
    case left  => exact (h .current b).imp_right fun hn => current_eq_of_reading_eq hn.right
    case right => exact (h .voltage b).imp_right fun hn => voltage_eq_of_reading_eq hn.right
  failure           := hp.imp_left fun hp =>
    ⟨h.read <| hp _ <| .head _, h.read <| hp _ <| .tail _ <| .head _⟩

theorem accepts_sends (h : ∀ b ∈ batteries, Backed recent b (bs.data b)) :
    freshness.Accepts recent (perform (batteries.map .send) bs) fun _ _ => True := by
  induction batteries generalizing recent bs
  case nil => exact .pure trivial
  case cons b batteries hi =>
    have hb : Backed recent b (bs.data b) := h b (.head _)
    refine .bind (Q := fun _ recent' => recent ⊆ recent')
      (.call fun a => ⟨hb, List.subset_append_left ..⟩) fun a recent' hr => ?_
    cases hp : (Step.send b bs).put a bs
    case none => exact .pure trivial
    case some bs' =>
      refine hi fun b' hm => ?_
      have hd : bs'.data = bs.data := by
        have ⟨status, _, hs⟩ := Option.map_eq_some_iff.mp hp
        exact hs ▸ rfl
      exact hd ▸ (h b' (.tail _ hm)).mono hr

theorem perform_append {xs ys : List (Batteries → Step)} :
    perform (xs ++ ys) bs =
      perform xs bs >>= fun r => if r.fst then perform ys r.snd else return r := by
  induction xs generalizing bs
  case nil => rfl
  case cons step xs hi =>
    rw [List.cons_append, perform, perform, bind_assoc]
    congr 1
    funext a
    cases (step bs).put a bs
    case none    => rfl
    case some bs => exact hi

-- The calls that show something in a window.
def Shows : MonitorCall → Prop
  | .wmove _ _ _ => True
  | .wclrtoeol _ => True
  | .wprintw _ _ => True
  | _            => False

theorem accepts_of_shows {p : MonitorProgram Unit} (h : Makes Shows p) :
    freshness.Accepts recent p fun _ recent' => recent ⊆ recent' := by
  refine accepts_of_relates (I := (recent ⊆ ·)) (h.relates maintains_composes ?_) (fun _ hx => hx)
  refine fun c hc _ _ => maintains_singleton fun recent' hr => ?_
  cases c
  case wmove | wclrtoeol | wprintw => exact ⟨trivial, fun _ hx => List.mem_append_left _ (hr hx)⟩
  all_goals exact hc.elim

theorem expects_of_not_isData {c : MonitorCall} {a : c.Answer} (h : ¬IsData c) :
    freshness.Expects recent ⟨c, a⟩ := by
  cases c
  case batteryManagerData => exact absurd trivial h
  all_goals trivial

theorem accepts_of_plain {α : Type} {p : MonitorProgram α} (h : Makes Plain p) :
    freshness.Accepts recent p fun _ _ => True := by
  refine accepts_of_relates (I := fun _ => True) (h.relates maintains_composes ?_) trivial
  exact fun _ hc _ _ => maintains_singleton fun _ _ => ⟨expects_of_not_isData hc.not_isData, trivial⟩

-- Current and voltage of some batteries have been read, unless that is known to have failed.
def Powered (batteries : List Battery) (recent : MonitorHistory) (bs : Batteries) : Prop :=
  ∃ fields, Holds recent fields bs ∧ ([.current, .voltage] ×ˢ batteries ⊆ fields ∨
    ∃ b, Field.current.failure b ∈ recent ∨ Field.voltage.failure b ∈ recent)

theorem Powered.mono (h : Powered batteries recent bs) (hr : recent ⊆ recent') :
    Powered batteries recent' bs :=
  have ⟨fields, hh, hp⟩ := h
  ⟨fields, hh.mono hr fun _ hx => hx, hp.imp_right fun ⟨b, hb⟩ => ⟨b, hb.imp (hr ·) (hr ·)⟩⟩

theorem accepts_readPower :
    freshness.Accepts recent (perform (reads ([.current, .voltage] ×ˢ batteries)) .zero)
      fun r recent' => Powered batteries recent' r.snd := by
  refine (accepts_reads .zero).mono fun ⟨success, bs⟩ recent' ⟨_, hh, ht, hf⟩ => ?_
  cases success
  case true  => exact ⟨_, ht rfl, .inl <| List.subset_append_left ..⟩
  case false =>
    have ⟨⟨f, b⟩, hx, hm⟩ := hf rfl
    have hc : f = .current ∨ f = .voltage := by simpa using (List.pair_mem_product.mp hx).left
    refine ⟨_, hh, .inr ⟨b, hc.imp ?_ ?_⟩⟩
    case refine_1 => exact fun h => h ▸ hm
    case refine_2 => exact fun h => h ▸ hm

theorem accepts_sendData (h : Powered batteries recent bs) :
    freshness.Accepts recent (perform (reads ([.remainingCapacity, .chargeDischarge, .temperature] ×ˢ
      batteries) ++ batteries.map .send) bs) fun _ _ => True := by
  have ⟨fields, hh, hp⟩ := h
  rw [perform_append]
  refine .bind (accepts_reads hh) fun ⟨success, bs'⟩ recent' ⟨hr, _, ht, _⟩ => ?_
  refine .ite (fun hs => accepts_sends fun b hb => ?_) fun _ => .pure trivial
  refine .of_holds (ht hs) (fun f hf => ?_) (hp.imp ?_ ?_)
  case refine_1 => exact List.mem_append_left _ <| List.pair_mem_product.mpr ⟨hf, hb⟩
  case refine_2 =>
    exact fun hp f hf => List.mem_append_right _ <| hp <| List.pair_mem_product.mpr ⟨hf, hb⟩
  case refine_3 => exact fun ⟨b', hb'⟩ => ⟨b', hb'.imp (hr ·) (hr ·)⟩

theorem accepts_updateBatteryWindow :
    freshness.Accepts recent (updateBatteryWindow w batteries backoff power capacity lifetime count)
      fun _ _ => True := by
  have line {success : Bool} {text : String} : Makes Plain (onlyIf success <| printLine w text) :=
    makes_onlyIf <| makes_printLine trivial trivial
  refine .bind accepts_readPower fun ⟨success, bs⟩ recent₁ hp => ?_
  refine .bind (accepts_of_shows <| makes_ask trivial) fun _ recent₂ h₂ => ?_
  refine .bind (accepts_of_shows <| makes_onlyIf <| makes_printLine trivial trivial)
    fun _ recent₃ h₃ => ?_
  refine .bind (Q := fun _ _ => True) (.ite (fun _ => ?_) fun _ => .pure trivial) fun _ _ _ =>
    accepts_of_plain <| .bind (makes_ask trivial) fun _ => .pure
  refine .bind (accepts_sendData <| (hp.mono h₂).mono h₃) fun ⟨success, bs'⟩ _ _ => ?_
  exact accepts_of_plain <| .bind (makes_ask trivial) fun _ => .bind line fun _ =>
    .bind (makes_ask trivial) fun _ => line

-- Whatever the servers answer, the data that the Battery Manager gets have all been read from its battery
-- since the Task Handler was ticked last, so in the same update of a window.
theorem battery_data_fresh {n : Nat} {i : UInt8} {env : MonitorEnvironment} {w : MonitorWorld} :
    ∃ calls exitDashboard w', runMonitor n i env w = some (exitDashboard, w') ∧
      w'.history = w.history ++ calls ∧ Answered env w.history calls ∧ freshness.Follows [] calls := by
  let fresh : MonitorHistory → Prop := freshness.Maintains fun _ => True
  have batteries {w : Window} {batteries : List Battery} {backoff count : UInt8}
      {power capacity lifetime : Batteries → String} : Relates (fun _ calls _ => fresh calls)
        (updateBatteryWindow w batteries backoff power capacity lifetime count) :=
    relates_of_accepts (g := []) (fun _ _ => accepts_updateBatteryWindow) trivial
  have h : Relates (fun _ calls _ => fresh calls) (runMonitor n i) :=
    runMonitor_relates maintains_composes
      (fun _ hc _ _ => maintains_singleton fun _ _ =>
        ⟨expects_of_not_isData hc.not_isData, trivial⟩)
      (relates_updateMains12V maintains_composes fun _ h _ => maintains_singleton fun _ _ =>
        ⟨expects_of_not_isData h, trivial⟩)
      (fun _ => batteries) fun _ => batteries
  have ⟨calls, exitDashboard, m', hr, ha, hc⟩ := h w.memory env w.history
  exact ⟨calls, exitDashboard, _, hr, rfl, ha, (hc [] trivial).left⟩

end RoboOne.Monitor
