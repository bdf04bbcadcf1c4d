import RoboOne.Timer.Delivery

namespace RoboOne.Timer

open Transition

def Op.isTick : Op → Bool
  | .tickHandlerCallback _ => true
  | _                      => false

-- The number of ticks behind operation `k`.
def ticksSince (history : List Record) (k : Nat) : Nat :=
  (history.drop (k + 1)).countP (·.op.isTick)

-- Operation `k` started a timer, and there have been as many ticks since then as its period says.
def PeriodOver (history : List Record) (k : Nat) : Prop :=
  ∃ r period port id msg beyond, history[k]? = some r ∧
    r.op = .allocTimer period port id msg beyond ∧ period.toNat ≤ ticksSince history k

-- No message has been sent before the period of its timer was over.
def Punctual (history : List Record) : Prop :=
  ∀ j r, history[j]? = some r → ∀ x ∈ r.sent, PeriodOver (history.take (j + 1)) x.serial

-- If the expiry time of the timer that operation `k` started has wrapped, then the tick counter will
-- have done so too behind the next tick.
def WrapsToo (history : List Record) (k : Nat) : Prop :=
  ∀ r ∈ history[k]?, ∀ period port id msg beyond, r.op = .allocTimer period port id msg beyond →
    2 ^ 32 ≤ r.now.toNat + period.toNat → 2 ^ 32 ≤ r.now.toNat + (ticksSince history k + 1)

-- This is the case with all timers that are running, whenever a tick gets the lock.
def InTime (s : State) : Op → Prop
  | .tickHandlerCallback true =>
    ∀ e ∈ usedEntries s maxNumTimers s.pgUsedTimerListHead, WrapsToo s.history (s.serial e)
  | _                         => True

variable {t : Timetable} {op : Op} {history : List Record} {k : Nat} {r : Running} {x : Record}

-- A timer that has expired by the tick counter has run for its period, unless its expiry time has
-- wrapped and the counter has not.
theorem period_le_iff {start period ticks : Nat} (hs : start < 2 ^ 32) (hp : period < 2 ^ 32) :
    ((start + period) % 2 ^ 32 ≤ (start + ticks) % 2 ^ 32 → period ≤ ticks) ↔
      (2 ^ 32 ≤ start + period → 2 ^ 32 ≤ start + ticks) := by
  constructor
  case mp =>
    intro h hw
    by_contra hn
    have hlt : start + ticks < 2 ^ 32 := Nat.lt_of_not_le hn
    have hle : (start + period) % 2 ^ 32 ≤ (start + ticks) % 2 ^ 32 := by
      rw [Nat.mod_eq_of_lt hlt]
      omega
    have := h hle
    omega
  case mpr =>
    intro h hle
    by_contra hn
    by_cases hw : 2 ^ 32 ≤ start + period
    case pos =>
      have := h hw
      omega
    case neg =>
      have hlt : start + period < 2 ^ 32 := Nat.lt_of_not_le hw
      rw [Nat.mod_eq_of_lt hlt, Nat.mod_eq_of_lt (by omega)] at hle
      omega

theorem ticksSince_concat (hk : k < history.length) :
    ticksSince (history ++ [x]) k = ticksSince history k + if x.op.isTick then 1 else 0 := by
  rw [ticksSince, List.drop_append_of_le_length hk, List.countP_append, List.countP_singleton,
    ticksSince]

theorem ticksSince_last : ticksSince (history ++ [x]) history.length = 0 := by
  rw [ticksSince, List.drop_eq_nil_of_le (by simp), List.countP_nil]

theorem Timetable.toNat_nowAfter :
    (t.nowAfter op).toNat = (t.now.toNat + if op.isTick then 1 else 0) % 2 ^ 32 := by
  have hlt : t.now.toNat < 2 ^ 32 := t.now.toNat_lt
  cases op
  case tickHandlerCallback => exact UInt32.toNat_add _ _
  all_goals exact (Nat.mod_eq_of_lt hlt).symm

-- The history tells when the timers that are running were started, and what the tick counter is.
structure Dated (t : Timetable) : Prop where
  running : ∀ r ∈ t.running, Started t.history r.serial r.timer
  clock   : ∀ k x, t.history[k]? = some x →
    t.now.toNat = (x.now.toNat + ticksSince t.history k) % 2 ^ 32

theorem Dated.running_step (h : Dated t) (hr : r ∈ t.runningAfter op) :
    Started (t.history ++ [t.record op]) r.serial r.timer := by
  rcases Timetable.mem_runningAfter hr with hr | ⟨_, _, _, _, _, hop, _, rfl⟩
  case inl => exact (started_append_of_lt (t.started r hr)).mpr (h.running r hr)
  case inr => exact started_record_iff.mpr ⟨_, _, _, _, _, hop, rfl⟩

theorem Dated.clock_step (h : Dated t) (hx : (t.history ++ [t.record op])[k]? = some x) :
    (t.nowAfter op).toNat =
      (x.now.toNat + ticksSince (t.history ++ [t.record op]) k) % 2 ^ 32 := by
  rcases Nat.lt_trichotomy k t.history.length with hk | rfl | hk
  case inl =>
    rw [List.getElem?_append_left hk] at hx
    rw [ticksSince_concat hk, Timetable.toNat_nowAfter, h.clock k x hx, Nat.mod_add_mod,
      Nat.add_assoc]
    rfl
  case inr.inl =>
    rw [List.getElem?_concat_length] at hx
    obtain rfl := Option.some.inj hx
    rw [ticksSince_last, Nat.add_zero]
    exact (Nat.mod_eq_of_lt (t.nowAfter op).toNat_lt).symm
  case inr.inr => exact absurd hx (getElem?_concat_ne_some hk)

theorem Dated.step (h : Dated t) : Dated (t.step op) where
  running _ hr   := h.running_step hr
  clock _ _ hx := h.clock_step hx

theorem dated_start : Dated .start where
  running := by simp [Timetable.start]
  clock   := by simp [Timetable.start]

section

variable {period : UInt32} {port : Int32} {id : UInt8} {msg : Messaging.ShortMsg}
  {beyond : Messaging.Beyond}

-- Only one timer is started by an operation.
theorem periodOver_iff (hx : history[k]? = some x)
    (hop : x.op = .allocTimer period port id msg beyond) :
    PeriodOver history k ↔ period.toNat ≤ ticksSince history k := by
  constructor
  case mp =>
    rintro ⟨_, _, _, _, _, _, hx', hop', hle⟩
    obtain rfl := Option.some.inj <| hx.symm.trans hx'
    cases hop.symm.trans hop'
    exact hle
  case mpr => exact fun hle => ⟨x, period, port, id, msg, beyond, hx, hop, hle⟩

theorem wrapsToo_iff (hx : history[k]? = some x)
    (hop : x.op = .allocTimer period port id msg beyond) : WrapsToo history k ↔
      (2 ^ 32 ≤ x.now.toNat + period.toNat →
        2 ^ 32 ≤ x.now.toNat + (ticksSince history k + 1)) := by
  constructor
  case mp  => exact fun hw => hw x hx period port id msg beyond hop
  case mpr =>
    intro hw x' hx' period' _ _ _ _ hop'
    obtain rfl := Option.some.inj <| hx.symm.trans hx'
    cases hop.symm.trans hop'
    exact hw

end

-- Whether the timer lets the next tick send its message too early.
theorem Dated.periodOver_iff (h : Dated t) (hr : r ∈ t.running) (hop : op.isTick) :
    (Running.Expired (t.now + 1) r → PeriodOver (t.history ++ [t.record op]) r.serial) ↔
      WrapsToo t.history r.serial := by
  have hk := t.started r hr
  have ⟨x, period, port, id, msg, beyond, hx, hxop, htimer⟩ := h.running r hr
  have hts : ticksSince (t.history ++ [t.record op]) r.serial = ticksSince t.history r.serial + 1 :=
    (ticksSince_concat hk).trans <| by rw [if_pos (by exact hop)]
  have hexp : Running.Expired (t.now + 1) r ↔ (x.now.toNat + period.toNat) % 2 ^ 32 ≤
      (x.now.toNat + (ticksSince t.history r.serial + 1)) % 2 ^ 32 := by
    rw [Running.Expired, htimer, UInt32.le_iff_toNat_le, UInt32.toNat_add, UInt32.toNat_add,
      h.clock _ x hx, Nat.mod_add_mod, Nat.add_assoc]
    rfl
  rw [Timer.periodOver_iff ((List.getElem?_append_left hk).trans hx) hxop, hts,
    wrapsToo_iff hx hxop, hexp]
  exact period_le_iff x.now.toNat_lt period.toNat_lt

theorem punctual_concat : Punctual (history ++ [x]) ↔
    Punctual history ∧ ∀ y ∈ x.sent, PeriodOver (history ++ [x]) y.serial := by
  constructor
  case mp =>
    intro h
    refine ⟨fun j r hr y hy => ?_, fun y hy => ?_⟩
    case refine_1 =>
      have hj := (List.getElem?_eq_some_iff.mp hr).fst
      have hp := h j r (by rwa [List.getElem?_append_left hj]) y hy
      rwa [List.take_append_of_le_length hj] at hp
    case refine_2 =>
      have hp := h history.length x List.getElem?_concat_length y hy
      rwa [List.take_of_length_le (by simp)] at hp
  case mpr =>
    intro ⟨h, hx⟩ j r hr y hy
    rcases Nat.lt_trichotomy j history.length with hj | rfl | hj
    case inl =>
      rw [List.getElem?_append_left hj] at hr
      rw [List.take_append_of_le_length hj]
      exact h j r hr y hy
    case inr.inl =>
      rw [List.getElem?_concat_length] at hr
      obtain rfl := Option.some.inj hr
      rw [List.take_of_length_le (by simp)]
      exact hx y hy
    case inr.inr => exact absurd hr (getElem?_concat_ne_some hj)

def Timetable.InTime (t : Timetable) : Op → Prop
  | .tickHandlerCallback true => ∀ r ∈ t.running, WrapsToo t.history r.serial
  | _                         => True

theorem Dated.punctual_step_iff (h : Dated t) (hp : Punctual t.history) :
    t.InTime op ↔ Punctual (t.step op).history := by
  rw [Timetable.step, punctual_concat, and_iff_right hp]
  cases op
  case tickHandlerCallback trylock =>
    cases trylock
    case false => simp [Timetable.InTime, Timetable.record, Timetable.expired]
    case true =>
      rw [Timetable.InTime, Timetable.record, Timetable.expired, List.forall_mem_map]
      simp only [List.mem_filter, decide_eq_true_eq, and_imp]
      exact forall₂_congr fun _ hr => (h.periodOver_iff hr rfl).symm
  all_goals simp [Timetable.InTime, Timetable.record, Timetable.expired]

theorem Refines.inTime_iff {m : Malloc} {s : State} (h : Refines m s t) :
    InTime s op ↔ t.InTime op := by
  have ⟨free, used, h⟩ := h
  cases op
  case tickHandlerCallback trylock =>
    cases trylock
    case false => exact Iff.rfl
    case true =>
      rw [InTime, Timetable.InTime, h.usedList.head, usedEntries_eq h.usedList.seg h.length_used,
        h.history, ← h.running, List.forall_mem_map]
      rfl
  all_goals exact Iff.rfl

theorem Refines.history_eq {m : Malloc} {s : State} (h : Refines m s t) : s.history = t.history := by
  have ⟨_, _, h⟩ := h
  exact h.history

theorem dated_preserved (m : Malloc) : Preserves step (fun _ _ => True)
    fun s => ∃ t, Refines m s t ∧ Dated t where
  step {s op s'} := by
    intro ⟨t, hr, hd⟩ _ hs
    have ⟨_, hs', hr⟩ := step_refines s t op hr
    obtain rfl := Option.some.inj <| hs'.symm.trans hs
    exact ⟨t.step op, hr, hd.step⟩

-- The periods of all timers are over when their messages are sent, if and only if no tick gets the
-- lock while a timer is running whose expiry time has wrapped and the counter has not.
theorem timers_punctual_iff (m : Malloc) (timer : Addr → Timer) (links : Links Addr)
    (ops : List Op) : ∃ s, run step (started m timer links) ops = some s ∧
      (Punctual s.history ↔ Along step InTime (started m timer links) ops) := by
  obtain ⟨s, hr, _⟩ := run_refines m timer links ops
  refine ⟨s, hr, ?_⟩
  have hstart := started_refines m timer links
  have hp : Punctual (started m timer links).history := by
    rw [hstart.history_eq]
    simp [Timetable.start, Punctual]
  have hd : ∃ t, Refines m (started m timer links) t ∧ Dated t := ⟨.start, hstart, dated_start⟩
  have hlost (s : State) (op : Op) (s' : State) (h : ∃ t, Refines m s t ∧ Dated t)
      (hs : step s op = some s') (hp : Punctual s'.history) : Punctual s.history := by
    obtain ⟨t, h, _⟩ := h
    obtain ⟨m', hm', hr'⟩ := step_refines s t op h
    obtain rfl := Option.some.inj <| hm'.symm.trans hs
    rw [hr'.history_eq] at hp
    exact h.history_eq ▸ (punctual_concat.mp hp).left
  rw [← (dated_preserved m).throughout_iff_of_run (J := (Punctual ·.history)) hd hr hlost]
  refine (dated_preserved m).throughout_iff_along hd hp fun s op hd hp => ?_
  obtain ⟨t, hs, hd⟩ := hd
  obtain ⟨s', hs', hr'⟩ := step_refines s t op hs
  rw [hs.inTime_iff, hd.punctual_step_iff (hs.history_eq ▸ hp), hs', ← hr'.history_eq]
  simp

-- The longest period there is. The timer is started behind the first tick, and the second one sends its
-- message.
def longRun : List Op :=
  [.tickHandlerCallback true, .allocTimer 4294967295 5232 1 someMsg .zero, .tickHandlerCallback true]

theorem timers_not_punctual : ¬∀ (m : Malloc) (timer : Addr → Timer) (links : Links Addr)
    (ops : List Op) (s : State), run step (started m timer links) ops = some s →
      Punctual s.history := by
  intro h
  have ⟨s, hr, hs, ht, r, hj, x, hx, hk⟩ : ∃ s ∈ run step someState longRun,
      s.history[1]?.map (·.op) = longRun[1]? ∧ ticksSince (s.history.take 3) 1 = 1 ∧
        ∃ r, s.history[2]? = some r ∧ ∃ x ∈ r.sent, x.serial = 1 :=
    ⟨_, rfl, rfl, rfl, _, rfl, by decide⟩
  have hp : PeriodOver (s.history.take 3) 1 := hk ▸ h someMalloc _ _ longRun s hr 2 r hj x hx
  have ⟨r₀, period, port, id, msg, beyond, hr₀, hop, hle⟩ := hp
  rw [List.getElem?_take_of_lt (by decide)] at hr₀
  rw [hr₀, Option.map_some, hop] at hs
  cases hs
  rw [ht] at hle
  exact absurd hle (by decide)

end RoboOne.Timer
