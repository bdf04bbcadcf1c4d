import RoboOne.Timer.Punctuality

namespace RoboOne.Timer

open Transition

-- A stop frees the first timer of the used list that it asks for, which is the one that expires first.
-- All others stay as they are, the ones that it asks for too.
structure StopsFirst (req : TimerStopReq) (s s' : State) (free used free' used' : List Addr) :
    Prop where
  lists     : s'.Lists free' used'
  timer     : ∀ e ∈ used', s'.timer e = s.timer e
  matched   : ∀ e, used.find? (s.Requested req ·) = some e →
    free' = free ++ [e] ∧ used' = used.erase e
  unmatched : used.find? (s.Requested req ·) = none → free' = free ∧ used' = used ∧
    s'.links = s.links ∧ s'.timer = s.timer
  only      : (used.filter (s.Requested req ·)).length ≤ 1 → ∀ e ∈ used', ¬s'.Requested req e

-- The timer that has been freed sends no message from then on. If it was the only one that was asked
-- for, then no other one sends a message either, unless it is started later on.
structure Silenced (req : TimerStopReq) (s : State) (used : List Addr) (s' : State) : Prop where
  stopped : ∀ e, used.find? (s.Requested req ·) = some e → ∀ j x, s.history.length ≤ j →
    s'.history[j]? = some x → ∀ y ∈ x.sent, y.serial ≠ s.serial e
  only    : (used.filter (s.Requested req ·)).length ≤ 1 → ∀ j x, s.history.length ≤ j →
    s'.history[j]? = some x → ∀ y ∈ x.sent, ∀ timer, Started s'.history y.serial timer →
      timer.id = req.id ∧ timer.sourcePort = req.sourcePort → s.history.length < y.serial

variable {s s' : State} {m : Malloc} {t : Timetable} {op : Op} {free used v : List Addr} {x : Nat}
  {req : TimerStopReq} {α : Type*} {c : α → Bool} {l : List α} {a : α}

theorem eraseP_eq_erase [DecidableEq α] (h : l.find? c = some a) : l.eraseP c = l.erase a := by
  have ⟨hc, u, v, hl, hu⟩ := List.find?_eq_some_iff_append.mp h
  have ha : a ∉ u := fun hm => by simpa [hc] using hu a hm
  rw [hl, List.eraseP_append_right _ (by simpa using hu), List.erase_append_right _ ha,
    List.eraseP_cons_of_pos hc, List.erase_cons_head]

theorem eraseP_eq_self (h : l.find? c = none) : l.eraseP c = l :=
  List.eraseP_of_forall_not (by simpa using h)

-- Of one element at most, none is left.
theorem not_of_mem_eraseP (h : (l.filter c).length ≤ 1) (ha : a ∈ l.eraseP c) : ¬c a := by
  induction l
  case nil => cases ha
  case cons b l hi =>
    by_cases hb : c b
    case pos =>
      rw [List.eraseP_cons_of_pos hb] at ha
      rw [List.filter_cons_of_pos hb, List.length_cons] at h
      have hnil : l.filter c = [] :=
        List.eq_nil_of_length_eq_zero (Nat.le_zero.mp (Nat.le_of_succ_le_succ h))
      exact fun hc => by simpa [hc] using List.filter_eq_nil_iff.mp hnil a ha
    case neg =>
      rw [List.eraseP_cons_of_neg hb] at ha
      rw [List.filter_cons_of_neg hb] at h
      rcases List.mem_cons.mp ha with rfl | ha
      case inl => exact hb
      case inr => exact hi h ha

-- Without a timer that is asked for, the loop changes nothing.
theorem stopLoop_eq_self {p : Option Addr} (hs : s.links.Seg p v none)
    (hv : ∀ e ∈ v, ¬s.Requested req e) (hx : v.length ≤ x) : stopLoop req x v.head? s = some s := by
  induction v generalizing p x
  case nil => cases x <;> rfl
  case cons e v hi =>
    cases x
    case zero => contradiction
    case succ x =>
      rw [List.head?_cons, stopLoop, pNextEntry_of_seg hs]
      refine (if_neg (hv e List.mem_cons_self)).trans ?_
      exact hi hs.right.right (fun e' he' => hv e' (List.mem_cons_of_mem _ he'))
        (Nat.le_of_succ_le_succ hx)

theorem actionTimerStop_stopsFirst (h : s.Lists free used) (req : TimerStopReq) :
    ∃ s' free' used', actionTimerStop req s = some s' ∧
      StopsFirst req s s' free used free' used' := by
  have ⟨s', hr, hf, hl, _⟩ := stopLoop_spec (u := []) req h h.length_used
  rw [← h.usedList.head] at hr
  have hd : (used.eraseP (s.Requested req ·)).Disjoint (used.find? (s.Requested req ·)).toList :=
    disjoint_eraseP_find? h.usedList.nodup
  have hkept : ∀ e ∈ used.eraseP (s.Requested req ·), s'.timer e = s.timer e :=
    fun e he => hf.timer e (hd he)
  refine ⟨s', _, _, hr, hl, by rwa [List.nil_append], fun e he => ?_, fun hn => ?_, fun ho e he => ?_⟩
  case refine_1 =>
    rw [he, List.nil_append, eraseP_eq_erase he]
    exact ⟨rfl, rfl⟩
  case refine_2 =>
    have hnone := List.find?_eq_none.mp hn
    have hself := stopLoop_eq_self h.usedList.seg (by simpa using hnone) h.length_used
    rw [← h.usedList.head] at hself
    obtain rfl : s = s' := Option.some.inj <| hself.symm.trans hr
    rw [hn, List.nil_append, eraseP_eq_self hn]
    exact ⟨List.append_nil _, rfl, rfl, rfl⟩
  case refine_3 =>
    rw [List.nil_append] at he
    have hnot : ¬s.Requested req e := by simpa using not_of_mem_eraseP ho he
    rwa [State.Requested, hf.running (hd he)]

theorem step_stopsFirst (h : s.Lists free used) (req : TimerStopReq) :
    ∃ s' free' used', step s (.actionTimerStop req) = some s' ∧
      StopsFirst req s s' free used free' used' := by
  have h₀ : State.Lists { s with sent := [], freed := [] } free used := h.congr rfl rfl rfl
  have ⟨s', free', used', hs', hf⟩ := actionTimerStop_stopsFirst h₀ req
  exact ⟨_, free', used', congrArg (Option.map _) hs', hf.lists.congr rfl rfl rfl, hf.timer,
    hf.matched, hf.unmatched, hf.only⟩

-- No timer with the property is running that has not been started behind operation `n`, nor has one of
-- them sent a message since then.
structure Silent (c : Running → Prop) (n : Nat) (t : Timetable) : Prop extends Dated t where
  behind : n < t.history.length
  later  : ∀ r ∈ t.running, c r → n < r.serial
  sent   : ∀ j x, n ≤ j → t.history[j]? = some x → ∀ y ∈ x.sent, ∃ timer,
    Started t.history y.serial timer ∧ (c ⟨y.serial, timer⟩ → n < y.serial)

section

variable {p : Running → Prop} {n : Nat}

theorem Silent.sent_step (h : Silent p n t) {j : Nat} {x : Record} (hj : n ≤ j)
    (hx : (t.history ++ [t.record op])[j]? = some x) : ∀ y ∈ x.sent, ∃ timer,
      Started (t.history ++ [t.record op]) y.serial timer ∧
        (p ⟨y.serial, timer⟩ → n < y.serial) := by
  intro y hy
  rcases Nat.lt_trichotomy j t.history.length with hl | rfl | hl
  case inl =>
    rw [List.getElem?_append_left hl] at hx
    have ⟨timer, hs, hp⟩ := h.sent j x hj hx y hy
    exact ⟨timer, (started_append_of_lt hs.lt).mpr hs, hp⟩
  case inr.inl =>
    rw [List.getElem?_concat_length] at hx
    obtain rfl := Option.some.inj hx
    obtain ⟨r, hr, rfl⟩ := List.mem_map.mp hy
    have hr := expired_sublist.subset hr
    have hs := h.running r hr
    exact ⟨r.timer, (started_append_of_lt hs.lt).mpr hs, h.later r hr⟩
  case inr.inr => exact absurd hx (getElem?_concat_ne_some hl)

theorem Silent.step (h : Silent p n t) : Silent p n (t.step op) where
  toDated := h.toDated.step
  behind  := by
    have := h.behind
    rw [Timetable.step, List.length_append]
    omega
  later r hr hp := by
    rcases Timetable.mem_runningAfter hr with hr | ⟨_, _, _, _, _, _, _, rfl⟩
    case inl => exact h.later r hr hp
    case inr => exact h.behind
  sent _ _ hj hx := h.sent_step hj hx

theorem silent_preserved : Preserves (fun t op => some (t.step op)) (fun _ _ => True)
    (Silent p n) where
  step h _ hs := Option.some.inj hs ▸ h.step

theorem Silent.foldl (h : Silent p n t) (ops : List Op) :
    Silent p n (ops.foldl Timetable.step t) :=
  silent_preserved.run_all h run_some_eq_foldl

-- The stop itself sends nothing.
theorem Dated.silent_of_stop (h : Dated t)
    (hp : ∀ r ∈ t.running.eraseP (Running.Requested req ·), ¬p r) :
    Silent p t.history.length (t.step (.actionTimerStop req)) where
  toDated := h.step
  behind  := by simp [Timetable.step]
  later r hr hr' := absurd hr' (hp r hr)
  sent j x hj hx y hy := by
    rcases hj.eq_or_lt with rfl | hl
    case inl =>
      rw [Timetable.step, List.getElem?_concat_length] at hx
      obtain rfl := Option.some.inj hx
      cases hy
    case inr => exact absurd hx (getElem?_concat_ne_some hl)

end

theorem Dated.serial_inj (h : Dated t) {r r' : Running} (hr : r ∈ t.running) (hr' : r' ∈ t.running)
    (he : r.serial = r'.serial) : r = r' := by
  have hs := h.running r hr
  rw [he] at hs
  exact Running.ext he (hs.unique (h.running r' hr'))

-- The timer that is stopped is none of those that stay.
theorem Dated.serial_ne_of_stop (h : Dated t) {r r' : Running}
    (hr : t.running.find? (Running.Requested req ·) = some r)
    (hr' : r' ∈ t.running.eraseP (Running.Requested req ·)) : r'.serial ≠ r.serial := by
  intro he
  have hmem := List.mem_of_find?_eq_some hr
  obtain rfl := h.serial_inj (List.mem_of_mem_eraseP hr') hmem he
  exact disjoint_eraseP_find? t.running_nodup hr' (by simp [hr])

-- What is found in the timetable is found in the used list.
theorem Represents.find?_running (h : Represents m s t free used) :
    t.running.find? (Running.Requested req ·) =
      (used.find? (s.Requested req ·)).map s.running := by
  rw [← h.running, List.find?_map]
  rfl

theorem Represents.length_filter_running (h : Represents m s t free used) :
    (t.running.filter (Running.Requested req ·)).length =
      (used.filter (s.Requested req ·)).length := by
  rw [← h.running, List.filter_map, List.length_map]
  rfl

theorem Represents.silenced {s'' : State} {ops : List Op} (h : Represents m s t free used)
    (hd : Dated t)
    (h'' : Refines m s'' (ops.foldl Timetable.step (t.step (.actionTimerStop req)))) :
    Silenced req s used s'' := by
  have hhistory := h''.history_eq
  constructor
  case stopped =>
    intro e he j x hj hx y hy hs
    have hfound : t.running.find? (Running.Requested req ·) = some (s.running e) := by
      rw [h.find?_running, he, Option.map_some]
    have hne (r : Running) (hr : r ∈ t.running.eraseP (Running.Requested req ·)) :
        ¬r.serial = s.serial e :=
      hd.serial_ne_of_stop hfound hr
    have hsilent := (hd.silent_of_stop hne).foldl ops
    rw [h.history] at hj
    rw [hhistory] at hx
    have ⟨timer, _, hn⟩ := hsilent.sent j x hj hx y hy
    have hlt := t.started _ (List.mem_of_find?_eq_some hfound)
    have := hn hs
    rw [hs] at this
    exact Nat.lt_asymm hlt this
  case only =>
    intro ho j x hj hx y hy timer hs hrequested
    rw [← h.length_filter_running] at ho
    have hnot (r : Running) (hr : r ∈ t.running.eraseP (Running.Requested req ·)) :
        ¬r.Requested req := by
      simpa using not_of_mem_eraseP ho hr
    have hsilent := (hd.silent_of_stop hnot).foldl ops
    rw [h.history] at hj ⊢
    rw [hhistory] at hx hs
    have ⟨timer', hs', hn⟩ := hsilent.sent j x hj hx y hy
    obtain rfl := hs.unique hs'
    exact hn hrequested

-- In every state that the server can get into, and whatever comes after the stop.
theorem first_timer_stopped (m : Malloc) (timer : Addr → Timer) (links : Links Addr)
    (ops ops' : List Op) (req : TimerStopReq) :
    ∃ s free used s' free' used' s'', run step (started m timer links) ops = some s ∧
      s.Lists free used ∧ (used.map s.running).Pairwise Running.Sooner ∧
      step s (.actionTimerStop req) = some s' ∧ StopsFirst req s s' free used free' used' ∧
      run step s' ops' = some s'' ∧ Silenced req s used s'' := by
  have ⟨s, hr, _⟩ := run_refines m timer links ops
  have ⟨t, ⟨free, used, h⟩, hd⟩ := (dated_preserved m).run_all
    ⟨.start, started_refines m timer links, dated_start⟩ hr
  have ⟨s', free', used', hs', hf⟩ := step_stopsFirst h.toLists req
  have ⟨_, hm, h'⟩ := step_refines s t (.actionTimerStop req) ⟨free, used, h⟩
  obtain rfl := Option.some.inj <| hs'.symm.trans hm
  have ⟨s'', hr'', h''⟩ := run_simulates step_refines h' ops'
  refine ⟨s, free, used, s', free', used', s'', hr, h.toLists, ?_, hs', hf, hr'', h.silenced hd h''⟩
  exact h.running ▸ t.sorted

-- Two timers are started with the same id.
def twinRun : List Op :=
  [.allocTimer 10 5232 1 someMsg .zero, .allocTimer 20 5232 1 someMsg .zero]

-- One of them is still running behind the stop.
theorem twin_timer_not_stopped :
    ¬∀ (m : Malloc) (timer : Addr → Timer) (links : Links Addr) (ops : List Op) (req : TimerStopReq)
      (s s' : State), run step (started m timer links) ops = some s →
      actionTimerStop req s = some s' →
      ∀ e ∈ usedEntries s' maxNumTimers s'.pgUsedTimerListHead, ¬s'.Requested req e := by
  intro h
  have ⟨s, hr, s', hs', e, he, hrequested⟩ : ∃ s ∈ run step someState twinRun,
      ∃ s' ∈ actionTimerStop ⟨1, 5232⟩ s,
        ∃ e ∈ usedEntries s' maxNumTimers s'.pgUsedTimerListHead, s'.Requested ⟨1, 5232⟩ e :=
    ⟨_, rfl, _, rfl, by decide⟩
  exact h someMalloc _ _ twinRun ⟨1, 5232⟩ s s' hr hs' e he hrequested

end RoboOne.Timer
