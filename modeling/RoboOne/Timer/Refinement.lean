import RoboOne.Library.Transition
import RoboOne.Timer.Lists

namespace RoboOne.Timer

open Transition

variable {s s' : State} {w : Addr} {x : Nat} {gone free used u v : List Addr} {m : Malloc}
  {t : Timetable} {op : Op}

-- The timers in some entries are freed, one after the other.
structure FreedAll (gone : List Addr) (s s' : State) : Prop where
  now     : s'.gTimerTickDeciSeconds = s.gTimerTickDeciSeconds
  history : s'.history = s.history
  serial  : s'.serial = s.serial
  timer   : ∀ e, e ∉ gone → s'.timer e = s.timer e
  freed   : s'.freed = s.freed ++ gone.map s.serial

theorem FreedAll.nil : FreedAll [] s s :=
  ⟨rfl, rfl, rfl, fun _ _ => rfl, by simp⟩

theorem Freed.freedAll (h : Freed w s s') : FreedAll [w] s s' where
  now       := h.now
  history   := h.history
  serial    := h.serial
  timer e he := by
    rw [h.timer]
    exact Function.update_of_ne (by simpa using he) _ _
  freed     := h.freed

theorem FreedAll.trans {gone' : List Addr} {s'' : State} (h : FreedAll gone s s')
    (h' : FreedAll gone' s' s'') : FreedAll (gone ++ gone') s s'' where
  now       := h'.now.trans h.now
  history   := h'.history.trans h.history
  serial    := h'.serial.trans h.serial
  timer e he := by
    rw [List.mem_append, not_or] at he
    exact (h'.timer e he.right).trans (h.timer e he.left)
  freed     := by rw [h'.freed, h.freed, h.serial, List.map_append, List.append_assoc]

theorem FreedAll.running (h : FreedAll gone s s') {e : Addr} (he : e ∉ gone) :
    s'.running e = s.running e := by
  rw [State.running, State.running, h.serial, h.timer e he]

theorem FreedAll.map_running {l : List Addr} (h : FreedAll gone s s') (hd : l.Disjoint gone) :
    l.map s'.running = l.map s.running :=
  List.map_congr_left fun _ he => h.running fun hg => hd he hg

-- The timer in an entry has expired.
def State.Expired (s : State) (e : Addr) : Prop :=
  (s.running e).Expired s.gTimerTickDeciSeconds

instance (s : State) : DecidablePred s.Expired :=
  fun _ => inferInstanceAs (Decidable (Running.Expired _ _))

theorem FreedAll.expired_iff (h : FreedAll gone s s') {e : Addr} (he : e ∉ gone) :
    s'.Expired e ↔ s.Expired e := by
  rw [State.Expired, State.Expired, h.running he, h.now]

theorem FreedAll.filter_expired {l : List Addr} (h : FreedAll gone s s') (hd : l.Disjoint gone) :
    l.filter (s'.Expired ·) = l.filter (s.Expired ·) :=
  List.filter_congr fun _ he => decide_eq_decide.mpr <| h.expired_iff fun hg => hd he hg

theorem FreedAll.filter_not_expired {l : List Addr} (h : FreedAll gone s s')
    (hd : l.Disjoint gone) : l.filter (¬s'.Expired ·) = l.filter (¬s.Expired ·) :=
  List.filter_congr fun _ he =>
    decide_eq_decide.mpr <| not_congr <| h.expired_iff fun hg => hd he hg

-- The timers of the used list that have expired send their messages and are freed.
theorem tickLoop_spec (h : s.Lists free (u ++ v)) (hx : v.length ≤ x) :
    ∃ s', tickLoop x v.head? s = some s' ∧ FreedAll (v.filter (s.Expired ·)) s s' ∧
      s'.Lists (free ++ v.filter (s.Expired ·)) (u ++ v.filter (¬s.Expired ·)) ∧
      s'.sent = s.sent ++ (v.filter (s.Expired ·)).map fun e => (s.running e).sent := by
  induction v generalizing s free u x
  case nil => exact ⟨s, by cases x <;> rfl, .nil, by simpa using h, by simp⟩
  case cons e v hi =>
    cases x
    case zero => contradiction
    case succ x =>
      have hs := (Links.seg_append.mp h.usedList.seg).right
      have hn : s.pNextEntry e = v.head? := pNextEntry_of_seg hs
      have hx := Nat.le_of_succ_le_succ hx
      by_cases he : s.Expired e
      case neg =>
        have hl : s.Lists free ((u ++ [e]) ++ v) := by simpa using h
        have ⟨s', hr, hf, hl, hsent⟩ := hi hl hx
        rw [List.append_assoc, List.singleton_append] at hl
        rw [List.head?_cons, tickLoop, hn, List.filter_cons_of_neg (by simpa using he),
          List.filter_cons_of_pos (by simpa using he)]
        exact ⟨s', (if_neg he).trans hr, hf, hl, hsent⟩
      case pos =>
        have h' : (sendTimerExpiryMsg e s).Lists free (u ++ e :: v) := h.congr rfl rfl rfl
        have ⟨s₁, hs₁, hf₁, hl₁⟩ := freeTimerUnprotected_spec h'
        have ⟨s', hr, hf, hl, hsent⟩ := hi hl₁ hx
        have hev : e ∉ v := (Links.nodup_middle h.usedList.nodup).right.right.right.left
        have hd : v.Disjoint [e] := by simpa using hev
        have hf₁' : FreedAll [e] s s₁ :=
          have hf := hf₁.freedAll
          ⟨hf.now, hf.history, hf.serial, hf.timer, hf.freed⟩
        have hsent₁ : s₁.sent = s.sent ++ [(s.running e).sent] := hf₁.sent
        have hmap : (v.filter (s.Expired ·)).map s₁.running =
            (v.filter (s.Expired ·)).map s.running :=
          hf₁'.map_running fun a ha => hd (List.mem_of_mem_filter ha)
        rw [hf₁'.filter_expired hd] at hf hl hsent
        rw [hf₁'.filter_not_expired hd] at hl
        rw [List.append_assoc, List.singleton_append] at hl
        rw [List.head?_cons, tickLoop, hn, List.filter_cons_of_pos (by simpa using he),
          List.filter_cons_of_neg (by simpa using he)]
        refine ⟨s', (if_pos he).trans ?_, hf₁'.trans hf, hl, ?_⟩
        case refine_1 =>
          have hn' : (sendTimerExpiryMsg e s).pNextEntry e = v.head? := hn
          simp only [hn', hs₁, Option.bind_some, hr]
        case refine_2 =>
          have hmap := congrArg (List.map Running.sent) hmap
          simp only [List.map_map, Function.comp_def] at hmap
          rw [hsent, hsent₁, hmap, List.map_cons, List.append_assoc, List.singleton_append]

-- A stop request asks for the timer in an entry.
def State.Requested (s : State) (req : TimerStopReq) (e : Addr) : Prop :=
  (s.running e).Requested req

instance (s : State) (req : TimerStopReq) : DecidablePred (s.Requested req) :=
  fun _ => inferInstanceAs (Decidable (Running.Requested _ _))

-- The first timer of the used list that is asked for is freed.
theorem stopLoop_spec (req : TimerStopReq) (h : s.Lists free (u ++ v)) (hx : v.length ≤ x) :
    ∃ s', stopLoop req x v.head? s = some s' ∧
      FreedAll (v.find? (s.Requested req ·)).toList s s' ∧
      s'.Lists (free ++ (v.find? (s.Requested req ·)).toList)
        (u ++ v.eraseP (s.Requested req ·)) ∧
      s'.sent = s.sent := by
  induction v generalizing u x
  case nil => exact ⟨s, by cases x <;> rfl, .nil, by simpa using h, rfl⟩
  case cons e v hi =>
    cases x
    case zero => contradiction
    case succ x =>
      have hs := (Links.seg_append.mp h.usedList.seg).right
      have hn : s.pNextEntry e = v.head? := pNextEntry_of_seg hs
      have hx := Nat.le_of_succ_le_succ hx
      by_cases he : s.Requested req e
      case neg =>
        have hl : s.Lists free ((u ++ [e]) ++ v) := by simpa using h
        have ⟨s', hr, hf, hl, hsent⟩ := hi hl hx
        rw [List.append_assoc, List.singleton_append] at hl
        rw [List.head?_cons, stopLoop, hn, List.find?_cons_of_neg (by simpa using he),
          List.eraseP_cons_of_neg (by simpa using he)]
        exact ⟨s', (if_neg he).trans hr, hf, hl, hsent⟩
      case pos =>
        have ⟨s₁, hs₁, hf₁, hl₁⟩ := freeTimerUnprotected_spec h
        rw [List.head?_cons, stopLoop, List.find?_cons_of_pos (by simpa using he),
          List.eraseP_cons_of_pos (by simpa using he)]
        exact ⟨s₁, (if_pos he).trans hs₁, hf₁.freedAll, hl₁, hf₁.sent⟩

-- All timers of the used list are freed.
theorem freeAllLoop_spec (h : s.Lists free v) (hx : v.length ≤ x) :
    ∃ s', freeAllLoop x v.head? s = some s' ∧ FreedAll v s s' ∧ s'.Lists (free ++ v) [] ∧
      s'.sent = s.sent := by
  induction v generalizing s free x
  case nil => exact ⟨s, by cases x <;> rfl, .nil, by simpa using h, rfl⟩
  case cons e v hi =>
    cases x
    case zero => contradiction
    case succ x =>
      have hn : s.pNextEntry e = v.head? := pNextEntry_of_seg h.usedList.seg
      have ⟨s₁, hs₁, hf₁, hl₁⟩ := freeTimerUnprotected_spec (u := []) h
      have ⟨s', hr, hf, hl, hsent⟩ := hi hl₁ (Nat.le_of_succ_le_succ hx)
      rw [List.append_assoc, List.singleton_append] at hl
      refine ⟨s', ?_, hf₁.freedAll.trans hf, hl, hsent.trans hf₁.sent⟩
      simp only [List.head?_cons, freeAllLoop, hs₁, hn, Option.bind_some, hr]

-- The state represents the timetable: its used list holds the timers that are running, in their order.
-- The two lists together are made of the entries that were allocated at the start.
structure Represents (m : Malloc) (s : State) (t : Timetable) (free used : List Addr) : Prop
    extends s.Lists free used where
  entries : (free ++ used).Perm m.entries
  running : used.map s.running = t.running
  now     : s.gTimerTickDeciSeconds = t.now
  history : s.history = t.history

-- The operation has done what the timetable says, and the record of it has not been written yet.
structure Done (m : Malloc) (t : Timetable) (op : Op) (s' : State) (free used : List Addr) : Prop
    extends s'.Lists free used where
  entries : (free ++ used).Perm m.entries
  running : used.map s'.running = t.runningAfter op
  now     : s'.gTimerTickDeciSeconds = t.nowAfter op
  history : s'.history = t.history
  sent    : s'.sent = (t.record op).sent
  freed   : s'.freed = (t.record op).freed

-- Taking some entries out of the used list and putting them on the free list keeps the entries.
theorem entries_perm {c : Addr → Bool} (h : (free ++ used).Perm m.entries) :
    (free ++ used.filter c ++ used.filter (!c ·)).Perm m.entries := by
  rw [List.append_assoc]
  exact ((List.filter_append_perm c used).append_left free).trans h

theorem tickHandlerCallback_done {trylock : Bool} (h : Represents m s t free used) (hs : s.sent = [])
    (hf : s.freed = []) : ∃ s' free used, tickHandlerCallback trylock s = some s' ∧
      Done m t (.tickHandlerCallback trylock) s' free used := by
  cases trylock
  case false =>
    exact ⟨_, free, used, rfl, h.toLists.congr rfl rfl rfl, h.entries, h.running,
      congrArg (· + 1) h.now, h.history, hs, hf⟩
  case true =>
    let s₁ := { s with gTimerTickDeciSeconds := s.gTimerTickDeciSeconds + 1 }
    have hnow : s₁.gTimerTickDeciSeconds = t.now + 1 := congrArg (· + 1) h.now
    have h₁ : s₁.Lists free ([] ++ used) := h.toLists.congr rfl rfl rfl
    have ⟨s', hr, hfr, hl, hsent⟩ := tickLoop_spec h₁ h.length_used
    have hexp : t.expired (.tickHandlerCallback true) =
        (used.filter (s₁.Expired ·)).map s.running := by
      rw [Timetable.expired, ← h.running, List.filter_map, ← hnow]
      rfl
    have hrun : t.runningAfter (.tickHandlerCallback true) =
        (used.filter (¬s₁.Expired ·)).map s.running := by
      rw [Timetable.runningAfter, if_pos rfl, ← h.running, List.filter_map, ← hnow]
      rfl
    have hd : (used.filter (¬s₁.Expired ·)).Disjoint (used.filter (s₁.Expired ·)) := by
      intro e he he'
      simp only [List.mem_filter, decide_eq_true_eq] at he he'
      exact he.right he'.right
    refine ⟨s', _, _, ?_, hl, ?_, ?_, hfr.now.trans hnow, hfr.history.trans h.history, ?_, ?_⟩
    case refine_1 =>
      have hh : s₁.pgUsedTimerListHead = used.head? := h.usedList.head
      rw [← hh] at hr
      exact hr
    case refine_2 => simpa using entries_perm (c := (s₁.Expired ·)) h.entries
    case refine_3 => rw [List.nil_append, hrun]; exact hfr.map_running hd
    case refine_4 =>
      rw [hsent, Timetable.record, hexp, List.map_map]
      exact congrArg (· ++ _) hs
    case refine_5 =>
      simp only [hfr.freed, Timetable.record, hexp, Timetable.cancelled, List.append_nil,
        List.map_map]
      exact congrArg (· ++ _) hf

theorem find?_toList_perm {α : Type*} {c : α → Bool} {l : List α} :
    ((l.find? c).toList ++ l.eraseP c).Perm l := by
  induction l
  case nil => exact .nil
  case cons a l hi =>
    cases hc : c a
    case true  => simp [hc]
    case false =>
      rw [List.find?_cons_of_neg (by simpa using hc), List.eraseP_cons_of_neg (by simpa using hc)]
      exact List.perm_middle.trans (hi.cons a)

-- The element that is found is none of the others.
theorem disjoint_eraseP_find? {α : Type*} {c : α → Bool} {l : List α} (h : l.Nodup) :
    (l.eraseP c).Disjoint (l.find? c).toList := by
  have hn := (find?_toList_perm (c := c)).nodup_iff.mpr h
  exact fun _ ha ha' => (List.nodup_append'.mp hn).right.right ha' ha

theorem actionTimerStop_done {req : TimerStopReq} (h : Represents m s t free used)
    (hs : s.sent = []) (hf : s.freed = []) : ∃ s' free used, actionTimerStop req s = some s' ∧
      Done m t (.actionTimerStop req) s' free used := by
  have ⟨s', hr, hfr, hl, hsent⟩ := stopLoop_spec (u := []) req h.toLists h.length_used
  have hcancel : t.cancelled (.actionTimerStop req) =
      (used.find? (s.Requested req ·)).toList.map s.running := by
    rw [Timetable.cancelled, ← h.running, List.find?_map]
    exact Option.toList_map
  have hrun : t.runningAfter (.actionTimerStop req) =
      (used.eraseP (s.Requested req ·)).map s.running := by
    rw [Timetable.runningAfter, ← h.running, List.eraseP_map]
    rfl
  have hp := find?_toList_perm (c := (s.Requested req ·)) (l := used)
  have hd : (used.eraseP (s.Requested req ·)).Disjoint (used.find? (s.Requested req ·)).toList :=
    disjoint_eraseP_find? h.usedList.nodup
  refine ⟨s', _, _, ?_, hl, ?_, ?_, hfr.now.trans h.now, hfr.history.trans h.history, ?_, ?_⟩
  case refine_1 => rw [actionTimerStop, h.usedList.head]; exact hr
  case refine_2 =>
    rw [List.nil_append, List.append_assoc]
    exact (hp.append_left free).trans h.entries
  case refine_3 => rw [List.nil_append, hrun]; exact hfr.map_running hd
  case refine_4 => exact hsent.trans hs
  case refine_5 =>
    simp only [hfr.freed, Timetable.record, hcancel, Timetable.expired, List.nil_append,
      List.map_map]
    exact congrArg (· ++ _) hf

theorem freeAllTimers_done (h : Represents m s t free used) (hs : s.sent = []) (hf : s.freed = []) :
    ∃ s' free used, freeAllTimers s = some s' ∧ Done m t .freeAllTimers s' free used := by
  have ⟨s', hr, hfr, hl, hsent⟩ := freeAllLoop_spec h.toLists h.length_used
  have hh : s'.pgUsedTimerListHead = none := hl.usedList.head
  refine ⟨s', _, _, ?_, hl, ?_, rfl, hfr.now.trans h.now, hfr.history.trans h.history, ?_, ?_⟩
  case refine_1 =>
    rw [freeAllTimers, h.usedList.head, hr, Option.map_some, ← hh]
  case refine_2 => simpa using h.entries
  case refine_3 => exact hsent.trans hs
  case refine_4 =>
    simp only [hfr.freed, Timetable.record, Timetable.cancelled, Timetable.expired,
      List.nil_append, ← h.running, List.map_map]
    exact congrArg (· ++ _) hf

section

variable (period : UInt32) (port : Int32) (id : UInt8) (msg : Messaging.ShortMsg)
  (beyond : Messaging.Beyond)

-- If no entry is free, nothing happens.
theorem allocTimer_done_of_nil (h : Represents m s t [] used) (hs : s.sent = [])
    (hf : s.freed = []) : allocTimer period port id msg beyond s = some (none, s) ∧
      Done m t (.allocTimer period port id msg beyond) s [] used := by
  have hl : ¬t.running.length < maxNumTimers := by
    have := h.length
    rw [← h.running, List.length_map]
    simp only [List.length_nil] at this
    omega
  refine ⟨by rw [allocTimer, allocUnsorted_of_nil _ _ _ _ _ h.toLists]; rfl, h.toLists, h.entries,
    ?_, h.now, h.history, hs, hf⟩
  rw [Timetable.runningAfter, if_neg hl, h.running]

theorem Allocated.running_of_ne {timer : Timer} {s₁ : State} (h : Allocated w timer s s₁)
    {e : Addr} (he : e ≠ w) : s₁.running e = s.running e := by
  rw [State.running, State.running, h.serial, h.timer, Function.update_of_ne he,
    Function.update_of_ne he]

theorem Allocated.running_self {timer : Timer} {s₁ : State} (h : Allocated w timer s s₁) :
    s₁.running w = ⟨s.history.length, timer⟩ := by
  rw [State.running, h.serial, h.timer, Function.update_self, Function.update_self]

theorem Allocated.map_running {timer : Timer} {s₁ : State} (h : Allocated w timer s s₁)
    (hw : w ∉ used) : used.map s₁.running = used.map s.running :=
  List.map_congr_left fun _ he => h.running_of_ne fun heq => hw (heq ▸ he)

theorem insertUsed_perm : (s.insertUsed w used).Perm (w :: used) := by
  rw [State.insertUsed]
  refine List.perm_middle.trans ?_
  rw [List.takeWhile_append_dropWhile]

theorem map_running_insertUsed :
    (s.insertUsed w used).map s.running = (s.running w).insert (used.map s.running) := by
  rw [State.insertUsed, Running.insert, List.map_append, List.map_cons, List.takeWhile_map,
    List.dropWhile_map]
  rfl

-- The state that has the new timer at the end of the used list is sorted.
theorem sort_allocated {timer : Timer} {s₁ : State} (h : s.Lists (free ++ [w]) used)
    (ho : (used.map s.running).Pairwise Running.Sooner) (ha : Allocated w timer s s₁)
    (hl : s₁.Lists free (used ++ [w])) : ∃ L head, ∃ left > 0,
      sortUsedListUnprotected s₁ = ⟨s₁.setUsed L head, none, left⟩ ∧
      (s₁.setUsed L head).Lists free (s₁.insertUsed w used) := by
  have hw : w ∉ used := fun hu => h.disjoint (by simp) hu
  rw [← ha.map_running hw] at ho
  have hlen : used.length < maxNumTimers := by
    have := h.length
    simp only [List.length_append, List.length_singleton] at this
    omega
  have ⟨L, head, left, hleft, hsort, hL, hout⟩ := sortUsedListUnprotected_spec hl.usedList ho hlen
  have hp : (s₁.insertUsed w used).Perm (used ++ [w]) :=
    insertUsed_perm.trans (List.perm_append_singleton w used).symm
  refine ⟨L, head, left, hleft, hsort, ?_, hL, ?_, ?_⟩
  case refine_1 =>
    exact hl.freeList.same_outside (fun _ hu hf => hl.disjoint hf hu) hout
  case refine_2 => exact fun e hf hu => hl.disjoint hf (hp.mem_iff.mp hu)
  case refine_3 => rw [hp.length_eq]; exact hl.length

-- The last free entry gets the timer, and its place in the used list.
theorem allocTimer_done (h : Represents m s t (free ++ [w]) used) (hs : s.sent = [])
    (hf : s.freed = []) : ∃ s' used, allocTimer period port id msg beyond s = some (some w, s') ∧
      Done m t (.allocTimer period port id msg beyond) s' free used := by
  have ho : (used.map s.running).Pairwise Running.Sooner := h.running ▸ t.sorted
  have ⟨s₁, hs₁, ha, hl⟩ := allocUnsorted_spec period port id msg beyond h.toLists
  have ⟨L, head, left, _, hsort, hl'⟩ := sort_allocated h.toLists ho ha hl
  have hlen : t.running.length < maxNumTimers := by
    have := h.length
    rw [← h.running, List.length_map]
    simp only [List.length_append, List.length_singleton] at this
    omega
  have hw : w ∉ used := fun hu => h.disjoint (by simp) hu
  have hnew : s₁.running w = t.newTimer period port id msg beyond := by
    rw [ha.running_self, State.newTimer, Timetable.newTimer, h.now, h.history]
  refine ⟨s₁.setUsed L head, s₁.insertUsed w used, ?_, hl', ?_, ?_, ha.now.trans h.now,
    ha.history.trans h.history, ha.sent.trans hs, ha.freed.trans hf⟩
  case refine_1 => simp only [allocTimer, hs₁, Option.map_some, hsort]
  case refine_2 =>
    refine (insertUsed_perm.append_left free).trans (.trans ?_ h.entries)
    simp
  case refine_3 =>
    rw [Timetable.runningAfter, if_pos hlen, ← h.running, ← hnew, ← ha.map_running hw]
    exact map_running_insertUsed

end

-- Every operation does what the timetable says.
theorem doOp_done (h : Represents m s t free used) (hs : s.sent = []) (hf : s.freed = []) (op : Op) :
    ∃ s' free used, doOp op s = some s' ∧ Done m t op s' free used := by
  cases op
  case actionTimerStop     => exact actionTimerStop_done h hs hf
  case tickHandlerCallback => exact tickHandlerCallback_done h hs hf
  case freeAllTimers       => exact freeAllTimers_done h hs hf
  case allocTimer period port id msg beyond =>
    rcases List.eq_nil_or_concat free with rfl | ⟨free, w, rfl⟩
    case inl =>
      have ⟨hr, hd⟩ := allocTimer_done_of_nil period port id msg beyond h hs hf
      exact ⟨s, [], used, congrArg (Option.map Prod.snd) hr, hd⟩
    case inr =>
      rw [List.concat_eq_append] at h
      have ⟨s', used, hr, hd⟩ := allocTimer_done period port id msg beyond h hs hf
      exact ⟨s', free, used, congrArg (Option.map Prod.snd) hr, hd⟩

-- The server refines the timetable.
def Refines (m : Malloc) (s : State) (t : Timetable) : Prop :=
  ∃ free used, Represents m s t free used

theorem step_refines (s : State) (t : Timetable) (op : Op) (h : Refines m s t) :
    ∃ s', step s op = some s' ∧ Refines m s' (t.step op) := by
  have ⟨free, used, h⟩ := h
  have h₀ : Represents m { s with sent := [], freed := [] } t free used :=
    ⟨h.toLists.congr rfl rfl rfl, h.entries, h.running, h.now, h.history⟩
  have ⟨s', free, used, hr, hd⟩ := doOp_done h₀ rfl rfl op
  refine ⟨_, congrArg (Option.map _) hr, free, used, hd.toLists.congr rfl rfl rfl, hd.entries,
    hd.running, hd.now, ?_⟩
  change s'.history ++ [⟨op, s'.gTimerTickDeciSeconds, s'.sent, s'.freed⟩] = _
  rw [hd.history, hd.now, hd.sent, hd.freed]
  rfl

-- `actionTimerServerStart` links every entry to the previous one twice.
theorem startEntry_spec {e : Addr} {l : List Addr}
    (h : s.links.IsList s.pgFreeTimerListHead l) (he : e ∉ l) :
    startEntry e l.getLast? ((l.getLast?.map .pNextEntry).getD .pgFreeTimerListHead) s =
      { s.setTimer e .zero with
        links               := s.links.link l.getLast? e
        pgFreeTimerListHead := s.pgFreeTimerListHead.or (some e) } := by
  rcases List.eq_nil_or_concat l with rfl | ⟨l, a, rfl⟩
  case inl =>
    have hh : s.pgFreeTimerListHead = none := h.head
    simp [startEntry, State.assign, State.setNextEntry, State.setPrevEntry, State.setTimer,
      Links.link, hh]
  case inr =>
    rw [List.concat_eq_append] at h he ⊢
    obtain ⟨x, hx⟩ : ∃ x, s.pgFreeTimerListHead = some x := by
      rw [h.head]
      cases l <;> exact ⟨_, rfl⟩
    have hae : some e ≠ some a := fun hae => he (by simp [Option.some.inj hae])
    have hn : (s.links.link (some a) e).next a = some e := by
      rw [Links.link, Links.setNext_next_of_ne hae, Links.setPrev_next, Links.setNext_next_self]
    have hl : (s.links.link (some a) e).setNext (some a) (some e) = s.links.link (some a) e := by
      rw [Links.setNext, ← hn, Function.update_eq_self]
    rw [List.getLast?_concat, hx, Option.some_or, ← hx, ← hl]
    rfl

theorem startLoop_spec (es : List Addr) {l : List Addr}
    (h : s.links.IsList s.pgFreeTimerListHead l)
    (hd : (l ++ es).Nodup) : ∃ timer L head, L.IsList head (l ++ es) ∧
      startLoop es l.getLast? ((l.getLast?.map .pNextEntry).getD .pgFreeTimerListHead) s =
        { s with timer := timer, links := L, pgFreeTimerListHead := head } := by
  induction es generalizing s l
  case nil => exact ⟨_, _, _, by simpa using h, rfl⟩
  case cons e es hi =>
    have he : e ∉ l := (Links.nodup_middle hd).right.right.left
    have hs := startEntry_spec h he
    have hlast : (l ++ [e]).getLast? = some e := List.getLast?_concat
    have h₁ : (startEntry e l.getLast? ((l.getLast?.map .pNextEntry).getD .pgFreeTimerListHead)
        s).links.IsList (startEntry e l.getLast? ((l.getLast?.map .pNextEntry).getD
          .pgFreeTimerListHead) s).pgFreeTimerListHead (l ++ [e]) := by
      rw [hs]
      exact h.link he
    have ⟨timer, L, head, hL, hr⟩ := hi h₁ (by simpa using hd)
    refine ⟨timer, L, head, by simpa using hL, ?_⟩
    rw [hlast, hs] at hr
    rw [startLoop, hs]
    exact hr

-- The state that the server is in when it has been started.
def started (m : Malloc) (timer : Addr → Timer) (links : Links Addr) : State :=
  actionTimerServerStart m (boot timer links)

theorem started_refines (m : Malloc) (timer : Addr → Timer) (links : Links Addr) :
    Refines m (started m timer links) .start := by
  have h : (boot timer links).links.IsList (boot timer links).pgFreeTimerListHead [] := .nil
  have ⟨timer', L, head, hL, hr⟩ := startLoop_spec m.entries h m.nodup
  have hr : started m timer links = _ := hr
  refine ⟨m.entries, [], ?_⟩
  rw [hr]
  exact ⟨⟨hL, .nil, List.disjoint_nil_right _, m.length⟩, by simp, rfl, rfl, rfl⟩

-- Every run of the server is a run of the timetable, and the server never fails.
theorem run_refines (m : Malloc) (timer : Addr → Timer) (links : Links Addr) (ops : List Op) :
    ∃ s, run step (started m timer links) ops = some s ∧
      Refines m s (ops.foldl Timetable.step .start) :=
  run_simulates step_refines (started_refines m timer links) ops

end RoboOne.Timer
