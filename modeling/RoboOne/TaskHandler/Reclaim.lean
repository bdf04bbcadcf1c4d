import Mathlib.Data.List.Induction
import RoboOne.TaskHandler.Guards

namespace RoboOne.TaskHandler

open Transition

-- The list from the root, without the root.
def TaskList (s : State) (as : List Addr) : Prop :=
  s.memory.links.IsList (some gTaskListRoot) (gTaskListRoot :: as)

-- No task in the list is completed.
def Reclaimed (s : State) : Prop :=
  ∀ as, TaskList s as → ∀ a ∈ as, ∀ item, s.memory a = some item → item.taskCompleted = false

def Op.isRequest : Op → Bool
  | handleNewTaskReq _ _ => true
  | _                    => false

namespace Backlog

-- No task has been executed.
def Pending (b : Backlog) : Prop :=
  ∀ t ∈ b.tasks, t.result = none

instance (b : Backlog) : Decidable b.Pending :=
  inferInstanceAs (Decidable (∀ t ∈ b.tasks, _))

-- There is memory for the results of all tasks.
def Affords (b : Backlog) (results : Results) : Prop :=
  ∀ n < b.tasks.length, (results n).isSome

-- There is no memory for the result of a task without a header.
def Spares (b : Backlog) (results : Results) : Prop :=
  ∀ n t, b.tasks[n]? = some t → t.req.headerPresent = false → results n = none

-- A tick gets through the list: there are not too many tasks for its loops, and it answers none behind one
-- that it does not answer.
def GetsThrough (b : Backlog) (results : Results) : Prop :=
  b.tasks.length < maxGuardCounter ∧ b.InTurn (.tickTaskHandler results)

end Backlog

-- What the ticks of a run make of the tasks in the list.
structure TicksReclaim (root : TaskItem) (ops : List Op) : Prop where
  reclaimed : ∀ js r s, js ++ [.tickTaskHandler r] <+: ops → run step (started root) js = some s →
    (Backlog.after js).GetsThrough r → ∃ s', step s (.tickTaskHandler r) = some s' ∧ Reclaimed s'
  emptied   : ∀ js r s, js ++ [.tickTaskHandler r] <+: ops → run step (started root) js = some s →
    (Backlog.after js).GetsThrough r → (Backlog.after js).Affords r →
      ∃ s', step s (.tickTaskHandler r) = some s' ∧ TaskList s' []
  bounded   : ∀ js r ks s as, js ++ .tickTaskHandler r :: ks <+: ops →
    run step (started root) (js ++ .tickTaskHandler r :: ks) = some s →
      (Backlog.after js).Affords r → TaskList s as → as.length ≤ ks.countP Op.isRequest

-- The ticks that get through the list find memory for the results of those tasks only that have a
-- header.
def TicksSpare (root : TaskItem) (ops : List Op) : Prop :=
  ∀ js r, js ++ [.tickTaskHandler r] <+: ops → (run step (started root) js).isSome →
    (Backlog.after js).GetsThrough r → (Backlog.after js).Spares r

variable {s : State} {b : Backlog} {as : List Addr} {t : Task} {ts : List Task} {r : Results}
  {op : Op} {ops js ks : List Op} {root : TaskItem}

theorem Refines.taskList (h : Refines s b) : ∃ as, TaskList s as ∧
    as.map s.memory.content = b.tasks.map (some ·.content) := by
  have ⟨as, has⟩ := h.intact
  exact ⟨as, has.isList, has.tasks⟩

theorem Refines.length_taskList (h : Refines s b) (has : TaskList s as) :
    as.length = b.tasks.length := by
  have ⟨as', has', hc⟩ := h.taskList
  obtain rfl := List.tail_eq_of_cons_eq (has.unique has')
  simpa using congrArg List.length hc

theorem Refines.reclaimed_iff (h : Refines s b) : Reclaimed s ↔ b.Pending := by
  have ⟨as, has, hc⟩ := h.taskList
  constructor
  case mp =>
    intro hr t ht
    have ⟨a, ha, hac⟩ : ∃ a ∈ as, s.memory.content a = some t.content :=
      List.mem_map.mp (hc ▸ List.mem_map_of_mem (f := (some ·.content)) ht)
    have ⟨item, hi, hic⟩ := content_eq_some hac
    have hcompleted : item.taskCompleted = t.result.isSome := congrArg TaskContent.taskCompleted hic
    simpa [hcompleted] using hr as has a ha item hi
  case mpr =>
    intro hp as' has' a ha item hi
    obtain rfl := List.tail_eq_of_cons_eq (has.unique has')
    have ⟨t, ht, htc⟩ : ∃ t ∈ b.tasks, some t.content = s.memory.content a :=
      List.mem_map.mp (hc ▸ List.mem_map_of_mem (f := s.memory.content) ha)
    rw [Memory.content, hi] at htc
    have hcompleted : t.result.isSome = item.taskCompleted :=
      congrArg TaskContent.taskCompleted (Option.some.inj htc)
    simp [← hcompleted, hp t ht]

theorem getElem?_runTasks {n : Nat} :
    (runTasks ts r)[n]? = ts[n]?.map (·.run (r n)) := by
  induction ts generalizing r n
  case nil => rfl
  case cons t ts ih =>
    cases n
    case zero   => rfl
    case succ n => exact ih

-- A tick keeps the tasks which it has executed, but for which there is no header.
theorem Backlog.Pending.step_iff (h : b.Pending) :
    (b.step (.tickTaskHandler r)).Pending ↔ b.Spares r := by
  have hrun {n : Nat} {t : Task} (ht : b.tasks[n]? = some t) :
      (t.run (r n)).result = none ↔ r n = none := by
    simp [Task.run, h t (List.mem_of_getElem? ht)]
  constructor
  case mp =>
    intro hp n t ht hh
    have hm : t.run (r n) ∈ runTasks b.tasks r :=
      List.mem_of_getElem? (i := n) (by simp [getElem?_runTasks, ht])
    have ha : (t.run (r n)).answered = false := by simp [Task.answered, Task.run, hh]
    exact (hrun ht).mp <| hp _ (List.mem_filter.mpr ⟨hm, by simp [ha]⟩)
  case mpr =>
    intro hs t' ht'
    obtain ⟨hm, ha⟩ := List.mem_filter.mp ht'
    obtain ⟨n, hn⟩ := List.mem_iff_getElem?.mp hm
    rw [getElem?_runTasks] at hn
    obtain ⟨t, ht, rfl⟩ := Option.map_eq_some_iff.mp hn
    rw [hrun ht]
    cases hh : t.req.headerPresent
    case false => exact hs n t ht hh
    case true  =>
      have ha : (t.run (r n)).result = none := by simpa [Task.answered, Task.run, hh] using ha
      exact (hrun ht).mp ha

theorem Backlog.Pending.step (h : b.Pending) (ho : ∀ r, op ≠ .tickTaskHandler r) :
    (b.step op).Pending := by
  rcases op with ⟨_, _ | _⟩ | r | _
  case handleNewTaskReq.none => exact h
  case handleNewTaskReq.some =>
    intro t ht
    rcases List.mem_append.mp ht with ht | ht
    case inl => exact h t ht
    case inr => rw [List.mem_singleton.mp ht]
  case tickTaskHandler => exact absurd rfl (ho r)
  case clearTaskList   => exact fun t ht => absurd ht (by simp [Backlog.step])

-- The tick executes the tasks with a header, and leaves none of them in the list.
theorem Backlog.tick_of_affords (ha : b.Affords r) (hs : b.Spares r) :
    (b.step (.tickTaskHandler r)).tasks = [] := by
  refine List.filter_eq_nil_iff.mpr fun t' ht' => ?_
  have ⟨n, hn⟩ := List.mem_iff_getElem?.mp ht'
  rw [getElem?_runTasks] at hn
  obtain ⟨t, ht, rfl⟩ := Option.map_eq_some_iff.mp hn
  have hr : (r n).isSome := ha n (List.getElem?_eq_some_iff.mp ht).choose
  cases hh : t.req.headerPresent
  case false => simp [hs n t ht hh] at hr
  case true  => simp [Task.answered, Task.run, hh, hr]

-- Only a request makes the list longer.
theorem Backlog.length_foldl_le :
    (ks.foldl Backlog.step b).tasks.length ≤ b.tasks.length + ks.countP Op.isRequest := by
  induction ks generalizing b
  case nil => exact Nat.le_refl _
  case cons op ks ih =>
    refine Nat.le_trans ih ?_
    rw [List.countP_cons]
    rcases op with ⟨_, _ | _⟩ | r | _
    case handleNewTaskReq.none => simp [Backlog.step]
    case handleNewTaskReq.some =>
      simp only [Backlog.step, Op.isRequest, List.length_append, List.length_singleton, ↓reduceIte]
      omega
    case tickTaskHandler =>
      have h : (b.step (.tickTaskHandler r)).tasks.length ≤ b.tasks.length := length_tick_le
      simpa [Op.isRequest] using h
    case clearTaskList => simp [Backlog.step, Op.isRequest]

theorem Backlog.after_append : after (js ++ ks) = ks.foldl Backlog.step (after js) := by
  rw [after, after, List.foldl_append]

-- If no tick leaves an executed task, there is never one.
theorem pending_after (h : ∀ ks r, ks ++ [.tickTaskHandler r] <+: js →
      (run step (started root) (ks ++ [.tickTaskHandler r])).isSome → (Backlog.after ks).Pending →
        (Backlog.after (ks ++ [.tickTaskHandler r])).Pending)
    (hr : (run step (started root) js).isSome) : (Backlog.after js).Pending := by
  induction js using List.reverseRecOn
  case nil => simp [Backlog.Pending, Backlog.after, Backlog.empty]
  case append_singleton js op ih =>
    have hb := ih (fun ks r hks => h ks r (hks.trans (List.prefix_append ..)))
      (isSome_run_of_append hr)
    by_cases ho : ∃ r, op = .tickTaskHandler r
    case pos =>
      obtain ⟨r, rfl⟩ := ho
      exact h js r (List.prefix_refl _) hr hb
    case neg =>
      rw [Backlog.after_append]
      exact hb.step fun r he => ho ⟨r, he⟩

theorem Backlog.after_append_tick :
    after (js ++ [.tickTaskHandler r]) = (after js).step (.tickTaskHandler r) :=
  after_append

theorem Capped.tick (h : Capped s b) (hg : b.GetsThrough r) : ∃ s',
    TaskHandler.step s (.tickTaskHandler r) = some s' ∧ Capped s' (b.step (.tickTaskHandler r)) := by
  have ⟨s', hs, h'⟩ := (h.left.tickTaskHandler hg.left).left hg.right
  exact ⟨s', hs, h', Backlog.length_step_le hg.left⟩

theorem Capped.getsThrough (h : Capped s b)
    (hs : (TaskHandler.step s (.tickTaskHandler r)).isSome) : b.GetsThrough r := by
  have ⟨s', hs⟩ := Option.isSome_iff_exists.mp hs
  rcases Nat.lt_or_eq_of_le h.right with hl | hl
  case inl =>
    refine ⟨hl, ?_⟩
    by_contra hn
    cases hs.symm.trans ((h.left.tickTaskHandler hl).right hn)
  case inr =>
    have hw : (Op.tickTaskHandler r).Walks := trivial
    cases hs.symm.trans (h.left.full (Nat.le_of_eq hl.symm) hw).right

-- The ticks of a run that are followed by another state are those that get through the list.
theorem getsThrough_of_isSome (hp : Along step Possible (started root) ops)
    (hjs : js ++ [.tickTaskHandler r] <+: ops)
    (hr : (run step (started root) (js ++ [.tickTaskHandler r])).isSome) : ∃ s,
      run step (started root) js = some s ∧ (Backlog.after js).GetsThrough r := by
  have ⟨s, hs⟩ := Option.isSome_iff_exists.mp (isSome_run_of_append hr)
  rw [run_concat hs] at hr
  exact ⟨s, hs, (capped_after hp ((List.prefix_append ..).trans hjs) hs).getsThrough hr⟩

-- They are followed by another state, if they get through it.
theorem exists_tick (hp : Along step Possible (started root) ops)
    (hjs : js ++ [.tickTaskHandler r] <+: ops) (hs : run step (started root) js = some s)
    (hg : (Backlog.after js).GetsThrough r) : ∃ s', step s (.tickTaskHandler r) = some s' ∧
      run step (started root) (js ++ [.tickTaskHandler r]) = some s' ∧
      Refines s' (Backlog.after (js ++ [.tickTaskHandler r])) := by
  have ⟨s', hs', hc⟩ := (capped_after hp ((List.prefix_append ..).trans hjs) hs).tick hg
  refine ⟨s', hs', (run_concat hs).trans hs', ?_⟩
  rw [Backlog.after_append_tick]
  exact hc.left

theorem TicksReclaim.pending (hp : Along step Possible (started root) ops)
    (h : TicksReclaim root ops) (hjs : js ++ [.tickTaskHandler r] <+: ops)
    (hr : (run step (started root) (js ++ [.tickTaskHandler r])).isSome) :
    (Backlog.after (js ++ [.tickTaskHandler r])).Pending := by
  have ⟨s, hs, hg⟩ := getsThrough_of_isSome hp hjs hr
  have ⟨s', hs', hreclaimed⟩ := h.reclaimed js r s hjs hs hg
  have hrun : run step (started root) (js ++ [.tickTaskHandler r]) = some s' :=
    (run_concat hs).trans hs'
  exact (capped_after hp hjs hrun).left.reclaimed_iff.mp hreclaimed

theorem TicksReclaim.spare (hp : Along step Possible (started root) ops)
    (h : TicksReclaim root ops) : TicksSpare root ops := by
  intro js r hjs hr hg
  have ⟨s, hs⟩ := Option.isSome_iff_exists.mp hr
  have ⟨s', _, hrun, _⟩ := exists_tick hp hjs hs hg
  have hb : (Backlog.after js).Pending := pending_after
    (fun ks r hks hr _ => h.pending hp (hks.trans ((List.prefix_append ..).trans hjs)) hr) hr
  have hb' := h.pending hp hjs (Option.isSome_iff_exists.mpr ⟨s', hrun⟩)
  rw [Backlog.after_append_tick] at hb'
  exact hb.step_iff.mp hb'

theorem TicksSpare.pending (hp : Along step Possible (started root) ops) (h : TicksSpare root ops)
    (hjs : js <+: ops) (hr : (run step (started root) js).isSome) : (Backlog.after js).Pending := by
  refine pending_after (fun ks r hks hr hb => ?_) hr
  have ⟨s, hs, hg⟩ := getsThrough_of_isSome hp (hks.trans hjs) hr
  rw [Backlog.after_append_tick]
  exact hb.step_iff.mpr (h ks r (hks.trans hjs) (Option.isSome_iff_exists.mpr ⟨s, hs⟩) hg)

-- Behind a tick for which there is enough memory there are only the tasks that come later.
theorem TicksSpare.length_le (hp : Along step Possible (started root) ops) (h : TicksSpare root ops)
    (hjs : js ++ .tickTaskHandler r :: ks <+: ops)
    (hs : run step (started root) (js ++ .tickTaskHandler r :: ks) = some s)
    (ha : (Backlog.after js).Affords r) (has : TaskList s as) :
    as.length ≤ ks.countP Op.isRequest := by
  have hsplit : js ++ .tickTaskHandler r :: ks = js ++ [.tickTaskHandler r] ++ ks := by simp
  have hlen := (capped_after hp hjs hs).left.length_taskList has
  rw [hsplit] at hjs hs hlen
  have hr : (run step (started root) (js ++ [.tickTaskHandler r])).isSome :=
    isSome_run_of_append (Option.isSome_iff_exists.mpr ⟨s, hs⟩)
  have hjs := (List.prefix_append ..).trans hjs
  have ⟨s₀, hs₀, hg⟩ := getsThrough_of_isSome hp hjs hr
  have hspares := h js r hjs (Option.isSome_iff_exists.mpr ⟨s₀, hs₀⟩) hg
  have ht := Backlog.tick_of_affords ha hspares
  rw [hlen, Backlog.after_append, Backlog.after_append_tick]
  refine Nat.le_trans Backlog.length_foldl_le ?_
  simp [ht]

theorem TicksSpare.reclaim (hp : Along step Possible (started root) ops) (h : TicksSpare root ops) :
    TicksReclaim root ops where
  reclaimed js r s hjs hs hg := by
    have ⟨s', hs', hrun, hrefines⟩ := exists_tick hp hjs hs hg
    have hpending := h.pending hp hjs (Option.isSome_iff_exists.mpr ⟨s', hrun⟩)
    exact ⟨s', hs', hrefines.reclaimed_iff.mpr hpending⟩
  emptied js r s hjs hs hg ha := by
    have ⟨s', hs', hrun, hrefines⟩ := exists_tick hp hjs hs hg
    have ⟨as, has, _⟩ := hrefines.taskList
    have hlen := h.length_le hp hjs hrun ha has
    obtain rfl := List.eq_nil_of_length_eq_zero (Nat.le_zero.mp hlen)
    exact ⟨s', hs', has⟩
  bounded _ _ _ _ _ hjs hs ha has := h.length_le hp hjs hs ha has

-- The completed tasks are reclaimed, if and only if every tick that gets through the list finds memory
-- for the results of those tasks only that have a header.
theorem tasks_reclaimed_iff (root : TaskItem) (ops : List Op)
    (hp : Along step Possible (started root) ops) : TicksReclaim root ops ↔ TicksSpare root ops :=
  ⟨fun h => h.spare hp, fun h => h.reclaim hp⟩

theorem tasks_reclaimed_iff_answeredFirst :
    TicksReclaim emptyRoot answeredFirst ↔ TicksSpare emptyRoot answeredFirst :=
  tasks_reclaimed_iff emptyRoot answeredFirst (by decide)

-- A task without a header is executed.
def unanswered : List Op :=
  [.handleNewTaskReq (request .hd none) (some 1), .tickTaskHandler allResults]

theorem tasks_not_reclaimed : ¬∀ (root : TaskItem) (ops : List Op),
    Along step Possible (started root) ops → TicksReclaim root ops := by
  intro h
  have hp : Along step Possible (started emptyRoot) unanswered := by decide
  have hr : (run step (started emptyRoot) unanswered).isSome := by decide
  have hn : ¬(Backlog.after unanswered).Pending := by decide
  have hjs : [.handleNewTaskReq (request .hd none) (some 1)] ++ [.tickTaskHandler allResults] <+:
      unanswered := List.prefix_refl unanswered
  exact hn <| (h emptyRoot unanswered hp).pending hp hjs hr

end RoboOne.TaskHandler
