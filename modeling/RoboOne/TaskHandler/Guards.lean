import RoboOne.TaskHandler.Integrity

namespace RoboOne.TaskHandler

open Transition

-- Whether the loop of `walkTaskList` ends with `guardCounter` at its limit, so that the ASSERT behind
-- it fails.
def walkLoopGuarded (removeUnusedTasks clearAllTasks : Bool) :
    Nat → Option Addr → Option Addr → Memory → Bool
  | 0,     _,          _,         _ => true
  | _ + 1, none,       _,         _ => false
  | n + 1, some pThis, pPrevious, m =>
    match m.load pThis with
    | none      => false
    | some item =>
      if item.removed removeUnusedTasks clearAllTasks then
        match removeTask pThis pPrevious m with
        | none            => false
        | some (pThis, m) => walkLoopGuarded removeUnusedTasks clearAllTasks n pThis pPrevious m
      else
        walkLoopGuarded removeUnusedTasks clearAllTasks n item.pNextTask item.pNextTask m

def walkTaskListGuarded (removeUnusedTasks clearAllTasks : Bool) (m : Memory) : Bool :=
  match m.load gTaskListRoot with
  | none      => false
  | some root => root.pPreviousTask.isNone &&
    walkLoopGuarded removeUnusedTasks clearAllTasks maxGuardCounter root.pNextTask gTaskListRoot m

-- The same for the loop of `tickTaskHandler`.
def tickLoopGuarded : Nat → Addr → Results → State → Bool
  | 0,     _,  _,       _ => true
  | n + 1, pT, results, s =>
    match (s.memory.load pT).map TaskItem.pNextTask with
    | none           => false
    | some none      => false
    | some (some pT) =>
      let done := do
        let m ← doTask (results 0) pT s.memory
        doTaskCompleted pT { s with memory := m }
      match done with
      | none   => false
      | some s => tickLoopGuarded n pT results.tail s

-- `tickTaskHandler` goes through the list three times.
def tickTaskHandlerGuarded (results : Results) (s : State) : Bool :=
  walkTaskListGuarded false false s.memory ||
  match walkTaskList false false s.memory with
  | none        => false
  | some (_, m) =>
    tickLoopGuarded maxGuardCounter gTaskListRoot results { s with memory := m } ||
    match tickLoop maxGuardCounter gTaskListRoot results { s with memory := m } with
    | none   => false
    | some s => walkTaskListGuarded true false s.memory

-- One of the ASSERTs on `guardCounter` in `walkTaskList` and `tickTaskHandler` fails.
def GuardFails (s : State) : Op → Prop
  | .handleNewTaskReq _ _    => False
  | .tickTaskHandler results => tickTaskHandlerGuarded results s
  | .clearTaskList           => walkTaskListGuarded false true s.memory

instance (s : State) : (op : Op) → Decidable (GuardFails s op)
  | .handleNewTaskReq _ _ => inferInstanceAs (Decidable False)
  | .tickTaskHandler _    => inferInstanceAs (Decidable (_ = true))
  | .clearTaskList        => inferInstanceAs (Decidable (_ = true))

-- The calls that go through the list, other than to add a task to it.
def Op.Walks : Op → Prop
  | handleNewTaskReq _ _ => False
  | tickTaskHandler _    => True
  | clearTaskList        => True

instance : (op : Op) → Decidable op.Walks
  | .handleNewTaskReq _ _ => inferInstanceAs (Decidable False)
  | .tickTaskHandler _    => inferInstanceAs (Decidable True)
  | .clearTaskList        => inferInstanceAs (Decidable True)

-- `malloc` returns fresh memory, and a new task has a valid protocol.
def Possible (s : State) (op : Op) : Prop :=
  Fresh s op ∧ op.Valid

instance (s : State) (op : Op) : Decidable (Possible s op) :=
  inferInstanceAs (Decidable (_ ∧ _))

variable {m m' : Memory} {s s' : State} {b : Backlog} {a pT : Addr} {p q : Option Addr}
  {l : List Addr} {cs : List TaskContent} {n : Nat} {removeUnused clearAll : Bool} {k : UInt16}
  {r : Results} {op : Op}

-- A loop that gets through the list does so below the limit.
theorem walkLoopGuarded_of_some {x : UInt16 × Memory}
    (h : walkLoop removeUnused clearAll n p q k m = some x) :
    walkLoopGuarded removeUnused clearAll n p q m = false := by
  induction n generalizing p q k m
  case zero => cases h
  case succ n ih =>
    cases p
    case none => rfl
    case some pThis =>
      simp only [walkLoop, Option.bind_eq_bind, Option.bind_eq_some_iff] at h
      obtain ⟨item, hi, h⟩ := h
      cases hr : item.removed removeUnused clearAll
      case false =>
        simp only [hr, Bool.false_eq_true, ↓reduceIte] at h
        simp [walkLoopGuarded, hi, hr, ih h]
      case true =>
        simp only [hr, ↓reduceIte, Option.bind_eq_some_iff] at h
        obtain ⟨⟨pThis', m'⟩, hm', h⟩ := h
        simp [walkLoopGuarded, hi, hr, hm', ih h]

theorem tickLoopGuarded_of_some (h : tickLoop n pT r s = some s') :
    tickLoopGuarded n pT r s = false := by
  induction n generalizing pT r s
  case zero => cases h
  case succ n ih =>
    simp only [tickLoop, Option.bind_eq_bind, Option.bind_eq_some_iff] at h
    obtain ⟨item, hi, h⟩ := h
    cases hn : item.pNextTask
    case none => simp [tickLoopGuarded, hi, hn]
    case some pNext =>
      simp only [hn, Option.bind_eq_some_iff] at h
      obtain ⟨m, hm, s₁, hs₁, h⟩ := h
      simp [tickLoopGuarded, hi, hn, hm, hs₁, ih h]

-- The walk over a short list stays below the limit, also when it frees the item `pPrevious`.
theorem walkLoopGuarded_behind_kept (hs : m.links.Seg p l none) (hu : ∀ a ∈ l, (m a).isSome)
    (hn : l.length < n) : walkLoopGuarded removeUnused clearAll n l.head? l.head? m = false := by
  induction l generalizing p n
  case nil =>
    obtain ⟨n, rfl⟩ := Nat.exists_eq_add_one_of_ne_zero (Nat.ne_zero_of_lt hn)
    rfl
  case cons a l ih =>
    obtain ⟨n, rfl⟩ := Nat.exists_eq_add_one_of_ne_zero (Nat.ne_zero_of_lt hn)
    have ⟨item, hi⟩ := Option.isSome_iff_exists.mp <| hu a (by simp)
    have h := ih hs.right.right (fun b hb => hu b (by simp [hb])) (Nat.lt_of_succ_lt_succ hn)
    cases hr : item.removed removeUnused clearAll
    case true  => simp [walkLoopGuarded, hi, hr, removeTask_self]
    case false => simp [walkLoopGuarded, hi, hr, pNextTask_of_seg hs hi, h]

theorem walkLoopGuarded_of_lt (h : m.Holds l cs) (hn : l.length < n) :
    walkLoopGuarded removeUnused clearAll n l.head? gTaskListRoot m = false := by
  induction l generalizing m cs n
  case nil =>
    obtain ⟨n, rfl⟩ := Nat.exists_eq_add_one_of_ne_zero (Nat.ne_zero_of_lt hn)
    rfl
  case cons a l ih =>
    obtain ⟨n, rfl⟩ := Nat.exists_eq_add_one_of_ne_zero (Nat.ne_zero_of_lt hn)
    have hn := Nat.lt_of_succ_lt_succ hn
    obtain ⟨item, cs, rfl, hi, _⟩ := contents_cons h.contents
    have hs : m.links.Seg _ (a :: l) none := h.isList.seg.right.right
    cases hr : item.removed removeUnused clearAll
    case true =>
      have ⟨m₁, hm₁, h₁⟩ := removeTask_spec h
      simp [walkLoopGuarded, hi, hr, hm₁, ih h₁ hn]
    case false =>
      have hk : walkLoopGuarded removeUnused clearAll n l.head? l.head? m = false :=
        walkLoopGuarded_behind_kept hs.right.right
          (fun b hb => (h.inUse b).mpr (by simp [hb])) hn
      simp [walkLoopGuarded, hi, hr, pNextTask_of_seg hs hi, hk]

-- The walks that count the tasks and that clear the list do not get through a longer list.
theorem walkLoopGuarded_count (hs : m.links.Seg p l none) (hu : ∀ a ∈ l, (m a).isSome)
    (hn : n ≤ l.length) : walkLoopGuarded false false n l.head? q m := by
  induction l generalizing p q n
  case nil =>
    obtain rfl := Nat.le_zero.mp hn
    rfl
  case cons a l ih =>
    cases n
    case zero => rfl
    case succ n =>
      have ⟨item, hi⟩ := Option.isSome_iff_exists.mp <| hu a (by simp)
      have hr : item.removed false false = false := by simp [TaskItem.removed]
      have h := ih (q := l.head?) hs.right.right (fun b hb => hu b (by simp [hb]))
        (Nat.le_of_succ_le_succ hn)
      simpa [walkLoopGuarded, hi, hr, pNextTask_of_seg hs hi] using h

theorem walkLoopGuarded_clear (h : m.Holds l cs) (hn : n ≤ l.length) :
    walkLoopGuarded false true n l.head? gTaskListRoot m := by
  induction l generalizing m cs n
  case nil =>
    obtain rfl := Nat.le_zero.mp hn
    rfl
  case cons a l ih =>
    cases n
    case zero => rfl
    case succ n =>
      obtain ⟨item, cs, rfl, hi, _⟩ := contents_cons h.contents
      have hr : item.removed false true = true := by simp [TaskItem.removed]
      have ⟨m₁, hm₁, h₁⟩ := removeTask_spec h
      simpa [walkLoopGuarded, hi, hr, hm₁] using ih h₁ (Nat.le_of_succ_le_succ hn)

theorem walkTaskListGuarded_eq (h : m.Holds l cs) : walkTaskListGuarded removeUnused clearAll m =
    walkLoopGuarded removeUnused clearAll maxGuardCounter l.head? gTaskListRoot m := by
  have ⟨root, hr, hp, hn⟩ := h.root
  simp [walkTaskListGuarded, hr, hp, hn]

theorem walkTaskList_eq_none (h : m.Holds l cs)
    (hg : walkTaskListGuarded removeUnused clearAll m) :
    walkTaskList removeUnused clearAll m = none := by
  rw [walkTaskListGuarded_eq h] at hg
  rw [walkTaskList_eq h]
  by_contra hn
  have ⟨x, hx⟩ := Option.ne_none_iff_exists'.mp hn
  exact absurd (hg.symm.trans <| walkLoopGuarded_of_some hx) (by decide)

-- Nor can another task be added behind it.
theorem findEnd_eq_none (hs : m.links.Seg p (pT :: l) none) (hu : ∀ a ∈ pT :: l, (m a).isSome)
    (hn : n ≤ l.length) : findEnd m n pT = none := by
  induction l generalizing p pT n
  case nil =>
    obtain rfl := Nat.le_zero.mp hn
    rfl
  case cons a l ih =>
    cases n
    case zero => rfl
    case succ n =>
      have ⟨item, hi⟩ := Option.isSome_iff_exists.mp <| hu pT (by simp)
      have h := ih hs.right.right (fun b hb => hu b (by simp [hb])) (Nat.le_of_succ_le_succ hn)
      simp [findEnd, hi, pNextTask_of_seg hs hi, h]

theorem addTaskToList_eq_none (hl : m.links.IsList (some gTaskListRoot) (gTaskListRoot :: l))
    (hu : ∀ a ∈ gTaskListRoot :: l, (m a).isSome) (hn : maxGuardCounter ≤ l.length) :
    addTaskToList a m = none := by
  simp only [addTaskToList, Option.bind_eq_bind, Option.bind_eq_none_iff]
  intro root _ item _
  simp [findEnd_eq_none hl.seg hu hn]

theorem length_runTasks {ts : List Task} : (runTasks ts r).length = ts.length := by
  induction ts generalizing r
  case nil          => rfl
  case cons t ts ih => exact congrArg Nat.succ ih

theorem Refines.exists_holds (h : Refines s b) :
    ∃ as, s.memory.Holds as (b.tasks.map Task.content) ∧ as.length = b.tasks.length := by
  have ⟨as, has⟩ := h.holds
  exact ⟨as, has, by rw [has.length_eq, List.length_map]⟩

-- A full list is no list that a tick, or that the end of the tasks, gets through.
theorem Refines.full (h : Refines s b) (hl : maxGuardCounter ≤ b.tasks.length)
    (hw : op.Walks) : GuardFails s op ∧ TaskHandler.step s op = none := by
  have ⟨as, has, hlen⟩ := h.exists_holds
  have hl : maxGuardCounter ≤ as.length := hlen ▸ hl
  cases op
  case handleNewTaskReq => exact absurd hw id
  case tickTaskHandler r =>
    have ⟨root, hr, _⟩ := has.root
    have hg : walkTaskListGuarded false false s.memory := by
      rw [walkTaskListGuarded_eq has]
      exact walkLoopGuarded_count has.isList.seg.right.right
        (fun a ha => (has.inUse a).mpr (by simp [ha])) hl
    refine ⟨by simp [GuardFails, tickTaskHandlerGuarded, hg], ?_⟩
    simp [TaskHandler.step, TaskHandler.tickTaskHandler, hr, walkTaskList_eq_none has hg]
  case clearTaskList =>
    have hg : walkTaskListGuarded false true s.memory := by
      rw [walkTaskListGuarded_eq has]
      exact walkLoopGuarded_clear has hl
    exact ⟨hg, by simp [TaskHandler.step, TaskHandler.clearTaskList, walkTaskList_eq_none has hg]⟩

theorem Refines.guard_holds (h : Refines s b) (hl : b.tasks.length < maxGuardCounter) :
    ¬GuardFails s op := by
  have ⟨as, has, hlen⟩ := h.exists_holds
  have hg (ru ca : Bool) : walkTaskListGuarded ru ca s.memory = false :=
    (walkTaskListGuarded_eq has).trans <| walkLoopGuarded_of_lt has (hlen ▸ hl)
  cases op
  case handleNewTaskReq => exact id
  case clearTaskList    => simp [GuardFails, hg]
  case tickTaskHandler r =>
    have ⟨count, hcount⟩ := walkTaskList_count has (hlen ▸ hl)
    have ⟨s₁, as₁, hs₁, h₁, hl₁, _⟩ := h.tickLoop r hl
    have hg₁ : walkTaskListGuarded true false s₁.memory = false :=
      (walkTaskListGuarded_eq h₁).trans <| walkLoopGuarded_of_lt h₁ hl₁
    simp [GuardFails, tickTaskHandlerGuarded, hg, hcount, hs₁, hg₁, tickLoopGuarded_of_some hs₁]

-- The backlog of a run has at most one task more than the loops get through.
def Capped (s : State) (b : Backlog) : Prop :=
  Refines s b ∧ b.tasks.length ≤ maxGuardCounter

theorem Capped.guardFails_iff (h : Capped s b) :
    GuardFails s op ↔ op.Walks ∧ b.tasks.length = maxGuardCounter := by
  rcases Nat.lt_or_eq_of_le h.right with hl | hl
  case inl => exact iff_of_false (h.left.guard_holds hl) fun hw => Nat.ne_of_lt hl hw.right
  case inr =>
    constructor
    case mp =>
      refine fun hg => ⟨?_, hl⟩
      cases op
      case handleNewTaskReq => exact hg
      all_goals trivial
    case mpr => exact fun hw => (h.left.full (Nat.le_of_eq hl.symm) hw.left).left

theorem Refines.step_request_of_full {taskReq : RoboOneTaskReq} (h : Refines s b)
    (hl : maxGuardCounter ≤ b.tasks.length) (ha : s.memory a = none) :
    TaskHandler.step s (.handleNewTaskReq taskReq (some a)) = none := by
  have ⟨as, has, hlen⟩ := h.exists_holds
  generalize hi : initTaskItem ⟨none, none, false, taskReq, none⟩ = item
  have hal : a ∉ gTaskListRoot :: as := fun hm => by simpa [ha] using (has.inUse a).mpr hm
  have hu : ∀ x ∈ gTaskListRoot :: as, (Function.update s.memory a (some item) x).isSome := by
    intro x hx
    have hxa : x ≠ a := fun he => hal (he ▸ hx)
    rw [Function.update_of_ne hxa]
    exact (has.inUse x).mpr hx
  have hn : addTaskToList a (Function.update s.memory a (some item)) = none :=
    addTaskToList_eq_none (Heap.isList_update has.isList hal) hu (hlen ▸ hl)
  simp [TaskHandler.step, TaskHandler.handleNewTaskReq, hi, hn]

theorem Backlog.length_tick_le : (b.step (.tickTaskHandler r)).tasks.length ≤ b.tasks.length :=
  Nat.le_trans (List.length_filter_le ..) (Nat.le_of_eq length_runTasks)

theorem Backlog.length_step_le (h : b.tasks.length < maxGuardCounter) :
    (b.step op).tasks.length ≤ maxGuardCounter := by
  rcases op with ⟨_, _ | _⟩ | r | _
  case handleNewTaskReq.none => exact Nat.le_of_lt h
  case handleNewTaskReq.some => simpa [Backlog.step] using Nat.succ_le_of_lt h
  case tickTaskHandler           => exact Nat.le_trans length_tick_le (Nat.le_of_lt h)
  case clearTaskList             => exact Nat.zero_le _

theorem Capped.step (h : Capped s b) (hp : Possible s op) (hs : TaskHandler.step s op = some s') :
    Capped s' (b.step op) := by
  rcases Nat.lt_or_eq_of_le h.right with hl | hl
  case inl =>
    have ⟨hf, hn⟩ := h.left.step hp.left ⟨hl, hp.right⟩
    by_cases hi : b.InTurn op
    case neg => cases hs.symm.trans (hn hi)
    case pos =>
      have ⟨s₁, hs₁, h₁⟩ := hf hi
      obtain rfl := Option.some.inj <| hs.symm.trans hs₁
      exact ⟨h₁, Backlog.length_step_le hl⟩
  case inr =>
    -- Only a task for which there is no memory can come now.
    have hl := Nat.le_of_eq hl.symm
    by_cases hw : op.Walks
    case pos => cases hs.symm.trans (h.left.full hl hw).right
    case neg =>
      rcases op with ⟨_, _ | a⟩ | _ | _
      case handleNewTaskReq.none =>
        obtain rfl := Option.some.inj hs
        exact h
      case handleNewTaskReq.some =>
        cases hs.symm.trans (h.left.step_request_of_full hl (hp.left a rfl))
      case tickTaskHandler => exact absurd trivial hw
      case clearTaskList   => exact absurd trivial hw

theorem capped_started (root : TaskItem) : Capped (started root) .empty :=
  ⟨refines_started root, Nat.zero_le _⟩

theorem capped_after {root : TaskItem} {js ops : List Op}
    (hp : Along step Possible (started root) ops) (hjs : js <+: ops)
    (hr : run step (started root) js = some s) : Capped s (Backlog.after js) :=
  run_relates Capped.step (capped_started root) (hp.initial hjs) hr

-- No guard fails, if and only if no tick and no end of the tasks finds the list full.
theorem guards_hold_iff (root : TaskItem) (ops : List Op)
    (hp : Along step Possible (started root) ops) :
    Along step (fun s op => ¬GuardFails s op) (started root) ops ↔
      ∀ js op s, js ++ [op] <+: ops → run step (started root) js = some s → op.Walks →
        (Backlog.after js).tasks.length ≠ maxGuardCounter := by
  rw [along_iff_forall]
  refine forall_congr' fun js => forall_congr' fun op => forall_congr' fun s =>
    forall_congr' fun hjs => forall_congr' fun hr => ?_
  rw [(capped_after hp ((List.prefix_append ..).trans hjs) hr).guardFails_iff, not_and]

theorem guards_hold_iff_answeredFirst :
    Along step (fun s op => ¬GuardFails s op) (started emptyRoot) answeredFirst ↔
      ∀ js op s, js ++ [op] <+: answeredFirst → run step (started emptyRoot) js = some s →
        op.Walks → (Backlog.after js).tasks.length ≠ maxGuardCounter :=
  guards_hold_iff emptyRoot answeredFirst (by decide)

-- A list of tasks without a header. There is memory for all of them.
def fill : Nat → List Op
  | 0     => []
  | n + 1 => fill n ++ [.handleNewTaskReq (request .hd none) (some (n + 1))]

theorem run_fill (hn : n ≤ maxGuardCounter) : Along step Possible (started emptyRoot) (fill n) ∧
    ∃ s cs, run step (started emptyRoot) (fill n) = some s ∧
      s.memory.Holds (List.range' 1 n) cs := by
  induction n
  case zero =>
    have ⟨as, has, hlen⟩ := (refines_started emptyRoot).exists_holds
    obtain rfl := List.eq_nil_of_length_eq_zero hlen
    exact ⟨trivial, _, _, rfl, has⟩
  case succ n ih =>
    have ⟨hp, s, cs, hs, has⟩ := ih (Nat.le_of_succ_le hn)
    have hfree : s.memory (n + 1) = none := by
      refine Option.not_isSome_iff_eq_none.mp fun hm => ?_
      have hmem := (has.inUse (n + 1)).mp hm
      simp [gTaskListRoot] at hmem
      omega
    have ⟨m, hm, h⟩ := has.add (request .hd none) hfree (by simpa using Nat.lt_of_succ_le hn)
    have hstep : step s (.handleNewTaskReq (request .hd none) (some (n + 1))) =
        some ⟨m, s.sent⟩ := by
      simp [step, handleNewTaskReq, hm]
    constructor
    case left =>
      refine along_append_iff.mpr ⟨hp, fun s' hs' => ?_⟩
      obtain rfl := Option.some.inj <| hs.symm.trans hs'
      have hpossible : Possible s (.handleNewTaskReq (request .hd none) (some (n + 1))) :=
        ⟨by simpa [Fresh] using hfree, Or.inl rfl⟩
      exact ⟨hpossible, fun _ _ => trivial⟩
    case right =>
      have hrun : run step (started emptyRoot) (fill (n + 1)) = some ⟨m, s.sent⟩ := by
        rw [fill, run_concat hs, hstep]
      have hrange : List.range' 1 (n + 1) = List.range' 1 n ++ [n + 1] := by
        simp [List.range'_concat, Nat.add_comm]
      exact ⟨_, _, hrun, hrange ▸ h⟩

-- The list is filled and then the tick comes.
theorem guards_not_hold : ¬∀ (root : TaskItem) (ops : List Op),
    Along step Possible (started root) ops →
      Along step (fun s op => ¬GuardFails s op) (started root) ops := by
  intro h
  have ⟨n, hn⟩ : ∃ n, n = maxGuardCounter := ⟨_, rfl⟩
  have ⟨hp, s, cs, hs, has⟩ := run_fill (Nat.le_of_eq hn)
  have hp : Along step Possible (started emptyRoot) (fill n ++ [.tickTaskHandler allResults]) :=
    along_append_iff.mpr ⟨hp, fun _ _ => ⟨⟨trivial, trivial⟩, fun _ _ => trivial⟩⟩
  refine (h _ _ hp).at hs ?_
  have hg : walkTaskListGuarded false false s.memory := by
    rw [walkTaskListGuarded_eq has]
    exact walkLoopGuarded_count has.isList.seg.right.right
      (fun a ha => (has.inUse a).mpr (by simp [ha])) (by simp [hn])
  simp [GuardFails, tickTaskHandlerGuarded, hg]

end RoboOne.TaskHandler
