import RoboOne.TaskHandler.Backlog

namespace RoboOne.TaskHandler

-- A task item without its links.
structure TaskContent where
  taskCompleted : Bool
  task          : RoboOneTaskReq
  pResult       : Option RoboOneTaskInd

def TaskItem.content (item : TaskItem) : TaskContent where
  taskCompleted := item.taskCompleted
  task          := item.task
  pResult       := item.pResult

def TaskContent.removed (c : TaskContent) (removeUnusedTasks clearAllTasks : Bool) : Bool :=
  (c.taskCompleted && c.pResult.isNone && removeUnusedTasks) || clearAllTasks

namespace Memory

def links (m : Memory) : Links Addr :=
  Heap.links TaskItem.pPreviousTask TaskItem.pNextTask m

def content (m : Memory) (a : Addr) : Option TaskContent :=
  (m a).map TaskItem.content

-- The list holds tasks with the given contents, and nothing else is in use.
structure Holds (m : Memory) (l : List Addr) (cs : List TaskContent) : Prop where
  isList   : m.links.IsList (some gTaskListRoot) (gTaskListRoot :: l)
  contents : l.map m.content = cs.map some
  inUse    : ∀ a, (m a).isSome ↔ a ∈ gTaskListRoot :: l

end Memory

variable {m m' : Memory} {a b pT : Addr} {p q : Option Addr} {l : List Addr} {c : TaskContent}
  {cs : List TaskContent} {n : Nat} {item : TaskItem} {removeUnused clearAll : Bool}
  {k : UInt16}

theorem content_eq_some (h : m.content a = some c) : ∃ item, m a = some item ∧ item.content = c :=
  Option.map_eq_some_iff.mp h

-- The first of some tasks, and the contents of the others.
theorem contents_cons (hc : (a :: l).map m.content = cs.map some) : ∃ item cs',
    cs = item.content :: cs' ∧ m a = some item ∧ l.map m.content = cs'.map some := by
  cases cs
  case nil => cases hc
  case cons c cs =>
    have ⟨ha, hcs⟩ := List.cons.inj hc
    obtain ⟨item, hi, rfl⟩ := content_eq_some ha
    exact ⟨item, cs, rfl, hi, hcs⟩

theorem pPreviousTask_eq (ha : m a = some item) : item.pPreviousTask = m.links.prev a :=
  (Heap.links_prev_of_eq_some ha).symm

theorem pNextTask_eq (ha : m a = some item) : item.pNextTask = m.links.next a :=
  (Heap.links_next_of_eq_some ha).symm

theorem isSome_content : (m.content a).isSome = (m a).isSome :=
  Option.isSome_map

theorem content_update {o : Option TaskItem} (ho : o.map TaskItem.content = m.content a) :
    Memory.content (Function.update m a o) = m.content := by
  funext b
  by_cases hb : b = a
  case pos => subst hb; simpa [Memory.content] using ho
  case neg => simp [Memory.content, hb]

-- The links have changed, and nothing else.
structure Relinked (L : Links Addr) (m m' : Memory) : Prop where
  links   : m'.links = L
  content : m'.content = m.content

theorem Relinked.isSome {L : Links Addr} (h : Relinked L m m') : (m' a).isSome = (m a).isSome := by
  rw [← isSome_content, h.content, isSome_content]

theorem modify_pPreviousTask (ha : (m a).isSome) : ∃ m' : Memory,
    m.modify (some a) ({ · with pPreviousTask := p }) = some m' ∧
      Relinked (m.links.setPrev (some a) p) m m' := by
  have ⟨item, hi⟩ := Option.isSome_iff_exists.mp ha
  refine ⟨_, Heap.modify_of_eq_some hi, Heap.links_setPrev hi rfl rfl, content_update ?_⟩
  simp [Memory.content, hi, TaskItem.content]

theorem modify_pNextTask (ha : (m a).isSome) : ∃ m' : Memory,
    m.modify (some a) ({ · with pNextTask := p }) = some m' ∧
      Relinked (m.links.setNext (some a) p) m m' := by
  have ⟨item, hi⟩ := Option.isSome_iff_exists.mp ha
  refine ⟨_, Heap.modify_of_eq_some hi, Heap.links_setNext hi rfl rfl, content_update ?_⟩
  simp [Memory.content, hi, TaskItem.content]

theorem Memory.Holds.root (h : m.Holds l cs) : ∃ root, m gTaskListRoot = some root ∧
    root.pPreviousTask = none ∧ root.pNextTask = l.head? := by
  have ⟨root, hr⟩ := Option.isSome_iff_exists.mp <| (h.inUse gTaskListRoot).mpr (by simp)
  have ⟨hp, hn, _⟩ := h.isList.seg
  rw [Option.or_none] at hn
  exact ⟨root, hr, (pPreviousTask_eq hr).trans hp, (pNextTask_eq hr).trans hn⟩

theorem pNextTask_of_seg (h : m.links.Seg p (a :: l) none) (ha : m a = some item) :
    item.pNextTask = l.head? := by
  have hn := h.right.left
  rw [Option.or_none] at hn
  exact (pNextTask_eq ha).trans hn

theorem findEnd_spec (hs : m.links.Seg p (pT :: l) none) (hu : ∀ a ∈ pT :: l, (m a).isSome)
    (hn : l.length < n) : findEnd m n pT = some ((pT :: l).getLast (by simp)) := by
  induction l generalizing p pT n
  case nil =>
    obtain ⟨n, rfl⟩ := Nat.exists_eq_add_one_of_ne_zero (Nat.ne_zero_of_lt hn)
    have ⟨item, hi⟩ := Option.isSome_iff_exists.mp <| hu pT (by simp)
    simp [findEnd, hi, pNextTask_of_seg hs hi]
  case cons a l ih =>
    obtain ⟨n, rfl⟩ := Nat.exists_eq_add_one_of_ne_zero (Nat.ne_zero_of_lt hn)
    have ⟨item, hi⟩ := Option.isSome_iff_exists.mp <| hu pT (by simp)
    have h := ih hs.right.right (fun b hb => hu b (by simp [hb])) (Nat.lt_of_succ_lt_succ hn)
    simp [findEnd, hi, pNextTask_of_seg hs hi, h]

-- The item is linked to the end of the list.
theorem addTaskToList_spec (h : m.links.IsList (some gTaskListRoot) (gTaskListRoot :: l))
    (hu : ∀ b ∈ gTaskListRoot :: l, (m b).isSome) (hl : l.length < maxGuardCounter)
    (ha : m a = some item) (hal : a ∉ gTaskListRoot :: l) (hp : item.pPreviousTask = none)
    (hn : item.pNextTask = none) : ∃ m', addTaskToList a m = some m' ∧
      Relinked (Links.link (gTaskListRoot :: l).getLast? a m.links) m m' := by
  have ⟨root, hr⟩ := Option.isSome_iff_exists.mp <| hu gTaskListRoot (by simp)
  have hrp : root.pPreviousTask = none := (pPreviousTask_eq hr).trans h.seg.left
  have hend := findEnd_spec h.seg hu hl
  have hlast := List.getLast?_eq_some_getLast (l := gTaskListRoot :: l) (by simp)
  generalize hpT : (gTaskListRoot :: l).getLast (by simp) = pT at hend hlast
  have hmem : pT ∈ gTaskListRoot :: l := hpT ▸ List.getLast_mem _
  -- The links are set one after the other.
  have ⟨m₁, hs₁, h₁⟩ := modify_pPreviousTask (m := m) (a := a) (p := some pT) (by simp [ha])
  have ⟨m₂, hs₂, h₂⟩ := modify_pNextTask (m := m₁) (a := pT) (p := some a)
    (by rw [h₁.isSome]; exact hu pT hmem)
  refine ⟨m₂, ?run, ?links, h₂.content.trans h₁.content⟩
  case run =>
    simp [addTaskToList, hr, ha, hrp, hp, hn, hend, hs₁, hs₂]
  case links =>
    have ha' : (Links.setNext (some pT) (some a) m.links).next a = none := by
      have hpa : some pT ≠ some a := fun he => hal (Option.some.inj he ▸ hmem)
      rw [Links.setNext_next_of_ne hpa]
      exact (pNextTask_eq ha).symm.trans hn
    rw [h₂.links, h₁.links, Links.link, hlast, Links.setNext_setPrev, Links.setNext_setPrev,
      Links.setNext_eq_self ha']

theorem Memory.Holds.front_notMem (h : m.Holds (a :: l) cs) : a ∉ gTaskListRoot :: l := by
  have hlist : m.links.IsList (some gTaskListRoot) ([gTaskListRoot] ++ a :: l) := h.isList
  have ⟨_, _, hr, hl, _⟩ := Links.nodup_middle hlist.nodup
  simpa [hl] using hr

-- The task at the front has been unlinked, and its memory is freed.
theorem Memory.Holds.free_front (h : m.Holds (a :: l) (c :: cs))
    (hu : Relinked (m.links.unlink a) m m') :
    Memory.Holds (Function.update m' a none) l cs := by
  have hal := h.front_notMem
  refine ⟨?isList, ?contents, ?inUse⟩
  case isList =>
    have hlist : m.links.IsList (some gTaskListRoot) ([gTaskListRoot] ++ a :: l) := h.isList
    have hra : gTaskListRoot ≠ a := fun he => hal (by simp [he])
    have hl : m'.links.IsList (some gTaskListRoot) (gTaskListRoot :: l) := by
      rw [hu.links]
      simpa [hra] using hlist.unlink
    exact Heap.isList_update hl hal
  case contents =>
    have ⟨_, hcs⟩ := List.cons.inj h.contents
    rw [← hcs]
    refine List.map_congr_left fun b hb => ?_
    have hba : b ≠ a := fun he => hal (by simp [← he, hb])
    rw [Memory.content, Function.update_of_ne hba]
    exact congrFun hu.content b
  case inUse =>
    intro b
    by_cases hba : b = a
    case pos =>
      subst hba
      simp only [Function.update_self, Option.isSome_none, Bool.false_eq_true, false_iff]
      exact hal
    case neg =>
      rw [Function.update_of_ne hba, hu.isSome, h.inUse]
      simp [hba]

-- The task at the front of the list is removed.
theorem removeTask_spec (h : m.Holds (a :: l) (c :: cs)) : ∃ m',
    removeTask a (some gTaskListRoot) m = some (l.head?, m') ∧ m'.Holds l cs := by
  have hlist : m.links.IsList (some gTaskListRoot) ([gTaskListRoot] ++ a :: l) := h.isList
  obtain ⟨item, hi, _⟩ := content_eq_some (List.cons.inj h.contents).left
  obtain ⟨hprev, hnext⟩ := hlist.middle
  have hp : item.pPreviousTask = some gTaskListRoot := (pPreviousTask_eq hi).trans hprev
  have hn : item.pNextTask = l.head? := (pNextTask_eq hi).trans hnext
  have hra : gTaskListRoot ≠ a := fun he => h.front_notMem (by simp [he])
  -- The next task is linked to the root.
  obtain ⟨m₁, hs₁, h₁⟩ : ∃ m₁ : Memory,
      m.modifyNonNull l.head? ({ · with pPreviousTask := some gTaskListRoot }) = some m₁ ∧
        Relinked (m.links.setPrev l.head? (some gTaskListRoot)) m m₁ := by
    cases l
    case nil => exact ⟨m, rfl, rfl, rfl⟩
    case cons b l =>
      exact modify_pPreviousTask <| (h.inUse b).mpr (by simp)
  -- The root is linked to the next task.
  obtain ⟨m₂, hs₂, h₂⟩ := modify_pNextTask (m := m₁) (a := gTaskListRoot) (p := l.head?)
    (by rw [h₁.isSome]; exact (h.inUse _).mpr (by simp))
  have hu : Relinked (m.links.unlink a) m m₂ := by
    refine ⟨?_, h₂.content.trans h₁.content⟩
    rw [h₂.links, h₁.links, Links.unlink, hprev, hnext, Links.setNext_setPrev]
    rfl
  obtain ⟨item', hi'⟩ : ∃ item', m₂ a = some item' :=
    Option.isSome_iff_exists.mp (by rw [hu.isSome, hi]; rfl)
  obtain ⟨root, hr⟩ : ∃ root, m₂ gTaskListRoot = some root :=
    Option.isSome_iff_exists.mp (by rw [hu.isSome]; exact (h.inUse _).mpr (by simp))
  have hrn : root.pNextTask = l.head? := by
    rw [pNextTask_eq hr, h₂.links, Links.setNext_next_self]
  refine ⟨Function.update m₂ a none, ?_, h.free_front hu⟩
  simp [removeTask, hi, hn, hp, hs₁, hs₂, Heap.free_of_eq_some hi', hra, hr, hrn]

-- Where there is nothing to remove, nothing happens.
theorem walkLoop_of_kept (hs : m.links.Seg p l none) (hc : l.map m.content = cs.map some)
    (hk : ∀ c ∈ cs, c.removed removeUnused clearAll = false) (hn : l.length < n) :
    ∃ k', walkLoop removeUnused clearAll n l.head? q k m = some (k', m) := by
  induction l generalizing p q cs n k
  case nil =>
    obtain ⟨n, rfl⟩ := Nat.exists_eq_add_one_of_ne_zero (Nat.ne_zero_of_lt hn)
    exact ⟨k, rfl⟩
  case cons a l ih =>
    obtain ⟨n, rfl⟩ := Nat.exists_eq_add_one_of_ne_zero (Nat.ne_zero_of_lt hn)
    obtain ⟨item, cs, rfl, hi, hcs⟩ := contents_cons hc
    have hr : item.removed removeUnused clearAll = false := hk item.content (by simp)
    have ⟨k', h⟩ := ih (q := l.head?) (k := k + 1) hs.right.right hcs
      (fun c hm => hk c (by simp [hm])) (Nat.lt_of_succ_lt_succ hn)
    exact ⟨k', by simp [walkLoop, hi, hr, pNextTask_of_seg hs hi, h]⟩

-- A task cannot be removed when `pPrevious` points to the task itself, since `pThis` is then read from
-- memory that has just been freed.
theorem removeTask_self : removeTask a (some a) m = none := by
  simp only [removeTask, Option.bind_eq_bind, Option.bind_eq_none_iff]
  intro item _ m₁ _ m₂ _ m₃ h₃ previous hp
  obtain ⟨_, _, rfl⟩ := Option.map_eq_some_iff.mp h₃
  simp at hp

theorem walkLoop_of_removed (hs : m.links.Seg p l none) (hc : l.map m.content = cs.map some)
    (hr : ∃ c ∈ cs, c.removed removeUnused clearAll) :
    walkLoop removeUnused clearAll n l.head? l.head? k m = none := by
  induction l generalizing p cs n k
  case nil =>
    obtain ⟨c, hm, _⟩ := hr
    cases cs <;> simp at hc hm
  case cons a l ih =>
    cases n
    case zero => rfl
    case succ n =>
      obtain ⟨item, cs, rfl, hi, hcs⟩ := contents_cons hc
      cases hk : item.removed removeUnused clearAll
      case true => simp [walkLoop, hi, hk, removeTask_self]
      case false =>
        have hr : ∃ c ∈ cs, c.removed removeUnused clearAll := by
          obtain ⟨c, hm, hr⟩ := hr
          cases hm
          case head    => exact absurd (hk.symm.trans hr) (by decide)
          case tail hm => exact ⟨c, hm, hr⟩
        simpa [walkLoop, hi, hk, pNextTask_of_seg hs hi] using
          ih (n := n) (k := k + 1) hs.right.right hcs hr

-- The tasks to be removed are the front part of the list.
def RemovedFirst (removeUnused clearAll : Bool) (cs : List TaskContent) : Prop :=
  cs.Pairwise fun c c' => c'.removed removeUnused clearAll → c.removed removeUnused clearAll

instance : Decidable (RemovedFirst removeUnused clearAll cs) :=
  inferInstanceAs (Decidable (List.Pairwise _ _))

theorem removedFirst_cons_of_removed (hc : c.removed removeUnused clearAll) :
    RemovedFirst removeUnused clearAll (c :: cs) ↔ RemovedFirst removeUnused clearAll cs := by
  simp [RemovedFirst, hc]

theorem removedFirst_cons_of_kept (hc : c.removed removeUnused clearAll = false) :
    RemovedFirst removeUnused clearAll (c :: cs) ↔
      ∀ c' ∈ cs, c'.removed removeUnused clearAll = false := by
  simp only [RemovedFirst, List.pairwise_cons, hc, Bool.false_eq_true, imp_false,
    Bool.not_eq_true, and_iff_left_iff_imp]
  intro h
  exact List.pairwise_of_forall_mem_list fun c₁ _ c₂ hm h₂ =>
    absurd ((h c₂ hm).symm.trans h₂) (by decide)

-- The walk removes what it is to remove, if and only if that is the front part of the list.
theorem walkLoop_spec (h : m.Holds l cs) (hn : l.length < n) :
    if RemovedFirst removeUnused clearAll cs then
      ∃ k' m' l', walkLoop removeUnused clearAll n l.head? gTaskListRoot k m =
        some (k', m') ∧ m'.Holds l' (cs.filter (!·.removed removeUnused clearAll))
    else
      walkLoop removeUnused clearAll n l.head? gTaskListRoot k m = none := by
  induction l generalizing m cs n k
  case nil =>
    obtain ⟨n, rfl⟩ := Nat.exists_eq_add_one_of_ne_zero (Nat.ne_zero_of_lt hn)
    cases cs
    case nil       => exact ⟨k, m, [], rfl, h⟩
    case cons c cs => cases h.contents
  case cons a l ih =>
    obtain ⟨n, rfl⟩ := Nat.exists_eq_add_one_of_ne_zero (Nat.ne_zero_of_lt hn)
    have hn := Nat.lt_of_succ_lt_succ hn
    obtain ⟨item, cs, rfl, hi, hcs⟩ := contents_cons h.contents
    have hs : m.links.Seg _ (a :: l) none := h.isList.seg.right.right
    have hir : item.removed removeUnused clearAll = item.content.removed removeUnused clearAll :=
      rfl
    cases hk : item.content.removed removeUnused clearAll
    case true =>
      have ⟨m₁, hm₁, h₁⟩ := removeTask_spec h
      have hw : walkLoop removeUnused clearAll (n + 1) (a :: l).head? gTaskListRoot k m =
          walkLoop removeUnused clearAll n l.head? gTaskListRoot k m₁ := by
        simp [walkLoop, hi, hir, hk, hm₁]
      simp only [hw, removedFirst_cons_of_removed hk, List.filter_cons, hk, Bool.not_true,
        Bool.false_eq_true, ↓reduceIte]
      exact ih h₁ hn
    case false =>
      have hw : walkLoop removeUnused clearAll (n + 1) (a :: l).head? gTaskListRoot k m =
          walkLoop removeUnused clearAll n l.head? l.head? (k + 1) m := by
        simp [walkLoop, hi, hir, hk, pNextTask_of_seg hs hi]
      simp only [hw, removedFirst_cons_of_kept hk]
      split
      case isTrue hr =>
        have hf : (item.content :: cs).filter (!·.removed removeUnused clearAll) = item.content :: cs :=
          List.filter_eq_self.mpr (by simpa [hk] using hr)
        have ⟨k', hw⟩ := walkLoop_of_kept (q := l.head?) (k := k + 1)
          hs.right.right hcs hr hn
        rw [hf]
        exact ⟨k', m, a :: l, hw, h⟩
      case isFalse hr =>
        exact walkLoop_of_removed hs.right.right hcs (by simpa using hr)

theorem walkTaskList_eq (h : m.Holds l cs) : walkTaskList removeUnused clearAll m =
    walkLoop removeUnused clearAll maxGuardCounter l.head? gTaskListRoot 0 m := by
  have ⟨root, hr, hp, hn⟩ := h.root
  simp [walkTaskList, hr, hp, hn]

theorem walkTaskList_spec (removeUnused clearAll : Bool) (h : m.Holds l cs)
    (hl : l.length < maxGuardCounter) :
    if RemovedFirst removeUnused clearAll cs then
      ∃ k m' l', walkTaskList removeUnused clearAll m = some (k, m') ∧
        m'.Holds l' (cs.filter (!·.removed removeUnused clearAll))
    else
      walkTaskList removeUnused clearAll m = none := by
  rw [walkTaskList_eq h]
  exact walkLoop_spec h hl

-- The walk that only counts the tasks.
theorem walkTaskList_count (h : m.Holds l cs) (hl : l.length < maxGuardCounter) :
    ∃ k, walkTaskList false false m = some (k, m) := by
  rw [walkTaskList_eq h]
  exact walkLoop_of_kept h.isList.seg.right.right h.contents
    (fun c _ => by simp [TaskContent.removed]) hl

-- The walk that clears the list.
theorem walkTaskList_clear (h : m.Holds l cs) (hl : l.length < maxGuardCounter) :
    ∃ k m' l', walkTaskList false true m = some (k, m') ∧ m'.Holds l' [] := by
  have hall (c : TaskContent) : c.removed false true = true := by simp [TaskContent.removed]
  have hw := walkTaskList_spec false true h hl
  have hf : RemovedFirst false true cs := List.pairwise_of_forall fun c _ _ => hall c
  rw [if_pos hf] at hw
  simpa [hall] using hw

end RoboOne.TaskHandler
