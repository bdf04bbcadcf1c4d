import RoboOne.TaskHandler.Lists

namespace RoboOne.TaskHandler

open Transition

namespace Task

def Valid (t : Task) : Prop :=
  t.req.body.protocol.Valid

-- How a task is stored between the calls.
def content (t : Task) : TaskContent where
  taskCompleted := t.result.isSome
  task          := t.req
  pResult       := t.result

-- How a task is stored when the tick has been at it. The result that was sent is gone.
def ranContent (t : Task) : TaskContent where
  taskCompleted := t.result.isSome
  task          := t.req
  pResult       := if t.req.headerPresent then none else t.result

theorem removed_ranContent (t : Task) : t.ranContent.removed true false = t.answered := by
  cases hh : t.req.headerPresent <;> cases hr : t.result <;>
    simp [TaskContent.removed, ranContent, answered, hh, hr]

theorem ranContent_of_not_answered {t : Task} (h : t.answered = false) :
    t.ranContent = t.content := by
  cases hh : t.req.headerPresent <;> cases hr : t.result <;>
    simp_all [ranContent, content, answered]

end Task

variable {m m' : Memory} {s s' : State} {a pT : Addr} {p : Option Addr} {l : List Addr}
  {c : TaskContent} {t : Task} {ts : List Task} {n : Nat} {r : Results}

-- The content of an item has changed, and nothing else.
structure Rewritten (a : Addr) (c : TaskContent) (m m' : Memory) : Prop where
  links   : m'.links = m.links
  content : m'.content = Function.update m.content a (some c)

theorem Rewritten.trans {c' : TaskContent} {m'' : Memory} (h : Rewritten a c m m')
    (h' : Rewritten a c' m' m'') : Rewritten a c' m m'' where
  links   := h'.links.trans h.links
  content := by rw [h'.content, h.content, Function.update_idem]

theorem Rewritten.self (h : m.content a = some c) : Rewritten a c m m where
  links   := rfl
  content := by rw [← h, Function.update_eq_self]

theorem Rewritten.content_self (h : Rewritten a c m m') : m'.content a = some c := by
  rw [h.content, Function.update_self]

theorem modify_rewrites {f : TaskItem → TaskItem} {item : TaskItem} (ha : m a = some item)
    (hp : (f item).pPreviousTask = item.pPreviousTask) (hn : (f item).pNextTask = item.pNextTask) :
    ∃ m' : Memory, m.modify (some a) f = some m' ∧ Rewritten a (f item).content m m' := by
  refine ⟨_, Heap.modify_of_eq_some ha, ?links, ?content⟩
  case links =>
    refine (Heap.links_setNext ha hp rfl).trans ?_
    rw [hn]
    exact Links.setNext_eq_self (pNextTask_eq ha).symm
  case content =>
    funext b
    by_cases hb : b = a
    case pos => subst hb; simp [Memory.content]
    case neg => simp [Memory.content, hb]

theorem doProtocolTask_spec (protocol : RoboOneTaskProtocol) (result : Option RoboOneTaskInd)
    (ha : m.content a = some c) (hc : c.pResult = none) : ∃ m',
    doProtocolTask protocol result a m = some (result.isSome, m') ∧
      Rewritten a { c with
        pResult := result.map fun ind =>
          { ind with body := { ind.body with protocol := protocol } } } m m' := by
  obtain ⟨item, hi, rfl⟩ := content_eq_some ha
  have hc : item.pResult = none := hc
  cases result
  case none =>
    have he : { item.content with pResult := none } = item.content := by
      rw [← hc]
      rfl
    refine ⟨m, by simp [doProtocolTask, hi, hc], ?_⟩
    rw [Option.map_none, he]
    exact .self ha
  case some ind =>
    have ⟨m', hm', h⟩ := modify_rewrites (f := ({ · with
      pResult := some { ind with body := { ind.body with protocol := protocol } } })) hi rfl rfl
    exact ⟨m', by simp [doProtocolTask, hi, hc, hm'], h⟩

theorem doTask_spec (result : Option RoboOneTaskInd) (ha : m.content a = some t.content)
    (hv : t.Valid) : ∃ m', doTask result a m = some m' ∧ Rewritten a (t.run result).content m m' := by
  obtain ⟨item, hi, hc⟩ := content_eq_some ha
  have hcompleted : item.taskCompleted = t.result.isSome := congrArg TaskContent.taskCompleted hc
  have htask : item.task = t.req := congrArg TaskContent.task hc
  cases hr : t.result
  case some ind =>
    -- The task has been completed by an earlier tick.
    have ht : t.run result = t := by
      rw [Task.run, hr, Option.some_or, ← hr]
    refine ⟨m, by simp [doTask, hi, hcompleted, hr], ?_⟩
    rw [ht]
    exact .self ha
  case none =>
    have hp := doProtocolTask_spec t.req.body.protocol result ha hr
    have ⟨m₁, hm₁, h₁⟩ := hp
    obtain ⟨item₁, hi₁, hc₁⟩ := content_eq_some h₁.content_self
    have ⟨m₂, hm₂, h₂⟩ := modify_rewrites
      (f := ({ · with taskCompleted := result.isSome })) hi₁ rfl rfl
    have he : { item₁ with taskCompleted := result.isSome }.content = (t.run result).content := by
      have htask₁ : item₁.task = t.req := congrArg TaskContent.task hc₁
      have hres₁ := congrArg TaskContent.pResult hc₁
      simp only [TaskItem.content, Task.content, Task.run, hr, htask₁, Option.none_or,
        Option.isSome_map]
      exact congrArg _ hres₁
    refine ⟨m₂, ?_, he ▸ h₁.trans h₂⟩
    cases hv
    case inl hv =>
      rw [hv] at hm₁
      simp [doTask, hi, hcompleted, hr, htask, hv, doHDTask, hm₁, hm₂]
    case inr hv =>
      rw [hv] at hm₁
      simp [doTask, hi, hcompleted, hr, htask, hv, doMotionTask, hm₁, hm₂]

theorem doTaskCompleted_spec (ha : s.memory.content a = some t.content) :
    ∃ m, doTaskCompleted a s = some ⟨m, s.sent ++ t.indication.toList⟩ ∧
      Rewritten a t.ranContent s.memory m := by
  obtain ⟨item, hi, hc⟩ := content_eq_some ha
  have htask : item.task = t.req := congrArg TaskContent.task hc
  have hresult : item.pResult = t.result := congrArg TaskContent.pResult hc
  by_cases hw : t.answered
  case neg =>
    have hw : t.answered = false := by simpa using hw
    rw [Task.ranContent_of_not_answered hw]
    refine ⟨s.memory, ?_, .self ha⟩
    cases hh : t.req.headerPresent <;> cases hr : t.result <;>
      simp_all [doTaskCompleted, Task.indication, Task.answered]
  case pos =>
    have ⟨hh, hs⟩ := Bool.and_eq_true_iff.mp hw
    have ⟨ind, hr⟩ := Option.isSome_iff_exists.mp hs
    have ⟨m', hm', h⟩ := modify_rewrites (f := ({ · with pResult := none })) hi rfl rfl
    have he : { item with pResult := none }.content = t.ranContent := by
      have hcompleted : item.taskCompleted = t.result.isSome :=
        congrArg TaskContent.taskCompleted hc
      simp [TaskItem.content, Task.ranContent, hh, htask, hcompleted]
    refine ⟨m', ?_, he ▸ h⟩
    simp [doTaskCompleted, Task.indication, hi, hresult, hr, htask, hh, hm']

-- A tick executes the tasks one after the other, and leaves the list as it is.
theorem tickLoop_spec (hs : s.memory.links.Seg p (pT :: l) none) (hr : (s.memory pT).isSome)
    (hd : (pT :: l).Nodup) (hc : l.map s.memory.content = ts.map (some ·.content))
    (hv : ∀ t ∈ ts, t.Valid) (hn : l.length < n) : ∃ s', tickLoop n pT r s = some s' ∧
      s'.memory.links = s.memory.links ∧
      (∀ a, a ∉ l → s'.memory.content a = s.memory.content a) ∧
      l.map s'.memory.content = (runTasks ts r).map (some ·.ranContent) ∧
      s'.sent = s.sent ++ (runTasks ts r).filterMap Task.indication := by
  induction l generalizing s pT p ts n r
  case nil =>
    obtain ⟨n, rfl⟩ := Nat.exists_eq_add_one_of_ne_zero (Nat.ne_zero_of_lt hn)
    have ⟨item, hi⟩ := Option.isSome_iff_exists.mp hr
    cases ts
    case nil       => exact ⟨s, by simp [tickLoop, hi, pNextTask_of_seg hs hi], by simp [runTasks]⟩
    case cons t ts => cases hc
  case cons a l ih =>
    obtain ⟨n, rfl⟩ := Nat.exists_eq_add_one_of_ne_zero (Nat.ne_zero_of_lt hn)
    have ⟨item, hi⟩ := Option.isSome_iff_exists.mp hr
    cases ts
    case nil => cases hc
    case cons t ts =>
      have ⟨ha, hcs⟩ := List.cons.inj hc
      have ⟨hda, hdl⟩ := List.nodup_cons.mp (List.nodup_cons.mp hd).right
      have ⟨m₁, hm₁, h₁⟩ := doTask_spec (r 0) ha (hv t (by simp))
      have ⟨m₂, hm₂, h₂⟩ := doTaskCompleted_spec (s := { s with memory := m₁ }) h₁.content_self
      have h : Rewritten a (t.run (r 0)).ranContent s.memory m₂ := h₁.trans h₂
      have hne {b : Addr} (hb : b ≠ a) : m₂.content b = s.memory.content b := by
        rw [h.content, Function.update_of_ne hb]
      have hcs' : l.map m₂.content = ts.map (some ·.content) := by
        rw [← hcs]
        exact List.map_congr_left fun b hb => hne fun he => hda (he ▸ hb)
      have hi₂ : (m₂ a).isSome := by rw [← isSome_content, h.content_self]; rfl
      have hs₂ : m₂.links.Seg (some pT) (a :: l) none := h.links ▸ hs.right.right
      have ⟨s', hs', hlinks, hsame, hran, hsent⟩ :=
        ih (s := ⟨m₂, s.sent ++ (t.run (r 0)).indication.toList⟩) (r := r.tail)
          hs₂ hi₂ (List.nodup_cons.mp hd).right hcs' (fun t hm => hv t (by simp [hm]))
          (Nat.lt_of_succ_lt_succ hn)
      refine ⟨s', ?run, hlinks.trans h.links, fun b hb => ?same, ?ran, ?sent⟩
      case run => simp [tickLoop, hi, pNextTask_of_seg hs hi, hm₁, hm₂, hs']
      case same =>
        have hba : b ≠ a := fun he => hb (by simp [he])
        have hbl : b ∉ l := fun hm => hb (by simp [hm])
        exact (hsame b hbl).trans (hne hba)
      case ran =>
        have hra := (hsame a hda).trans h.content_self
        simp [runTasks, hra, hran]
      case sent =>
        rw [hsent, runTasks, List.append_assoc, List.filterMap_cons]
        cases (t.run (r 0)).indication <;> rfl

-- The list holds the tasks of the backlog, and what the backlog has sent has been sent.
structure Refines (s : State) (l : Backlog) : Prop where
  holds : ∃ as, s.memory.Holds as (l.tasks.map Task.content)
  sent  : s.sent = l.sent
  valid : ∀ t ∈ l.tasks, t.Valid

variable {b : Backlog} {taskReq : RoboOneTaskReq} {malloc : Option Addr} {cs : List TaskContent}

theorem Memory.Holds.length_eq (h : m.Holds l cs) : l.length = cs.length := by
  simpa using congrArg List.length h.contents

theorem isSome_of_contents (h : l.map m.content = cs.map some) (ha : a ∈ l) : (m a).isSome := by
  have hm : m.content a ∈ cs.map some := h ▸ List.mem_map_of_mem ha
  have ⟨c, _, hc⟩ := List.mem_map.mp hm
  rw [← isSome_content, ← hc]
  rfl

theorem refines_started (root : TaskItem) : Refines (started root) .empty where
  holds := by
    refine ⟨[], ⟨rfl, by simp, ?seg⟩, rfl, fun a => ?inUse⟩
    case seg   => exact ⟨rfl, rfl, trivial⟩
    case inUse => by_cases ha : a = gTaskListRoot <;> simp [started, boot, ha]
  sent  := rfl
  valid := by simp [Backlog.empty]

-- A new task is put at the end of the list.
theorem Memory.Holds.add (taskReq : RoboOneTaskReq) (h : m.Holds l cs) (ha : m a = none)
    (hl : l.length < maxGuardCounter) :
    ∃ m', addTaskToList a (Function.update m a
      (some (initTaskItem ⟨none, none, false, taskReq, none⟩))) = some m' ∧
        m'.Holds (l ++ [a]) (cs ++ [Task.content ⟨taskReq, none⟩]) := by
  have hal : a ∉ gTaskListRoot :: l := fun hm => by simpa [ha] using (h.inUse a).mpr hm
  have hne {x : Addr} (hx : x ∈ gTaskListRoot :: l) : x ≠ a := fun he => hal (he ▸ hx)
  generalize hi : initTaskItem ⟨none, none, false, taskReq, none⟩ = item
  have hlist : Links.IsList (Memory.links (Function.update m a (some item)))
      (some gTaskListRoot) (gTaskListRoot :: l) := Heap.isList_update h.isList hal
  have huse : ∀ x ∈ gTaskListRoot :: l, (Function.update m a (some item) x).isSome := by
    intro x hx
    rw [Function.update_of_ne (hne hx)]
    exact (h.inUse x).mpr hx
  have ⟨m', hm', hr⟩ := addTaskToList_spec hlist huse hl (Function.update_self ..) hal
    (by rw [← hi]; rfl) (by rw [← hi]; rfl)
  refine ⟨m', hm', ?isList, ?contents, fun x => ?inUse⟩
  case isList =>
    rw [hr.links]
    exact hlist.link hal
  case contents =>
    have hc : l.map m'.content = l.map m.content := by
      refine List.map_congr_left fun x hx => ?_
      rw [hr.content, Memory.content, Function.update_of_ne (hne (by simp [hx]))]
      rfl
    have hca : m'.content a = some (Task.content ⟨taskReq, none⟩) := by
      rw [hr.content, Memory.content, Function.update_self, ← hi]
      rfl
    simp [hc, hca, h.contents]
  case inUse =>
    rw [hr.isSome]
    by_cases hx : x = a
    case pos => subst hx; simp
    case neg =>
      rw [Function.update_of_ne hx, h.inUse]
      simp [hx]

theorem Refines.handleNewTaskReq (h : Refines s b) (hf : Fresh s (.handleNewTaskReq taskReq malloc))
    (hb : b.tasks.length < maxGuardCounter) (hv : taskReq.body.protocol.Valid) :
    ∃ s', step s (.handleNewTaskReq taskReq malloc) = some s' ∧
      Refines s' (b.step (.handleNewTaskReq taskReq malloc)) := by
  cases malloc
  case none => exact ⟨s, rfl, h⟩
  case some a =>
    have ⟨as, has⟩ := h.holds
    have hl : as.length < maxGuardCounter := by rw [has.length_eq, List.length_map]; exact hb
    have ⟨m', hm', h'⟩ := has.add taskReq (hf a rfl) hl
    refine ⟨⟨m', s.sent⟩, by simp [step, TaskHandler.handleNewTaskReq, hm'], ?_, h.sent, ?_⟩
    case refine_1 => exact ⟨as ++ [a], by simpa [Backlog.step] using h'⟩
    case refine_2 =>
      intro t ht
      rcases List.mem_append.mp ht with ht | ht
      case inl => exact h.valid t ht
      case inr =>
        rw [List.mem_singleton.mp ht]
        exact hv

theorem Refines.clearTaskList (h : Refines s b) (hb : b.tasks.length < maxGuardCounter) :
    ∃ s', step s .clearTaskList = some s' ∧ Refines s' (b.step .clearTaskList) := by
  have ⟨as, has⟩ := h.holds
  have hl : as.length < maxGuardCounter := by rw [has.length_eq, List.length_map]; exact hb
  have ⟨count, m', l', hm', h'⟩ := walkTaskList_clear has hl
  refine ⟨⟨m', s.sent⟩, by simp [step, TaskHandler.clearTaskList, hm'], ?_, h.sent, ?_⟩
  case refine_1 => exact ⟨l', h'⟩
  case refine_2 => simp [Backlog.step]

theorem inTurn_iff : b.InTurn (.tickTaskHandler r) ↔
    RemovedFirst true false ((runTasks b.tasks r).map Task.ranContent) := by
  simp [Backlog.InTurn, RemovedFirst, List.pairwise_map, Task.removed_ranContent]

theorem filter_ranContent : (ts.map Task.ranContent).filter (!·.removed true false) =
    (ts.filter (!·.answered)).map Task.content := by
  rw [List.filter_map]
  have hf : ((fun c : TaskContent => !c.removed true false) ∘ Task.ranContent) = (!·.answered) :=
    funext fun t => by simp [Task.removed_ranContent]
  rw [hf]
  refine List.map_congr_left fun t ht => ?_
  have ht := (List.mem_filter.mp ht).right
  exact Task.ranContent_of_not_answered (by simpa using ht)

theorem valid_runTasks (h : ∀ t ∈ ts, t.Valid) : ∀ t ∈ runTasks ts r, t.Valid := by
  induction ts generalizing r
  case nil => simp [runTasks]
  case cons t ts ih =>
    have ⟨ht, hts⟩ := List.forall_mem_cons.mp h
    exact List.forall_mem_cons.mpr ⟨ht, ih hts⟩

-- The list behind the execution of the tasks.
theorem Refines.tickLoop (r : Results) (h : Refines s b) (hb : b.tasks.length < maxGuardCounter) :
    ∃ s' as, TaskHandler.tickLoop maxGuardCounter gTaskListRoot r s = some s' ∧
      s'.memory.Holds as ((runTasks b.tasks r).map Task.ranContent) ∧
      as.length < maxGuardCounter ∧
      s'.sent = s.sent ++ (runTasks b.tasks r).filterMap Task.indication := by
  have ⟨as, has⟩ := h.holds
  have hl : as.length < maxGuardCounter := by rw [has.length_eq, List.length_map]; exact hb
  have ⟨root, hr, _⟩ := has.root
  have ⟨s₁, hs₁, hlinks, hsame, hran, hsent⟩ := tickLoop_spec (r := r) has.isList.seg
    (by simp [hr]) has.isList.nodup (has.contents.trans List.map_map) h.valid hl
  have hc := hran.trans (List.map_map (f := Task.ranContent) (g := some)).symm
  refine ⟨s₁, as, hs₁, ⟨hlinks.symm ▸ has.isList, hc, fun a => ?_⟩, hl, hsent⟩
  rw [← has.inUse]
  by_cases ha : a ∈ as
  case pos => simp [isSome_of_contents hc ha, isSome_of_contents has.contents ha]
  case neg => rw [← isSome_content, hsame a ha, isSome_content]

theorem Refines.tickTaskHandler (h : Refines s b) (hb : b.tasks.length < maxGuardCounter) :
    (b.InTurn (.tickTaskHandler r) → ∃ s', step s (.tickTaskHandler r) = some s' ∧
      Refines s' (b.step (.tickTaskHandler r))) ∧
    (¬b.InTurn (.tickTaskHandler r) → step s (.tickTaskHandler r) = none) := by
  have ⟨as, has⟩ := h.holds
  have hl : as.length < maxGuardCounter := by rw [has.length_eq, List.length_map]; exact hb
  have ⟨root, hr, hp, _⟩ := has.root
  have ⟨count, hcount⟩ := walkTaskList_count has hl
  have ⟨s₁, as₁, hs₁, h₁, hl₁, hsent⟩ := h.tickLoop r hb
  have hstep : step s (.tickTaskHandler r) =
      (walkTaskList true false s₁.memory).map fun r => { s₁ with memory := r.snd } := by
    rw [Option.map_eq_bind]
    simp only [step, TaskHandler.tickTaskHandler, Heap.load_some, hr, hp, hcount, hs₁,
      Option.bind_eq_bind, Option.bind_some, ↓reduceIte]
    rfl
  have hw := walkTaskList_spec true false h₁ hl₁
  rw [hstep, inTurn_iff]
  constructor
  case left =>
    intro hi
    rw [if_pos hi] at hw
    have ⟨count, m', l', hm', h'⟩ := hw
    refine ⟨⟨m', s₁.sent⟩, by simp [hm'], ?_, ?_, ?_⟩
    case refine_1 => exact ⟨l', by simpa [Backlog.step, filter_ranContent] using h'⟩
    case refine_2 => simp [Backlog.step, hsent, h.sent]
    case refine_3 =>
      intro t ht
      exact valid_runTasks h.valid t (List.mem_filter.mp ht).left
  case right =>
    intro hi
    rw [if_neg hi] at hw
    simp [hw]

theorem Refines.step {op : Op} (h : Refines s b) (hf : Fresh s op) (hb : b.Admits op) :
    (b.InTurn op → ∃ s', TaskHandler.step s op = some s' ∧ Refines s' (b.step op)) ∧
      (¬b.InTurn op → TaskHandler.step s op = none) := by
  cases op
  case handleNewTaskReq =>
    exact ⟨fun _ => h.handleNewTaskReq hf hb.left hb.right, fun hn => absurd trivial hn⟩
  case tickTaskHandler => exact h.tickTaskHandler hb.left
  case clearTaskList   => exact ⟨fun _ => h.clearTaskList hb.left, fun hn => absurd trivial hn⟩

-- The list from the root is exactly the list of the tasks that have been accepted and not removed, in
-- the order of their arrival. Its links are consistent, and all of its items are in use.
structure Intact (s : State) (ts : List Task) (as : List Addr) : Prop where
  isList : s.memory.links.IsList (some gTaskListRoot) (gTaskListRoot :: as)
  tasks  : as.map s.memory.content = ts.map (some ·.content)
  inUse  : ∀ a ∈ as, (s.memory a).isSome

theorem Refines.intact (h : Refines s b) : ∃ as, Intact s b.tasks as := by
  have ⟨as, has⟩ := h.holds
  exact ⟨as, has.isList, has.contents.trans List.map_map, fun a ha =>
    (has.inUse a).mpr (by simp [ha])⟩

theorem tracks : Tracks step Backlog.step Fresh Backlog.Admits Backlog.InTurn Refines where
  follows h hf hb := (h.step hf hb).left
  stuck h hf hb   := (h.step hf hb).right

-- The list is intact after every call, if and only if no tick answers a task that stands behind one
-- which it does not answer.
theorem task_list_intact_iff (root : TaskItem) (ops : List Op)
    (hf : Along step Fresh (started root) ops) (hb : Backlog.Along Backlog.Admits ops) :
    (∀ js, js <+: ops → ∃ s as, run step (started root) js = some s ∧
        Intact s (Backlog.after js).tasks as) ↔
      Backlog.Along Backlog.InTurn ops := by
  constructor
  case mp =>
    intro h
    have ⟨s, _, hs, _⟩ := h ops (List.prefix_refl ops)
    exact tracks.along (refines_started root) hf hb hs
  case mpr =>
    intro hi js hjs
    have ⟨s, hs, h⟩ := tracks.run (refines_started root) (hf.initial hjs) (hb.initial hjs)
      (hi.initial hjs)
    have ⟨as, has⟩ := h.intact
    exact ⟨s, as, hs, has⟩

-- A request without a header, or with a header that has the given handle.
def request (protocol : RoboOneTaskProtocol) (handle : Option UInt32) : RoboOneTaskReq where
  headerPresent := handle.isSome
  header        := ⟨handle.getD 0, 5234, false, []⟩
  body          := ⟨protocol, []⟩

def emptyRoot : TaskItem where
  pPreviousTask := none
  pNextTask     := none
  taskCompleted := false
  task          := request .hd none
  pResult       := none

-- There is memory for all results.
def allResults : Results :=
  fun _ => some ⟨0, .hd, []⟩

-- The task without a header is the last one.
def answeredFirst : List Op :=
  [.handleNewTaskReq (request .hd (some 1)) (some 1), .handleNewTaskReq (request .motion none) (some 2),
    .tickTaskHandler allResults, .clearTaskList]

theorem task_list_intact_iff_answeredFirst :
    (∀ js, js <+: answeredFirst → ∃ s as, run step (started emptyRoot) js = some s ∧
        Intact s (Backlog.after js).tasks as) ↔
      Backlog.Along Backlog.InTurn answeredFirst :=
  task_list_intact_iff emptyRoot answeredFirst (by decide) (by decide)

-- The task without a header is the first one.
def answeredLast : List Op :=
  [.handleNewTaskReq (request .motion none) (some 1), .handleNewTaskReq (request .hd (some 1)) (some 2),
    .tickTaskHandler allResults]

theorem task_list_not_intact : ¬∀ (root : TaskItem) (ops : List Op),
    Along step Fresh (started root) ops → Backlog.Along Backlog.Admits ops →
      ∀ js, js <+: ops → ∃ s as, run step (started root) js = some s ∧
        Intact s (Backlog.after js).tasks as := by
  intro h
  have ⟨s, _, hs, _⟩ := h emptyRoot answeredLast (by decide) (by decide) answeredLast
    (List.prefix_refl _)
  have hn : (run step (started emptyRoot) answeredLast).isSome = false := by decide
  simp [hs] at hn

end RoboOne.TaskHandler
