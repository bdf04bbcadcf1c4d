import RoboOne.Library.Heap
import RoboOne.Library.Transition

namespace RoboOne.TaskHandler

def maxGuardCounter : Nat := 150

-- `TASK_PROTOCOL_HD` and `TASK_PROTOCOL_MOTION`. A message may contain any other value as well.
inductive RoboOneTaskProtocol
  | hd
  | motion
  | other (value : Int32)
deriving DecidableEq

-- The `detail` is a union of the requests and indications of all protocols.
structure RoboOneTaskContainer where
  protocol : RoboOneTaskProtocol
  detail   : List UInt8
deriving DecidableEq

structure RoboOneTaskReqHeader where
  handle                             : UInt32
  sourceServerPort                   : Int32
  sourceServerIpAddressStringPresent : Bool
  sourceServerIpAddressString        : List UInt8
deriving DecidableEq

structure RoboOneTaskReq where
  headerPresent : Bool
  header        : RoboOneTaskReqHeader
  body          : RoboOneTaskContainer
deriving DecidableEq

structure RoboOneTaskInd where
  handle : UInt8
  body   : RoboOneTaskContainer
deriving DecidableEq

-- The address of a task item. `PNULL` is `none`.
abbrev Addr := Nat

-- The address of the task item that is the root of the list, which is always there.
def gTaskListRoot : Addr := 0

-- Nothing else points to the memory of `pResult`, so that it is a part of the item here.
structure TaskItem where
  pPreviousTask : Option Addr
  pNextTask     : Option Addr
  taskCompleted : Bool
  task          : RoboOneTaskReq
  pResult       : Option RoboOneTaskInd
deriving DecidableEq

abbrev Memory := Heap Addr TaskItem

-- What `malloc` returns for the results of the tasks that a tick passes, one after the other. The
-- `detail` is what the handler of the protocol makes of it.
abbrev Results := Nat → Option RoboOneTaskInd

-- The results for the tasks behind the first one.
def Results.tail (results : Results) : Results :=
  fun n => results (n + 1)

-- The second component records what has been passed to `taskHandlerResponder`, oldest first.
structure State where
  memory : Memory
  sent   : List (RoboOneTaskReqHeader × RoboOneTaskInd)

def initTaskItem (item : TaskItem) : TaskItem :=
  { item with
    pNextTask     := none
    pPreviousTask := none
    taskCompleted := false
    pResult       := none }

-- The loop of `addTaskToList` from `pT` on, as long as `guardCounter` is below its limit. `none` is
-- the ASSERT behind the loop here and in the loops below, or that `pT` is no item.
def findEnd (m : Memory) : Nat → Addr → Option Addr
  | 0,     _  => none
  | n + 1, pT => do
    let item ← m.load pT
    match item.pNextTask with
    | none       => some pT
    | some pNext => findEnd m n pNext

def addTaskToList (pTaskItem : Addr) (m : Memory) : Option Memory := do
  let root ← m.load gTaskListRoot
  let item ← m.load pTaskItem
  if root.pPreviousTask = none ∧ item.pPreviousTask = none ∧ item.pNextTask = none then
    let pT ← findEnd m maxGuardCounter gTaskListRoot
    let m ← m.modify pTaskItem ({ · with pPreviousTask := some pT })
    m.modify pT ({ · with pNextTask := some pTaskItem })
  else
    none

-- The branch of the loop below that removes a task and frees it with its result. The first component
-- is the new `pThis`.
def removeTask (pThis : Addr) (pPrevious : Option Addr) (m : Memory) :
    Option (Option Addr × Memory) := do
  let item ← m.load pThis
  let m ← m.modifyNonNull item.pNextTask ({ · with pPreviousTask := item.pPreviousTask })
  let m ← m.modify pPrevious ({ · with pNextTask := item.pNextTask })
  let m ← m.free pThis
  let previous ← m.load pPrevious
  return (previous.pNextTask, m)

-- The tasks that the loop below removes.
def TaskItem.removed (item : TaskItem) (removeUnusedTasks clearAllTasks : Bool) : Bool :=
  (item.taskCompleted && item.pResult.isNone && removeUnusedTasks) || clearAllTasks

-- In the branch for the tasks that stay, the source sets `pPrevious` to the new `pThis`.
def walkLoop (removeUnusedTasks clearAllTasks : Bool) :
    Nat → Option Addr → Option Addr → UInt16 → Memory → Option (UInt16 × Memory)
  | 0,     _,          _,         _,     _ => none
  | _ + 1, none,       _,         count, m => some (count, m)
  | n + 1, some pThis, pPrevious, count, m => do
    let item ← m.load pThis
    if item.removed removeUnusedTasks clearAllTasks then
      let (pThis, m) ← removeTask pThis pPrevious m
      walkLoop removeUnusedTasks clearAllTasks n pThis pPrevious count m
    else
      walkLoop removeUnusedTasks clearAllTasks n item.pNextTask item.pNextTask (count + 1) m

-- The first component is the number of tasks left in the list.
def walkTaskList (removeUnusedTasks clearAllTasks : Bool) (m : Memory) :
    Option (UInt16 × Memory) := do
  let root ← m.load gTaskListRoot
  if root.pPreviousTask = none then
    walkLoop removeUnusedTasks clearAllTasks maxGuardCounter root.pNextTask gTaskListRoot 0 m
  else
    none

-- The common text of `doHDTask` and `doMotionTask`. The first component tells if the task was
-- completed.
def doProtocolTask (protocol : RoboOneTaskProtocol) (result : Option RoboOneTaskInd)
    (pTaskItem : Addr) (m : Memory) : Option (Bool × Memory) := do
  let item ← m.load pTaskItem
  if item.pResult = none then
    match result with
    | none     => return (false, m)
    | some ind =>
      let ind := { ind with body := { ind.body with protocol := protocol } }
      return (true, ← m.modify pTaskItem ({ · with pResult := some ind }))
  else
    none

def doHDTask : Option RoboOneTaskInd → Addr → Memory → Option (Bool × Memory) :=
  doProtocolTask .hd

def doMotionTask : Option RoboOneTaskInd → Addr → Memory → Option (Bool × Memory) :=
  doProtocolTask .motion

-- The indication has eight bits for the handle.
def doTaskCompleted (pTaskItem : Addr) (s : State) : Option State := do
  let item ← s.memory.load pTaskItem
  match item.pResult with
  | none     => return s
  | some ind =>
    if item.task.headerPresent then
      let ind := { ind with handle := item.task.header.handle.toUInt8 }
      return {
        memory := ← s.memory.modify pTaskItem ({ · with pResult := none })
        sent   := s.sent ++ [(item.task.header, ind)] }
    else
      return s

-- The switch in `tickTaskHandler`, whose default branch is an ASSERT.
def doTask (result : Option RoboOneTaskInd) (pT : Addr) (m : Memory) : Option Memory := do
  let item ← m.load pT
  if item.taskCompleted then
    return m
  else
    let (taskCompleted, m) ← (match item.task.body.protocol with
      | .hd      => doHDTask result pT m
      | .motion  => doMotionTask result pT m
      | .other _ => none : Option (Bool × Memory))
    m.modify pT ({ · with taskCompleted := taskCompleted })

-- The loop of `tickTaskHandler` behind the item `pT`.
def tickLoop : Nat → Addr → Results → State → Option State
  | 0,     _,  _,       _ => none
  | n + 1, pT, results, s => do
    let item ← s.memory.load pT
    match item.pNextTask with
    | none    => return s
    | some pT =>
      let m ← doTask (results 0) pT s.memory
      let s ← doTaskCompleted pT { s with memory := m }
      tickLoop n pT results.tail s

-- What happens to the root of the list.
def initTaskList (s : State) : Option State := do
  return { s with memory := ← s.memory.modify gTaskListRoot initTaskItem }

-- `clearTaskList` and `tickTaskHandler` return true, unless an ASSERT fails.
def clearTaskList (s : State) : Option State := do
  let (_, m) ← walkTaskList false true s.memory
  return { s with memory := m }

-- The first component is the success. The new item is where `malloc` says, if there is memory.
def handleNewTaskReq (taskReq : RoboOneTaskReq) (malloc : Option Addr) (s : State) :
    Option (Bool × State) :=
  match malloc with
  | none           => return (false, s)
  | some pTaskItem => do
    let item := initTaskItem ⟨none, none, false, taskReq, none⟩
    let m ← addTaskToList pTaskItem (Function.update s.memory pTaskItem (some item))
    return (true, { s with memory := m })

def tickTaskHandler (results : Results) (s : State) : Option State := do
  let root ← s.memory.load gTaskListRoot
  if root.pPreviousTask = none then
    let (_, m) ← walkTaskList false false s.memory
    let s ← tickLoop maxGuardCounter gTaskListRoot results { s with memory := m }
    let (_, m) ← walkTaskList true false s.memory
    return { s with memory := m }
  else
    none

-- The calls that the server makes for its messages, with the outcomes of `malloc`.
inductive Op
  | handleNewTaskReq (taskReq : RoboOneTaskReq) (malloc : Option Addr)
  | tickTaskHandler (results : Results)
  | clearTaskList

def step (s : State) : Op → Option State
  | .handleNewTaskReq taskReq malloc => (handleNewTaskReq taskReq malloc s).map Prod.snd
  | .tickTaskHandler results         => tickTaskHandler results s
  | .clearTaskList                   => clearTaskList s

-- `malloc` does not return memory that is in use.
def Fresh (s : State) : Op → Prop
  | .handleNewTaskReq _ malloc => ∀ a ∈ malloc, s.memory a = none
  | _                          => True

instance (s : State) : (op : Op) → Decidable (Fresh s op)
  | .handleNewTaskReq _ _ => inferInstanceAs (Decidable (∀ a ∈ _, _ = _))
  | .tickTaskHandler _    => inferInstanceAs (Decidable True)
  | .clearTaskList        => inferInstanceAs (Decidable True)

-- Nothing is allocated but the root of the list.
def boot (root : TaskItem) : State where
  memory := fun a => if a = gTaskListRoot then some root else none
  sent   := []

-- The state left by `TASK_HANDLER_SERVER_START`, whatever the root was before.
def started (root : TaskItem) : State :=
  boot (initTaskItem root)

theorem initTaskList_boot (root : TaskItem) : initTaskList (boot root) = some (started root) := by
  have hm : (boot root).memory.modify gTaskListRoot initTaskItem = some (started root).memory := by
    rw [Heap.modify_of_eq_some (v := root) (by simp [boot])]
    refine congrArg some <| funext fun a => ?_
    by_cases ha : a = gTaskListRoot
    case pos => simp [ha, started, boot]
    case neg => simp [ha, started, boot]
  rw [initTaskList, hm]
  rfl

end RoboOne.TaskHandler
