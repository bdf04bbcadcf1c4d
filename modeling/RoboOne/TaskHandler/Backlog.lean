import RoboOne.TaskHandler.Handler

namespace RoboOne.TaskHandler

-- `TASK_PROTOCOL_HD` or `TASK_PROTOCOL_MOTION`.
def RoboOneTaskProtocol.Valid (p : RoboOneTaskProtocol) : Prop :=
  p = hd ∨ p = motion

instance (p : RoboOneTaskProtocol) : Decidable p.Valid :=
  inferInstanceAs (Decidable (_ ∨ _))

def Op.Valid : Op → Prop
  | handleNewTaskReq taskReq _ => taskReq.body.protocol.Valid
  | _                          => True

instance : (op : Op) → Decidable op.Valid
  | .handleNewTaskReq _ _ => inferInstanceAs (Decidable (RoboOneTaskProtocol.Valid _))
  | .tickTaskHandler _    => inferInstanceAs (Decidable True)
  | .clearTaskList        => inferInstanceAs (Decidable True)

-- A task that has been accepted. It is completed when there is a result.
structure Task where
  req    : RoboOneTaskReq
  result : Option RoboOneTaskInd

namespace Task

-- The task is executed, unless it is completed or there is no memory for a result.
def run (result : Option RoboOneTaskInd) (t : Task) : Task :=
  { t with result := t.result.or <| result.map fun ind =>
      { ind with body := { ind.body with protocol := t.req.body.protocol } } }

-- Nobody waits for the result of a task without a header.
def answered (t : Task) : Bool :=
  t.req.headerPresent && t.result.isSome

-- What is sent when the task is answered.
def indication (t : Task) : Option (RoboOneTaskReqHeader × RoboOneTaskInd) :=
  if t.req.headerPresent then
    t.result.map fun ind => (t.req.header, { ind with handle := t.req.header.handle.toUInt8 })
  else
    none

end Task

-- All tasks are executed, one after the other.
def runTasks : List Task → Results → List Task
  | [],      _       => []
  | t :: ts, results => t.run (results 0) :: runTasks ts results.tail

-- The purpose of the task handler: the tasks that have been accepted and not removed, in the order in
-- which they arrived, and the indications that have been sent.
structure Backlog where
  tasks : List Task
  sent  : List (RoboOneTaskReqHeader × RoboOneTaskInd)

namespace Backlog

def empty : Backlog where
  tasks := []
  sent  := []

def step (l : Backlog) : Op → Backlog
  | .handleNewTaskReq _       none     => l
  | .handleNewTaskReq taskReq (some _) => { l with tasks := l.tasks ++ [⟨taskReq, none⟩] }
  | .tickTaskHandler results           => {
      tasks := (runTasks l.tasks results).filter (!·.answered)
      sent  := l.sent ++ (runTasks l.tasks results).filterMap Task.indication }
  | .clearTaskList                     => { l with tasks := [] }

-- The limit of the source on the length of the list is not reached, and the protocol of a new task is
-- valid.
def Admits (l : Backlog) (op : Op) : Prop :=
  l.tasks.length < maxGuardCounter ∧ op.Valid

-- No tick answers a task that stands behind one which it does not answer.
def InTurn (l : Backlog) : Op → Prop
  | .tickTaskHandler results =>
    (runTasks l.tasks results).Pairwise fun t t' => t'.answered → t.answered
  | _                        => True

instance (l : Backlog) (op : Op) : Decidable (l.Admits op) :=
  inferInstanceAs (Decidable (_ ∧ _))

instance (l : Backlog) : (op : Op) → Decidable (l.InTurn op)
  | .tickTaskHandler _    => inferInstanceAs (Decidable (List.Pairwise _ _))
  | .handleNewTaskReq _ _ => inferInstanceAs (Decidable True)
  | .clearTaskList        => inferInstanceAs (Decidable True)

-- `P` holds of all calls, with the backlogs that they find.
abbrev Along (P : Backlog → Op → Prop) (ops : List Op) : Prop :=
  Transition.Along (fun l op => some (step l op)) P empty ops

-- The backlog behind a list of calls.
def after (ops : List Op) : Backlog :=
  ops.foldl step empty

end Backlog

end RoboOne.TaskHandler
