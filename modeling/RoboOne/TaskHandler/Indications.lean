import Mathlib.Algebra.GroupWithZero.Nat
import Mathlib.Data.List.DropRight
import Mathlib.Data.List.Forall2
import RoboOne.TaskHandler.Reclaim

namespace RoboOne.TaskHandler

open Transition

-- A request with a header and with a valid protocol, or a tick. There is memory for what they need.
def Op.Served : Op → Prop
  | handleNewTaskReq taskReq malloc =>
    taskReq.headerPresent ∧ taskReq.body.protocol.Valid ∧ malloc.isSome
  | tickTaskHandler results         => ∀ n, (results n).isSome
  | clearTaskList                   => False

-- The requests among the calls.
def requests (ops : List Op) : List RoboOneTaskReq :=
  ops.filterMap fun
    | .handleNewTaskReq taskReq _ => some taskReq
    | _                           => none

-- The calls up to the last tick, and those since.
def ticked (ops : List Op) : List Op :=
  ops.rdropWhile Op.isRequest

def sinceTick (ops : List Op) : List Op :=
  ops.rtakeWhile Op.isRequest

-- What has been passed to `taskHandlerResponder` is the indication for the request.
structure Indicates (sent : RoboOneTaskReqHeader × RoboOneTaskInd) (req : RoboOneTaskReq) : Prop where
  header : sent.fst = req.header
  handle : sent.snd.handle.toNat = req.header.handle.toNat

-- The same, with what is left of the handle.
structure Answers (sent : RoboOneTaskReqHeader × RoboOneTaskInd) (req : RoboOneTaskReq) : Prop where
  header : sent.fst = req.header
  handle : sent.snd.handle = req.header.handle.toUInt8

variable {s : State} {ops js : List Op} {op : Op} {r : Results} {reqs : List RoboOneTaskReq}
  {req : RoboOneTaskReq} {sent : List (RoboOneTaskReqHeader × RoboOneTaskInd)}
  {x : RoboOneTaskReqHeader × RoboOneTaskInd} {root : TaskItem}

-- Eight bits are left of the handle.
theorem Answers.indicates_iff (h : Answers x req) :
    Indicates x req ↔ req.header.handle.toNat < 2 ^ 8 := by
  have hh : x.snd.handle.toNat = req.header.handle.toNat % 2 ^ 8 := by
    rw [h.handle, UInt32.toNat_toUInt8]
  constructor
  case mp  => exact fun hi => by rw [← hi.handle]; exact x.snd.handle.toNat_lt
  case mpr => exact fun hlt => ⟨h.header, hh.trans (Nat.mod_eq_of_lt hlt)⟩

theorem indicates_iff (h : List.Forall₂ Answers sent reqs) :
    List.Forall₂ Indicates sent reqs ↔ ∀ req ∈ reqs, req.header.handle.toNat < 2 ^ 8 := by
  induction h
  case nil => simp
  case cons hx _ ih => rw [List.forall₂_cons, List.forall_mem_cons, hx.indicates_iff, ih]

-- The backlog behind the calls: the requests up to the last tick have been answered, and the others
-- wait.
structure Waits (ops : List Op) (b : Backlog) : Prop where
  tasks : b.tasks = (requests (sinceTick ops)).map (⟨·, none⟩)
  sent  : List.Forall₂ Answers b.sent (requests (ticked ops))

theorem requests_append : requests (ops ++ js) = requests ops ++ requests js :=
  List.filterMap_append ..

theorem requests_ticked : requests (ticked ops) ++ requests (sinceTick ops) = requests ops := by
  rw [← requests_append, ticked, sinceTick, List.rdropWhile_append_rtakeWhile]

-- Where all requests have headers, and there is memory for all results, a tick answers all tasks.
theorem answered_runTasks (hh : ∀ req ∈ reqs, req.headerPresent) (hr : ∀ n, (r n).isSome) :
    (∀ t ∈ runTasks (reqs.map (⟨·, none⟩)) r, t.answered) ∧
      List.Forall₂ Answers ((runTasks (reqs.map (⟨·, none⟩)) r).filterMap Task.indication) reqs := by
  induction reqs generalizing r
  case nil => simp [runTasks]
  case cons req reqs ih =>
    obtain ⟨hh, hhs⟩ := List.forall_mem_cons.mp hh
    obtain ⟨ind, hi⟩ := Option.isSome_iff_exists.mp (hr 0)
    obtain ⟨ha, hf⟩ := ih (r := r.tail) hhs fun n => hr (n + 1)
    constructor
    case left  =>
      refine List.forall_mem_cons.mpr ⟨?_, ha⟩
      simp [Task.answered, Task.run, hh, hi]
    case right =>
      simp only [List.map_cons, runTasks, Task.run, Task.indication, hh, hi, Option.none_or,
        Option.map_some, List.filterMap_cons, ↓reduceIte]
      exact .cons ⟨rfl, rfl⟩ hf

theorem header_of_served (hs : ∀ op ∈ ops, op.Served) : ∀ req ∈ requests ops, req.headerPresent := by
  intro req hr
  have ⟨op, ho, he⟩ := List.mem_filterMap.mp hr
  cases op
  case handleNewTaskReq taskReq malloc =>
    obtain rfl := Option.some.inj he
    exact (hs _ ho).left
  all_goals cases he

theorem Op.Served.valid (h : op.Served) : op.Valid := by
  cases op
  case handleNewTaskReq => exact h.right.left
  all_goals trivial

variable {b : Backlog}

theorem Waits.length_le (h : Waits ops b) : b.tasks.length ≤ (sinceTick ops).length := by
  rw [h.tasks, List.length_map]
  exact List.length_filterMap_le ..

theorem Waits.step (h : Waits ops b) (hs : ∀ op ∈ ops, op.Served) (ho : op.Served) :
    b.InTurn op ∧ Waits (ops ++ [op]) (b.step op) := by
  rcases op with ⟨taskReq, _ | a⟩ | r | _
  case handleNewTaskReq.none => exact absurd ho.right.right (by decide)
  case handleNewTaskReq.some =>
    refine ⟨trivial, ?tasks, ?sent⟩
    case tasks =>
      rw [sinceTick, List.rtakeWhile_concat_pos _ _ _ rfl, requests_append]
      simp [Backlog.step, h.tasks, sinceTick, requests]
    case sent =>
      rw [ticked, List.rdropWhile_concat_pos _ _ _ rfl]
      exact h.sent
  case tickTaskHandler =>
    have hh : ∀ req ∈ requests (sinceTick ops), req.headerPresent :=
      header_of_served fun op hm => hs op ((List.rtakeWhile_suffix _ _).subset hm)
    obtain ⟨ha, hf⟩ := answered_runTasks hh ho
    rw [← h.tasks] at ha hf
    refine ⟨List.pairwise_of_forall_mem_list fun t ht _ _ _ => ha t ht, ?tasks, ?sent⟩
    case tasks =>
      rw [sinceTick, List.rtakeWhile_concat_neg _ _ _ (by simp [Op.isRequest])]
      exact List.filter_eq_nil_iff.mpr fun t ht => by simp [ha t ht]
    case sent =>
      rw [ticked, List.rdropWhile_concat_neg _ _ _ (by simp [Op.isRequest]), requests_append,
        ← requests_ticked]
      simpa [Backlog.step, requests] using List.rel_append h.sent hf
  case clearTaskList => exact absurd ho id

theorem ticked_initial (h : js <+: ops) : ticked js <+: ticked ops := by
  induction ops using List.reverseRecOn
  case nil =>
    obtain rfl := List.prefix_nil.mp h
    exact List.prefix_refl _
  case append_singleton ops op ih =>
    rcases List.prefix_concat_iff.mp h with rfl | h
    case inl => exact List.prefix_refl _
    case inr =>
      refine (ih h).trans ?_
      rw [ticked, ticked, List.rdropWhile_concat]
      split
      case isTrue  => exact List.prefix_refl _
      case isFalse => exact (List.rdropWhile_prefix ..).trans (List.prefix_append ..)

theorem run_served (hf : Along step Fresh (started root) ops) (hs : ∀ op ∈ ops, op.Served)
    (hn : ∀ js, js <+: ops → (sinceTick js).length < maxGuardCounter) :
    ∃ s, run step (started root) ops = some s ∧ Refines s (Backlog.after ops) ∧
      Waits ops (Backlog.after ops) := by
  induction ops using List.reverseRecOn
  case nil => exact ⟨_, rfl, refines_started root, rfl, .nil⟩
  case append_singleton ops op ih =>
    have hops : ops <+: ops ++ [op] := List.prefix_append ..
    have hserved : ∀ op ∈ ops, op.Served := fun op hm => hs op (by simp [hm])
    have ⟨s, hrun, hr, hw⟩ := ih (hf.initial hops) hserved fun js hjs => hn js (hjs.trans hops)
    have ho : op.Served := hs op (by simp)
    have ⟨hi, hw'⟩ := hw.step hserved ho
    have hl : (Backlog.after ops).tasks.length < maxGuardCounter :=
      Nat.lt_of_le_of_lt hw.length_le (hn ops hops)
    have ⟨s', hs', hr'⟩ := (hr.step (hf.at hrun) ⟨hl, ho.valid⟩).left hi
    rw [Backlog.after_append]
    exact ⟨s', (run_concat hrun).trans hs', hr', hw'⟩

-- Every request results in exactly one indication with its header and its handle, in the order of the
-- requests, if and only if the handles of the requests that a tick has answered have eight bits.
theorem tasks_indicated_iff (root : TaskItem) (ops : List Op)
    (hf : Along step Fresh (started root) ops) (hs : ∀ op ∈ ops, op.Served)
    (hn : ∀ js, js <+: ops → (sinceTick js).length < maxGuardCounter) :
    (∀ js, js <+: ops → ∃ s, run step (started root) js = some s ∧
        List.Forall₂ Indicates s.sent (requests (ticked js))) ↔
      ∀ req ∈ requests (ticked ops), req.header.handle.toNat < 2 ^ 8 := by
  have hrun {js} (hjs : js <+: ops) : ∃ s, run step (started root) js = some s ∧
      List.Forall₂ Answers s.sent (requests (ticked js)) := by
    have ⟨s, hr, h, hw⟩ := run_served (hf.initial hjs) (fun op hm => hs op (hjs.subset hm))
      fun ks hks => hn ks (hks.trans hjs)
    exact ⟨s, hr, h.sent ▸ hw.sent⟩
  constructor
  case mp =>
    intro h
    have ⟨s, hr, hi⟩ := h ops (List.prefix_refl _)
    have ⟨s', hr', ha⟩ := hrun (List.prefix_refl _)
    obtain rfl := Option.some.inj <| hr.symm.trans hr'
    exact (indicates_iff ha).mp hi
  case mpr =>
    intro h js hjs
    have ⟨s, hr, ha⟩ := hrun hjs
    refine ⟨s, hr, (indicates_iff ha).mpr fun req hreq => h req ?_⟩
    exact ((ticked_initial hjs).filterMap _).subset hreq

-- A single request, and the tick that answers it.
def answered (handle : UInt32) : List Op :=
  [.handleNewTaskReq (request .hd (some handle)) (some 1), .tickTaskHandler allResults]

theorem served_answered {handle : UInt32} : ∀ op ∈ answered handle, op.Served := by
  intro op ho
  rcases List.mem_pair.mp ho with rfl | rfl
  case inl => exact ⟨rfl, .inl rfl, rfl⟩
  case inr => exact fun _ => rfl

theorem sinceTick_answered {handle : UInt32} :
    ∀ js, js <+: answered handle → (sinceTick js).length < maxGuardCounter := by
  intro js hjs
  have hl : (sinceTick js).length ≤ (answered handle).length :=
    Nat.le_trans (List.rtakeWhile_suffix _ _).length_le hjs.length_le
  have h : 2 < maxGuardCounter := by decide
  exact Nat.lt_of_le_of_lt hl h

theorem tasks_indicated_iff_answered :
    (∀ js, js <+: answered 255 → ∃ s, run step (started emptyRoot) js = some s ∧
        List.Forall₂ Indicates s.sent (requests (ticked js))) ↔
      ∀ req ∈ requests (ticked (answered 255)), req.header.handle.toNat < 2 ^ 8 :=
  tasks_indicated_iff emptyRoot (answered 255) (by decide) served_answered sinceTick_answered

-- Nothing is left of this handle.
theorem tasks_not_indicated : ¬∀ (root : TaskItem) (ops : List Op),
    Along step Fresh (started root) ops → (∀ op ∈ ops, op.Served) →
      (∀ js, js <+: ops → (sinceTick js).length < maxGuardCounter) →
        ∀ js, js <+: ops → ∃ s, run step (started root) js = some s ∧
          List.Forall₂ Indicates s.sent (requests (ticked js)) := by
  intro h
  have ⟨s, hs, hi⟩ := h emptyRoot (answered 256) (by decide) served_answered sinceTick_answered
    (answered 256) (List.prefix_refl _)
  have hsent : (run step (started emptyRoot) (answered 256)).map State.sent =
      some [((request .hd (some 256)).header, ⟨0, .hd, []⟩)] := by decide
  have hsent : s.sent = [((request .hd (some 256)).header, ⟨0, .hd, []⟩)] := by
    simpa [hs] using hsent
  have hreqs : requests (ticked (answered 256)) = [request .hd (some 256)] := by decide
  rw [hsent, hreqs] at hi
  have ⟨hi, _⟩ := List.forall₂_cons.mp hi
  exact absurd hi.handle (by decide)

end RoboOne.TaskHandler
