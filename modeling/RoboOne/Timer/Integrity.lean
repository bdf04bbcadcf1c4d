import RoboOne.Timer.Refinement

namespace RoboOne.Timer

open Transition

variable {s : State} {m : Malloc} {t : Timetable}

-- Whatever the operations are and in whatever order they come, the two lists stay in one piece, they
-- share no entry, and no entry gets lost. No ASSERT fails, in particular none on freeing a timer that
-- is on the used list.
theorem timer_lists_intact (m : Malloc) (timer : Addr → Timer) (links : Links Addr)
    (ops : List Op) : ∃ s free used, run step (started m timer links) ops = some s ∧
      s.links.IsList s.pgFreeTimerListHead free ∧ s.links.IsList s.pgUsedTimerListHead used ∧
      free.Disjoint used ∧ (free ++ used).Perm m.entries ∧
      ∀ e ∈ used, (freeTimerUnprotected e s).isSome := by
  have ⟨s, hr, free, used, h⟩ := run_refines m timer links ops
  refine ⟨s, free, used, hr, h.freeList, h.usedList, h.disjoint, h.entries, fun e he => ?_⟩
  obtain ⟨u, v, rfl⟩ := List.append_of_mem he
  have ⟨s', hs', _⟩ := freeTimerUnprotected_spec h.toLists
  rw [hs', Option.isSome_some]

theorem actionTimerStart_isSome_iff {free used : List Addr} {req : TimerStartReq}
    {beyond : Messaging.Beyond} (h : s.Lists free used) :
    (actionTimerStart req beyond s).isSome ↔ used.length < maxNumTimers := by
  have hlen := h.length
  rcases List.eq_nil_or_concat free with rfl | ⟨free, w, rfl⟩
  case inl =>
    rw [actionTimerStart, allocTimer, allocUnsorted_of_nil _ _ _ _ _ h]
    simp only [List.length_nil] at hlen
    exact iff_of_false Bool.false_ne_true (by omega)
  case inr =>
    rw [List.concat_eq_append] at h hlen
    obtain ⟨s', hs', _⟩ :=
      allocUnsorted_spec req.expiryDeciSeconds req.sourcePort req.id req.expiryMsg beyond h
    rw [actionTimerStart, allocTimer, hs']
    rw [List.length_append, List.length_singleton] at hlen
    exact iff_of_true rfl (by omega)

-- The ASSERT on a start request fails if and only if all timers are running.
theorem start_requests_served_iff (m : Malloc) (timer : Addr → Timer) (links : Links Addr)
    (ops : List Op) (req : TimerStartReq) (beyond : Messaging.Beyond) :
    ∃ s used, run step (started m timer links) ops = some s ∧
      s.links.IsList s.pgUsedTimerListHead used ∧
      ((actionTimerStart req beyond s).isSome ↔ used.length < maxNumTimers) := by
  have ⟨s, hr, free, used, h⟩ := run_refines m timer links ops
  exact ⟨s, used, hr, h.usedList, actionTimerStart_isSome_iff h.toLists⟩

-- The turns that the loop of `sortUsedListUnprotected` makes.
def SortEnd.x (e : SortEnd) : Nat :=
  maxNumTimers * maxNumTimers - e.left

-- The sort of a timetable with a new timer at its end is not stopped by the limit on its turns.
theorem Refines.sort_ends (h : Refines m s t) {period : UInt32} {port : Int32} {id : UInt8}
    {msg : Messaging.ShortMsg} {beyond : Messaging.Beyond} {w : Addr} {s₁ : State}
    (hs : allocUnsorted period port id msg beyond s = some (some w, s₁)) :
    (sortUsedListUnprotected s₁).pEntry = none ∧
      (sortUsedListUnprotected s₁).x < maxNumTimers * maxNumTimers := by
  have ⟨free, used, h⟩ := h
  rcases List.eq_nil_or_concat free with rfl | ⟨free, w', rfl⟩
  case inl =>
    rw [allocUnsorted_of_nil _ _ _ _ _ h.toLists] at hs
    cases hs
  case inr =>
    rw [List.concat_eq_append] at h
    have ⟨s₁', hs', ha, hl⟩ := allocUnsorted_spec period port id msg beyond h.toLists
    rw [hs'] at hs
    cases hs
    have ⟨_, _, left, hleft, hsort, _⟩ := sort_allocated h.toLists (h.running ▸ t.sorted) ha hl
    rw [hsort]
    refine ⟨rfl, Nat.sub_lt (by decide) hleft⟩

-- The used list is always sorted by expiry time, and by the start of the timers among equal ones. This
-- is why the sort ends in time when another timer is started.
theorem used_list_sorted (m : Malloc) (timer : Addr → Timer) (links : Links Addr) (ops : List Op) :
    ∃ s used, run step (started m timer links) ops = some s ∧
      s.links.IsList s.pgUsedTimerListHead used ∧
      (used.map s.running).Pairwise Running.Sooner ∧
      ∀ period port id msg beyond w s₁,
        allocUnsorted period port id msg beyond s = some (some w, s₁) →
          (sortUsedListUnprotected s₁).pEntry = none ∧
            (sortUsedListUnprotected s₁).x < maxNumTimers * maxNumTimers := by
  have ⟨s, hr, h⟩ := run_refines m timer links ops
  have ⟨free, used, hrep⟩ := h
  refine ⟨s, used, hr, hrep.usedList, hrep.running ▸ Timetable.sorted _, ?_⟩
  exact fun _ _ _ _ _ _ _ hs => h.sort_ends hs

end RoboOne.Timer
