import RoboOne.Library.RestartSort
import RoboOne.Timer.Timetable

namespace RoboOne.Timer

variable {s s' : State} {p q : Option Addr} {e w : Addr} {l u v free used : List Addr}

-- The two lists of the server, which have no entry in common.
structure State.Lists (s : State) (free used : List Addr) : Prop where
  freeList : s.links.IsList s.pgFreeTimerListHead free
  usedList : s.links.IsList s.pgUsedTimerListHead used
  disjoint : free.Disjoint used
  length   : free.length + used.length = maxNumTimers

theorem State.Lists.congr (h : s.Lists free used) (hl : s'.links = s.links)
    (hf : s'.pgFreeTimerListHead = s.pgFreeTimerListHead)
    (hu : s'.pgUsedTimerListHead = s.pgUsedTimerListHead) : s'.Lists free used where
  freeList := by rw [hl, hf]; exact h.freeList
  usedList := by rw [hl, hu]; exact h.usedList
  disjoint := h.disjoint
  length   := h.length

theorem pNextEntry_of_seg (h : s.links.Seg p (e :: l) none) : s.pNextEntry e = l.head? := by
  have hn := h.right.left
  rwa [Option.or_none] at hn

-- An entry that is on a list is found.
theorem findEntry_spec (h : s.links.Seg p (u ++ w :: v) none) (hw : w ∉ u) {x : Nat}
    (hx : u.length ≤ x) : findEntry s w x (u ++ w :: v).head? = some w := by
  induction u generalizing p x
  case nil => cases x <;> simp [findEntry]
  case cons a u hi =>
    cases x
    case zero => contradiction
    case succ x =>
      have ha : a ≠ w := fun he => hw (by simp [he])
      have hn : s.pNextEntry a = (u ++ w :: v).head? := pNextEntry_of_seg h
      simp only [List.cons_append, List.head?_cons, findEntry, if_neg ha, hn]
      exact hi h.right.right (fun hm => hw (by simp [hm])) (Nat.le_of_succ_le_succ hx)

-- The end of a list is found, behind the entries of the list.
theorem findEnd_spec {pp : EntrySlot} {x : Nat} (h : s.links.Seg p l none)
    (hd : s.deref pp = l.head?) (hx : l.length ≤ x) :
    findEnd s x p pp = (l.getLast?.or p, (l.getLast?.map .pNextEntry).getD pp) := by
  induction l generalizing p pp x
  case nil => cases x <;> simp [findEnd, hd]
  case cons a l hi =>
    cases x
    case zero => contradiction
    case succ x =>
      have hn : s.deref (.pNextEntry a) = l.head? := pNextEntry_of_seg h
      simp only [findEnd, hd, List.head?_cons]
      rw [hi h.right.right hn (Nat.le_of_succ_le_succ hx), List.getLast?_cons]
      cases l.getLast? <;> rfl

theorem findLast_spec {x : Nat} (h : s.links.Seg p l none) (hx : l.length ≤ x) :
    findLast s x p l.head? = l.getLast?.or p := by
  induction l generalizing p x
  case nil => cases x <;> simp [findLast]
  case cons a l hi =>
    cases x
    case zero => contradiction
    case succ x =>
      have hn : s.pNextEntry a = l.head? := pNextEntry_of_seg h
      simp only [findLast, List.head?_cons, hn]
      rw [hi h.right.right (Nat.le_of_succ_le_succ hx), List.getLast?_cons]
      cases l.getLast? <;> rfl

-- An entry is put behind the entries of the list with the given head.
theorem attachEntry_spec {head : EntrySlot} (hh : head = .pgFreeTimerListHead ∨
    head = .pgUsedTimerListHead) (h : s.links.IsList (s.deref head) l)
    (hl : l.length ≤ maxNumTimers) : attachEntry w head s = some { s.assign
      ((s.deref head).or (some w)) head with links := s.links.link l.getLast? w } := by
  rw [attachEntry, findEnd_spec h.seg h.head hl]
  rcases List.eq_nil_or_concat l with rfl | ⟨l, a, rfl⟩
  case inl =>
    have hd : s.deref head = none := h.head
    simp only [List.getLast?_nil, Option.map_none, Option.getD_none, Option.or_none, hd]
    rcases hh with rfl | rfl <;> rfl
  case inr =>
    rw [List.concat_eq_append] at h ⊢
    have hn : s.deref (.pNextEntry a) = none := h.middle.right
    have ⟨x, hx⟩ : ∃ x, s.deref head = some x := by
      rw [h.head]
      cases l <;> exact ⟨_, rfl⟩
    have ha : s.assign (some x) head = s := by
      rw [← hx]
      rcases hh with rfl | rfl <;> rfl
    simp only [List.getLast?_concat, Option.map_some, Option.getD_some, Option.some_or, hn, hx, ha]
    rfl

theorem State.Lists.length_free (h : s.Lists free used) : free.length ≤ maxNumTimers := by
  have := h.length
  omega

-- What the operations on the lists leave as it is.
structure Relinked (s s' : State) : Prop where
  now     : s'.gTimerTickDeciSeconds = s.gTimerTickDeciSeconds
  sent    : s'.sent = s.sent
  history : s'.history = s.history

-- The timer in an entry is freed.
structure Freed (w : Addr) (s s' : State) : Prop extends Relinked s s' where
  timer  : s'.timer = Function.update s.timer w .zero
  serial : s'.serial = s.serial
  freed  : s'.freed = s.freed ++ [s.serial w]

-- The timer in an entry is set.
structure Allocated (w : Addr) (t : Timer) (s s' : State) : Prop extends Relinked s s' where
  timer  : s'.timer = Function.update s.timer w t
  serial : s'.serial = Function.update s.serial w s.history.length
  freed  : s'.freed = s.freed

theorem State.Lists.length_used (h : s.Lists free used) : used.length ≤ maxNumTimers := by
  have := h.length
  omega

-- The source reads the next entry again after it has linked the previous entry to it.
theorem setNext_next_middle (h : s.links.IsList p (u ++ w :: v)) :
    (s.links.setNext (s.links.prev w) (s.links.next w)).next w = s.links.next w := by
  refine Links.setNext_next_of_ne fun he => ?_
  rw [h.middle.left] at he
  exact (Links.nodup_middle h.nodup).right.right.left (List.mem_of_mem_getLast? he)

theorem freeTimerUnprotected_spec (h : s.Lists free (u ++ w :: v)) :
    ∃ s', freeTimerUnprotected w s = some s' ∧ Freed w s s' ∧ s'.Lists (free ++ [w]) (u ++ v) := by
  have hu := h.usedList
  have ⟨_, _, hwu, hwv, _⟩ := Links.nodup_middle hu.nodup
  have hwf : w ∉ free := fun hf => h.disjoint hf (by simp)
  have hx : u.length ≤ maxNumTimers := by
    have := h.length_used
    simp only [List.length_append] at this
    omega
  have hf := findEntry_spec hu.seg hwu hx
  have hn := setNext_next_middle hu
  -- The state in which the entry is on no list.
  have hs₁ : freeTimerUnprotected w s = attachEntry w .pgFreeTimerListHead
      { s.setTimer w .zero with
        freed               := s.freed ++ [s.serial w]
        links               := s.links.unlink w
        pgUsedTimerListHead :=
          if s.pgUsedTimerListHead = some w then s.links.next w else s.pgUsedTimerListHead } := by
    rw [← hu.head] at hf
    simp only [freeTimerUnprotected, hf, ↓reduceIte]
    split <;> simp_all [State.setTimer, State.setNextEntry, State.setPrevEntry, State.pNextEntry,
      State.pPrevEntry, Links.unlink]
  have hd : (u ++ w :: v).Disjoint free := fun _ ha hb => h.disjoint hb ha
  have hfree := h.freeList.same_outside hd hu.unlink_sameOutside
  have hdis : (free ++ [w]).Disjoint (u ++ v) := by
    intro a ha hb
    have hb : a ∈ u ∨ a ∈ v := List.mem_append.mp hb
    rcases List.mem_append.mp ha with ha | ha
    case inl => exact h.disjoint ha (by rcases hb with hb | hb <;> simp [hb])
    case inr => exact hb.elim (List.mem_singleton.mp ha ▸ hwu) (List.mem_singleton.mp ha ▸ hwv)
  have hlen : (free ++ [w]).length + (u ++ v).length = maxNumTimers := by
    have := h.length
    simp only [List.length_append, List.length_cons, List.length_nil] at this ⊢
    omega
  rw [hs₁, attachEntry_spec (.inl rfl) hfree h.length_free]
  exact ⟨_, rfl, ⟨⟨rfl, rfl, rfl⟩, rfl, rfl, rfl⟩, hfree.link hwf,
    hu.unlink.same_outside hdis Links.link_sameOutside, hdis, hlen⟩

-- What the sort does, and all it does.
def State.setUsed (L : Links Addr) (head : Option Addr) (s : State) : State :=
  { s with links := L, pgUsedTimerListHead := head }

theorem swapEntries_eq {a b : Addr} (h : s.links.IsList p (u ++ a :: b :: v)) :
    swapEntries a b s = s.setUsed (s.links.swap a b)
      (if s.pgUsedTimerListHead = some a then some b else s.pgUsedTimerListHead) := by
  have hb : s.links.IsList p ((u ++ [a]) ++ b :: v) := by simpa using h
  have ⟨_, _, hau, havb, hd⟩ := Links.nodup_middle h.nodup
  -- The entries around the two are other ones, so their links do not change before they are read.
  have hn : (s.links.setNext (s.links.prev a) (some b)).next b = s.links.next b := by
    refine Links.setNext_next_of_ne fun he => ?_
    rw [h.middle.left] at he
    exact hd (List.mem_of_mem_getLast? he) (by simp)
  have hp (x : Option Addr) (L : Links Addr) : (L.setPrev (s.links.next b) x).prev a = L.prev a := by
    refine Links.setPrev_prev_of_ne fun he => ?_
    rw [hb.middle.right] at he
    exact havb (by simp [List.mem_of_mem_head? he])
  simp only [swapEntries, State.setNextEntry, State.setPrevEntry, State.pNextEntry,
    State.pPrevEntry, Links.setPrev_next, Links.setNext_prev, hn, hp]
  split <;> rfl

-- The timer in an entry.
def State.running (s : State) (e : Addr) : Running where
  serial := s.serial e
  timer  := s.timer e

-- `e` is to be moved behind `e'` if it comes directly before it.
def State.Later (s : State) (e e' : Addr) : Prop :=
  (s.running e).Later (s.running e')

instance (s : State) : DecidableRel s.Later :=
  fun _ _ => inferInstanceAs (Decidable (Running.Later _ _))

-- The loop does with the used list what the restarting bubble sort does with the entries on it.
theorem sortLoop_spec (left : Nat) (h : s.links.IsList s.pgUsedTimerListHead (u ++ v)) :
    let r := RestartSort.loop s.Later left u v
    ∃ L head, sortLoop left v.head? s = ⟨s.setUsed L head, r.2.2.head?, r.1⟩ ∧
      L.IsList head (r.2.1 ++ r.2.2) ∧ Links.SameOutside (u ++ v) s.links L := by
  have same {m : List Addr} (L : Links Addr) : Links.SameOutside m L L := fun _ _ => ⟨rfl, rfl⟩
  induction left generalizing s u v
  case zero => exact ⟨s.links, s.pgUsedTimerListHead, by cases v <;> rfl, h, same _⟩
  case succ left hi =>
    have hs : s.links.Seg (u.getLast?.or none) v none := (Links.seg_append.mp h.seg).right
    match v with
    | [] => exact ⟨s.links, s.pgUsedTimerListHead, rfl, h, same _⟩
    | [a] =>
      have hn : s.pNextEntry a = none := pNextEntry_of_seg hs
      have h : s.links.IsList s.pgUsedTimerListHead ((u ++ [a]) ++ []) := by simpa using h
      obtain ⟨L, head, hl, hr⟩ := hi h
      refine ⟨L, head, ?_, by simpa [RestartSort.loop] using hr⟩
      simpa [sortLoop, hn, RestartSort.loop] using hl
    | a :: b :: l =>
      have hn : s.pNextEntry a = some b := pNextEntry_of_seg hs
      by_cases hl : s.Later a b
      case neg =>
        have h : s.links.IsList s.pgUsedTimerListHead ((u ++ [a]) ++ b :: l) := by simpa using h
        obtain ⟨L, head, hl', hr⟩ := hi h
        refine ⟨L, head, ?_, by simpa [RestartSort.loop, hl] using hr⟩
        simp only [sortLoop, List.head?_cons, hn, RestartSort.loop, if_neg hl]
        exact (if_neg hl).trans hl'
      case pos =>
        have hsw := swapEntries_eq h
        have h' : (swapEntries a b s).links.IsList (swapEntries a b s).pgUsedTimerListHead
            ([] ++ (u ++ b :: a :: l)) := by
          rw [hsw]
          exact h.swap
        have hh : (swapEntries a b s).pgUsedTimerListHead = (u ++ b :: a :: l).head? := h'.head
        obtain ⟨L, head, hl', hr, ho⟩ := hi h'
        rw [← hh] at hl'
        rw [hsw] at hl' hr ho
        refine ⟨L, head, ?_, ?_⟩
        case refine_1 =>
          simp only [sortLoop, List.head?_cons, hn, RestartSort.loop, if_pos hl]
          exact (if_pos hl).trans (hsw ▸ hl')
        case refine_2 =>
          have hm : u ++ b :: a :: l ⊆ u ++ a :: b :: l :=
            ((List.Perm.swap a b l).append_left u).subset
          simp only [RestartSort.loop, if_pos hl]
          exact ⟨hr, h.swap_sameOutside.trans (ho.mono hm)⟩

-- The place of an entry in the used list is before the entries that expire later.
def State.insertUsed (s : State) (w : Addr) (used : List Addr) : List Addr :=
  used.takeWhile (¬s.Later · w) ++ w :: used.dropWhile (¬s.Later · w)

-- With all entries but the last one in order, the sort comes to the end of the list before it has made
-- as many turns as it is allowed to make.
theorem sortUsedListUnprotected_spec (h : s.links.IsList s.pgUsedTimerListHead (used ++ [w]))
    (ho : (used.map s.running).Pairwise Running.Sooner) (hl : used.length < maxNumTimers) :
    ∃ L head, ∃ left > 0, sortUsedListUnprotected s = ⟨s.setUsed L head, none, left⟩ ∧
      L.IsList head (s.insertUsed w used) ∧ Links.SameOutside (used ++ [w]) s.links L := by
  have hused : used.takeWhile (¬s.Later · w) ++ used.dropWhile (¬s.Later · w) = used :=
    List.takeWhile_append_dropWhile
  have ho := List.pairwise_map.mp ho
  have hc : used.IsChain (¬s.Later · ·) := (ho.imp fun h => h.not_later).isChain
  have hu : ∀ b ∈ used.takeWhile (¬s.Later · w), ¬s.Later b w :=
    fun b hb => by simpa using List.mem_takeWhile_imp hb
  have hv : ∀ b ∈ used.dropWhile (¬s.Later · w), s.Later b w ∧ ¬s.Later w b := by
    have hd := forall_mem_dropWhile (c := (¬s.Later · w)) ho fun a b hab ha => by
      simp only [decide_not, Bool.not_eq_eq_eq_not, Bool.not_false, decide_eq_true_eq] at ha ⊢
      exact hab.later_of_later ha
    intro b hb
    have hlater : s.Later b w := by simpa using hd b hb
    exact ⟨hlater, UInt32.lt_asymm hlater⟩
  rw [← hused] at hc
  have hn : used.length * used.length + used.length + 1 < maxNumTimers * maxNumTimers := by
    have : used.length * used.length ≤ 29 * 29 := Nat.mul_self_le_mul_self (Nat.lt_succ_iff.mp hl)
    have : maxNumTimers * maxNumTimers = 900 := rfl
    have : maxNumTimers = 30 := rfl
    omega
  have ⟨left, hleft, hr⟩ := RestartSort.loop_insert (n := maxNumTimers * maxNumTimers) hc hu hv
    (by rwa [hused])
  rw [hused] at hr
  have ⟨L, head, hs, hL, hout⟩ := sortLoop_spec (u := []) (v := used ++ [w])
    (maxNumTimers * maxNumTimers) h
  rw [hr] at hs hL
  refine ⟨L, head, left, hleft, ?_, by simpa [State.insertUsed] using hL, hout⟩
  rw [sortUsedListUnprotected, h.head]
  exact hs

section

variable (periodDeciSeconds : UInt32) (sourcePort : Int32) (id : UInt8) (msg : Messaging.ShortMsg)
  (beyond : Messaging.Beyond)

theorem allocUnsorted_of_nil (h : s.Lists [] used) :
    allocUnsorted periodDeciSeconds sourcePort id msg beyond s = some (none, s) := by
  have hf : s.pgFreeTimerListHead = none := h.freeList.head
  rw [allocUnsorted, hf]
  rfl

-- The timer that is to be started.
def State.newTimer (s : State) (periodDeciSeconds : UInt32) (sourcePort : Int32) (id : UInt8)
    (msg : Messaging.ShortMsg) (beyond : Messaging.Beyond) : Timer where
  expiryTimeDeciSeconds := s.gTimerTickDeciSeconds + periodDeciSeconds
  id                    := id
  sourcePort            := sourcePort
  expiryMsg             := msg.toMsg beyond

-- The last entry of the free list moves to the end of the used list.
theorem allocUnsorted_spec (h : s.Lists (free ++ [w]) used) :
    ∃ s', allocUnsorted periodDeciSeconds sourcePort id msg beyond s = some (some w, s') ∧
      Allocated w (s.newTimer periodDeciSeconds sourcePort id msg beyond) s s' ∧
      s'.Lists free (used ++ [w]) := by
  have hf := h.freeList
  have hwu : w ∉ used := fun hu => h.disjoint (by simp) hu
  have ⟨_, _, hwf, _⟩ := Links.nodup_middle hf.nodup
  have hl := findLast_spec hf.seg h.length_free
  rw [← hf.head, List.getLast?_concat, Option.some_or] at hl
  have hn : s.links.next w = none := hf.middle.right
  have hunlink : s.links.unlink w = s.links.setNext (s.links.prev w) (s.links.next w) := by
    rw [Links.unlink, hn, Links.setPrev_none]
  -- The state in which the entry is on no list.
  have hused := h.usedList.same_outside h.disjoint hf.unlink_sameOutside
  have hfree := hf.unlink
  rw [List.append_nil] at hfree
  have hdis : (used ++ [w]).Disjoint free := by
    intro a ha hb
    rcases List.mem_append.mp ha with ha | ha
    case inl => exact h.disjoint (by simp [hb]) ha
    case inr => exact hwf (List.mem_singleton.mp ha ▸ hb)
  have hlen : free.length + (used ++ [w]).length = maxNumTimers := by
    have := h.length
    simp only [List.length_append, List.length_singleton] at this ⊢
    omega
  have hs₁ :
      (if (s.setNextEntry (s.pPrevEntry w) (s.pNextEntry w)).pgFreeTimerListHead = some w then
        { s.setNextEntry (s.pPrevEntry w) (s.pNextEntry w) with pgFreeTimerListHead := none }
      else
        s.setNextEntry (s.pPrevEntry w) (s.pNextEntry w)) =
      { s with
        links               := s.links.unlink w
        pgFreeTimerListHead :=
          if s.pgFreeTimerListHead = some w then s.links.next w else s.pgFreeTimerListHead } := by
    rw [hunlink, hn]
    simp only [State.setNextEntry, State.pPrevEntry, State.pNextEntry, hn]
    split <;> rfl
  simp only [allocUnsorted, hl, hs₁]
  rw [attachEntry_spec (.inr rfl) hused (by have := h.length_used; omega)]
  refine ⟨_, rfl, ⟨⟨rfl, rfl, rfl⟩, rfl, rfl, rfl⟩, ?_, hused.link hwu, ?_, hlen⟩
  case refine_1 => exact hfree.same_outside hdis Links.link_sameOutside
  case refine_2 => exact fun a ha hb => hdis hb ha

end

end RoboOne.Timer
