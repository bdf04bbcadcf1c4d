import Mathlib.Data.List.Nodup
import Mathlib.Logic.Function.Basic

-- The links of the nodes of doubly linked lists. `none` is the null pointer.
@[ext]
structure Links (α : Type*) where
  prev : α → Option α
  next : α → Option α

namespace Links

variable {α : Type*} {L L' : Links α} {a b w : α} {p q x y : Option α} {l m u v : List α}

-- `l` is a doubly linked segment that starts behind `p` and ends before `q`.
def Seg (L : Links α) : Option α → List α → Option α → Prop
  | _, [],     _ => True
  | p, a :: l, q => L.prev a = p ∧ L.next a = l.head?.or q ∧ Seg L (some a) l q

-- A null-terminated list: it has no node twice, and its links lead from the head through the list.
structure IsList (L : Links α) (head : Option α) (l : List α) : Prop where
  head  : head = l.head?
  nodup : l.Nodup
  seg   : L.Seg none l none

theorem IsList.nil : IsList L none [] :=
  ⟨rfl, .nil, trivial⟩

theorem seg_append : L.Seg p (l ++ m) q ↔ L.Seg p l (m.head?.or q) ∧ L.Seg (l.getLast?.or p) m q := by
  induction l generalizing p
  case nil => simp [Seg]
  case cons a l hi =>
    have hl : (a :: l).getLast?.or p = l.getLast?.or (some a) := by
      rw [List.getLast?_cons]
      cases l.getLast? <;> rfl
    have hm : (l ++ m).head?.or q = l.head?.or (m.head?.or q) := by
      cases l <;> simp
    simp only [List.cons_append, Seg, hi, hl, hm, and_assoc]

-- A segment is not concerned with the links of other nodes.
theorem Seg.congr (h : L.Seg p l q) (hp : ∀ a ∈ l, L'.prev a = L.prev a)
    (hn : ∀ a ∈ l, L'.next a = L.next a) : L'.Seg p l q := by
  induction l generalizing p
  case nil => trivial
  case cons a l hi =>
    refine ⟨(hp a (by simp)).trans h.left, (hn a (by simp)).trans h.right.left, ?_⟩
    exact hi h.right.right (fun b hb => hp b (by simp [hb])) fun b hb => hn b (by simp [hb])

-- The links determine a null-terminated segment.
theorem Seg.unique (h : L.Seg p l none) (h' : L.Seg q m none) (hd : l.head? = m.head?) : l = m := by
  induction l generalizing p q m
  case nil => exact (List.head?_eq_none_iff.mp hd.symm).symm
  case cons a l hi =>
    cases m
    case nil => cases hd
    case cons b m =>
      obtain rfl := Option.some.inj hd
      have hn := h.right.left.symm.trans h'.right.left
      rw [Option.or_none, Option.or_none] at hn
      rw [hi h.right.right h'.right.right hn]

theorem IsList.unique (h : IsList L p l) (h' : IsList L p m) : l = m :=
  h.seg.unique h'.seg (h.head.symm.trans h'.head)

-- Where the links of a node in the middle of a list lead.
theorem IsList.middle (h : IsList L p (u ++ w :: v)) :
    L.prev w = u.getLast? ∧ L.next w = v.head? := by
  have ⟨_, hp, hn, _⟩ := seg_append.mp h.seg
  exact ⟨by simpa using hp, by simpa using hn⟩

-- Neither part of a list has the node between them, or a node of the other part.
theorem nodup_middle (h : (u ++ w :: v).Nodup) :
    u.Nodup ∧ v.Nodup ∧ w ∉ u ∧ w ∉ v ∧ u.Disjoint v := by
  have ⟨hu, hw, hd⟩ := List.nodup_append'.mp h
  have ⟨hw, hv⟩ := List.nodup_cons.mp hw
  exact ⟨hu, hv, fun h => hd h (by simp), hw, fun _ h h' => hd h (by simp [h'])⟩

-- The links of all nodes but those of a list are the same.
def SameOutside (l : List α) (L L' : Links α) : Prop :=
  ∀ a, a ∉ l → L'.prev a = L.prev a ∧ L'.next a = L.next a

theorem SameOutside.trans {L'' : Links α} (h : SameOutside l L L') (h' : SameOutside l L' L'') :
    SameOutside l L L'' :=
  fun a ha => ⟨(h' a ha).left.trans (h a ha).left, (h' a ha).right.trans (h a ha).right⟩

theorem SameOutside.mono (h : SameOutside l L L') (hs : l ⊆ m) : SameOutside m L L' :=
  fun a ha => h a fun hm => ha (hs hm)

-- A list is not concerned with what happens to the nodes of another one.
theorem IsList.same_outside (h : IsList L p m) (hd : l.Disjoint m) (ho : SameOutside l L L') :
    IsList L' p m where
  head  := h.head
  nodup := h.nodup
  seg   := h.seg.congr (fun a ha => (ho a fun hl => hd hl ha).left)
    fun a ha => (ho a fun hl => hd hl ha).right

variable [DecidableEq α]

-- `if (a != PNULL) a->prev = p`.
def setPrev (a p : Option α) (L : Links α) : Links α :=
  match a with
  | none   => L
  | some a => { L with prev := Function.update L.prev a p }

-- `if (a != PNULL) a->next = q`.
def setNext (a q : Option α) (L : Links α) : Links α :=
  match a with
  | none   => L
  | some a => { L with next := Function.update L.next a q }

@[simp]
theorem setPrev_none : setPrev none p L = L :=
  rfl

@[simp]
theorem setNext_none : setNext none q L = L :=
  rfl

@[simp]
theorem setPrev_next : (setPrev p q L).next = L.next := by
  cases p <;> rfl

@[simp]
theorem setNext_prev : (setNext p q L).prev = L.prev := by
  cases p <;> rfl

@[simp]
theorem setPrev_prev_self : (setPrev (some a) p L).prev a = p := by
  simp [setPrev]

@[simp]
theorem setNext_next_self : (setNext (some a) q L).next a = q := by
  simp [setNext]

theorem setPrev_prev_of_ne (h : p ≠ some a) : (setPrev p q L).prev a = L.prev a := by
  cases p
  case none => rfl
  case some b => exact Function.update_of_ne (fun he => h (congrArg some he.symm)) _ _

theorem setNext_next_of_ne (h : p ≠ some a) : (setNext p q L).next a = L.next a := by
  cases p
  case none => rfl
  case some b => exact Function.update_of_ne (fun he => h (congrArg some he.symm)) _ _

-- Assignments to different fields can be exchanged.
theorem setNext_setPrev {x y : Option α} :
    setNext p q (setPrev x y L) = setPrev x y (setNext p q L) := by
  cases p <;> cases x <;> rfl

theorem setNext_eq_self (h : L.next a = q) : setNext (some a) q L = L := by
  subst h
  simp [setNext]

theorem Seg.setPrev (h : L.Seg p l q) (hx : ∀ a ∈ l, x ≠ some a) : (setPrev x y L).Seg p l q :=
  h.congr (fun a ha => setPrev_prev_of_ne (hx a ha)) fun a _ => by rw [setPrev_next]

theorem Seg.setNext (h : L.Seg p l q) (hx : ∀ a ∈ l, x ≠ some a) : (setNext x y L).Seg p l q :=
  h.congr (fun a _ => by rw [setNext_prev]) fun a ha => setNext_next_of_ne (hx a ha)

-- A segment is attached to another node in front of it.
theorem Seg.setPrev_head (h : L.Seg p l q) (hn : l.Nodup) : (Links.setPrev l.head? x L).Seg x l q := by
  cases l
  case nil => trivial
  case cons a l =>
    have hx : ∀ b ∈ l, some a ≠ some b := fun b hb he =>
      (List.nodup_cons.mp hn).left (Option.some.inj he ▸ hb)
    refine ⟨setPrev_prev_self, ?_, h.right.right.setPrev hx⟩
    rw [setPrev_next]
    exact h.right.left

-- A segment is attached to another node behind it.
theorem Seg.setNext_last (h : L.Seg p l q) (hn : l.Nodup) :
    (Links.setNext l.getLast? x L).Seg p l x := by
  rcases List.eq_nil_or_concat l with rfl | ⟨l, a, rfl⟩
  case inl => trivial
  case inr =>
    rw [List.concat_eq_append] at h hn ⊢
    have hx : ∀ b ∈ l, some a ≠ some b := fun b hb he =>
      (List.nodup_append.mp hn).right.right b hb a (by simp) (Option.some.inj he).symm
    have ⟨hl, ha⟩ := seg_append.mp h
    rw [List.getLast?_concat]
    refine seg_append.mpr ⟨hl.setNext hx, ?_, setNext_next_self, trivial⟩
    rw [setNext_prev]
    exact ha.left

theorem sameOutside_setPrev (h : ∀ a ∈ x, a ∈ l) : SameOutside l L (Links.setPrev x y L) :=
  fun _ ha => ⟨setPrev_prev_of_ne fun he => ha (h _ he), by rw [setPrev_next]⟩

theorem sameOutside_setNext (h : ∀ a ∈ x, a ∈ l) : SameOutside l L (Links.setNext x y L) :=
  fun _ ha => ⟨by rw [setNext_prev], setNext_next_of_ne fun he => ha (h _ he)⟩

-- Takes a node out of its list: the nodes around it are linked to each other.
def unlink (w : α) (L : Links α) : Links α :=
  setPrev (L.next w) (L.prev w) (setNext (L.prev w) (L.next w) L)

-- Links a node in behind `p`, at the end of a list.
def link (p : Option α) (w : α) (L : Links α) : Links α :=
  setNext (some w) none (setPrev (some w) p (setNext p (some w) L))

-- Exchanges a node with the next one, which is `y`.
def swap (x y : α) (L : Links α) : Links α :=
  setNext (some y) (some x) <| setPrev (some x) (some y) <| setPrev (some y) (L.prev x) <|
    setNext (some x) (L.next y) <| setPrev (L.next y) (some x) <| setNext (L.prev x) (some y) L

theorem IsList.unlink (h : IsList L p (u ++ w :: v)) :
    IsList (unlink w L) (if p = some w then L.next w else p) (u ++ v) where
  head := by
    have hw := (nodup_middle h.nodup).right.right.left
    rw [h.middle.right, h.head]
    cases u
    case nil => simp
    case cons a u =>
      have : a ≠ w := fun he => hw (by simp [he])
      simp [this]
  nodup := by
    have ⟨hu, hv, _, _, hd⟩ := nodup_middle h.nodup
    exact List.nodup_append'.mpr ⟨hu, hv, hd⟩
  seg := by
    have ⟨hu, hv, _, _, hd⟩ := nodup_middle h.nodup
    have ⟨hp, hn⟩ := h.middle
    have ⟨hsu, _, _, hsv⟩ := seg_append.mp h.seg
    rw [Links.unlink, hp, hn]
    refine seg_append.mpr ⟨?left, ?right⟩
    case left =>
      rw [Option.or_none]
      exact (hsu.setNext_last hu).setPrev fun a ha he => hd ha (List.mem_of_mem_head? he)
    case right =>
      rw [Option.or_none]
      refine Seg.setPrev_head (p := some w) ?_ hv
      exact hsv.setNext fun a ha he => hd (List.mem_of_mem_getLast? he) ha

theorem IsList.unlink_sameOutside (h : IsList L p (u ++ w :: v)) :
    SameOutside (u ++ w :: v) L (Links.unlink w L) := by
  have ⟨hp, hn⟩ := h.middle
  rw [Links.unlink, hp, hn]
  refine SameOutside.trans (sameOutside_setNext fun a ha => ?_) (sameOutside_setPrev fun a ha => ?_)
  case _ => simp [List.mem_of_mem_getLast? ha]
  case _ => simp [List.mem_of_mem_head? ha]

theorem IsList.link (h : IsList L p l) (hw : w ∉ l) :
    IsList (link l.getLast? w L) (p.or (some w)) (l ++ [w]) where
  head  := by rw [h.head]; cases l <;> rfl
  nodup := List.nodup_append'.mpr ⟨h.nodup, by simp, by simpa using hw⟩
  seg   := by
    have hx : ∀ a ∈ l, some w ≠ some a := fun a ha he => hw (Option.some.inj he ▸ ha)
    refine seg_append.mpr ⟨?left, ?right, setNext_next_self, trivial⟩
    case left  => exact ((h.seg.setNext_last h.nodup).setPrev hx).setNext hx
    case right => rw [Links.link, setNext_prev, setPrev_prev_self, Option.or_none]

theorem link_sameOutside : SameOutside (l ++ [w]) L (link l.getLast? w L) := by
  refine .trans (.trans (sameOutside_setNext fun a ha => ?_) (sameOutside_setPrev ?_))
    (sameOutside_setNext ?_)
  case refine_1 => simp [List.mem_of_mem_getLast? ha]
  all_goals simp

theorem IsList.swap {a b : α} (h : IsList L p (u ++ a :: b :: v)) :
    IsList (swap a b L) (if p = some a then some b else p) (u ++ b :: a :: v) where
  head := by
    have hw := (nodup_middle h.nodup).right.right.left
    rw [h.head]
    cases u
    case nil => simp
    case cons c u =>
      have : c ≠ a := fun he => hw (by simp [he])
      simp [this]
  nodup := by
    refine (List.Perm.nodup_iff ?_).mp h.nodup
    exact (List.Perm.swap b a v).append_left u
  seg := by
    have ⟨hu, hbv, hau, habv, hd⟩ := nodup_middle h.nodup
    have ⟨hbv, hv⟩ := List.nodup_cons.mp hbv
    have hab : some b ≠ some a := fun he => habv (by simp [Option.some.inj he])
    have hbu : b ∉ u := fun hb => hd hb (by simp)
    have hav : a ∉ v := fun ha => habv (by simp [ha])
    have hne {c : α} {m : List α} (hc : c ∉ m) : ∀ d ∈ m, some c ≠ some d :=
      fun d hm he => hc (Option.some.inj he ▸ hm)
    have ⟨hsu, hpa, hna, hpb, hnb, hsv⟩ := seg_append.mp h.seg
    rw [Option.or_none] at hpa hnb
    rw [Links.swap, hpa, hnb]
    refine seg_append.mpr ⟨?first, ?prev, setNext_next_self, ?prev', ?next', ?last⟩
    case first =>
      have hvu : ∀ d ∈ u, v.head? ≠ some d :=
        fun d hm he => hd hm (by simp [List.mem_of_mem_head? he])
      exact (((((hsu.setNext_last hu).setPrev hvu).setNext (hne hau)).setPrev (hne hbu)).setPrev
        (hne hau)).setNext (hne hbu)
    case prev =>
      rw [setNext_prev, setPrev_prev_of_ne hab.symm, setPrev_prev_self, Option.or_none]
    case prev' =>
      rw [setNext_prev, setPrev_prev_self]
    case next' =>
      rw [setNext_next_of_ne hab, setPrev_next, setPrev_next, setNext_next_self, Option.or_none]
    case last =>
      have huv : ∀ d ∈ v, u.getLast? ≠ some d :=
        fun d hm he => hd (List.mem_of_mem_getLast? he) (by simp [hm])
      have hs := (hsv.setNext (y := some b) huv).setPrev_head (x := some a) hv
      exact (((hs.setNext (hne hav)).setPrev (hne hbv)).setPrev (hne hav)).setNext (hne hbv)

theorem IsList.swap_sameOutside {a b : α} (h : IsList L p (u ++ a :: b :: v)) :
    SameOutside (u ++ a :: b :: v) L (Links.swap a b L) := by
  have hb : L.next b = v.head? := by
    have h : IsList L p ((u ++ [a]) ++ b :: v) := by simpa using h
    exact h.middle.right
  rw [Links.swap, h.middle.left, hb]
  refine .trans (.trans (.trans (.trans (.trans (sameOutside_setNext fun c hc => ?_)
    (sameOutside_setPrev fun c hc => ?_)) (sameOutside_setNext ?_)) (sameOutside_setPrev ?_))
    (sameOutside_setPrev ?_)) (sameOutside_setNext ?_)
  case refine_1 => simp [List.mem_of_mem_getLast? hc]
  case refine_2 => simp [List.mem_of_mem_head? hc]
  all_goals simp

end Links
