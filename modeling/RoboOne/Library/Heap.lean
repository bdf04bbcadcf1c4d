import RoboOne.Library.DoublyLinked

-- The memory that a program allocates. There is nothing at an address that is not in use.
abbrev Heap (α ν : Type*) :=
  α → Option ν

namespace Heap

variable {α ν : Type*} {h h' : Heap α ν} {a b : α} {v v' : ν} {p : Option α} {f : ν → ν}

-- What `p` points to. `none` for the null pointer and for a pointer to memory that has been freed.
def load (p : Option α) (h : Heap α ν) : Option ν :=
  p.bind h

@[simp]
theorem load_some : h.load (some a) = h a :=
  rfl

variable [DecidableEq α]

-- `*p = f (*p)`. Fails like `load`.
def modify (p : Option α) (f : ν → ν) (h : Heap α ν) : Option (Heap α ν) :=
  p.bind fun a => (h a).map fun v => Function.update h a (some (f v))

-- `if (p != PNULL) *p = f (*p)`.
def modifyNonNull (p : Option α) (f : ν → ν) (h : Heap α ν) : Option (Heap α ν) :=
  if p = none then some h else h.modify p f

-- Memory that is not in use cannot be freed.
def free (a : α) (h : Heap α ν) : Option (Heap α ν) :=
  (h a).map fun _ => Function.update h a none

theorem modify_of_eq_some (hv : h a = some v) :
    h.modify (some a) f = some (Function.update h a (some (f v))) := by
  simp [modify, hv]

theorem free_of_eq_some (hv : h a = some v) : h.free a = some (Function.update h a none) := by
  simp [free, hv]

section Nodes

variable (prev next : ν → Option α)

-- The links of nodes that are stored in memory.
def links (h : Heap α ν) : Links α where
  prev a := (h a).bind prev
  next a := (h a).bind next

variable {prev next} {l : List α}

omit [DecidableEq α] in
theorem links_prev_of_eq_some (hv : h a = some v) : (h.links prev next).prev a = prev v := by
  simp [links, hv]

omit [DecidableEq α] in
theorem links_next_of_eq_some (hv : h a = some v) : (h.links prev next).next a = next v := by
  simp [links, hv]

-- An assignment to the one link of a node leaves the other one as it is.
theorem links_setPrev {q : Option α} (hv : h a = some v) (hp : prev v' = q)
    (hn : next v' = next v) : Heap.links prev next (Function.update h a (some v')) =
      (h.links prev next).setPrev (some a) q := by
  ext b c
  case prev =>
    by_cases hb : b = a
    case pos => subst hb; simp [links, hp]
    case neg => simp [links, Links.setPrev, hb]
  case next =>
    by_cases hb : b = a
    case pos => subst hb; simp [links, hn, hv]
    case neg => simp [links, hb]

theorem links_setNext {q : Option α} (hv : h a = some v) (hp : prev v' = prev v)
    (hn : next v' = q) : Heap.links prev next (Function.update h a (some v')) =
      (h.links prev next).setNext (some a) q := by
  ext b c
  case prev =>
    by_cases hb : b = a
    case pos => subst hb; simp [links, hp, hv]
    case neg => simp [links, hb]
  case next =>
    by_cases hb : b = a
    case pos => subst hb; simp [links, hn]
    case neg => simp [links, Links.setNext, hb]

-- A list that does not have the node is not concerned with what becomes of the memory of the node.
theorem isList_update {o : Option ν} (hl : (h.links prev next).IsList p l) (ha : a ∉ l) :
    (Heap.links prev next (Function.update h a o)).IsList p l := by
  refine hl.same_outside (l := [a]) (by simpa using ha) fun b hb => ?_
  have hb : b ≠ a := by simpa using hb
  simp [links, hb]

end Nodes

end Heap
