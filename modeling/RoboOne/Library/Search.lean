import Mathlib.Data.List.Basic

namespace Search

abbrev Word :=
  List Bool

-- Whether one of the words begins with the bit.
def goesOn (ws : List Word) (b : Bool) : Bool :=
  ws.any fun w => w.head? = some b

-- What follows on the bit in the words that begin with it.
def behind (b : Bool) (ws : List Word) : List Word :=
  (ws.filter fun w => w.head? = some b).map List.tail

-- The way that a walk takes when it is asked to take the one of `x`: it has a choice only where the
-- words part.
def taken (ws : List Word) (x : Bool) : Bool :=
  if goesOn ws false && goesOn ws true then x else !goesOn ws false

-- A walk down the tree of the words. It shows of each bit whether the words part there (or end), and
-- the way that it takes.
def walk : List Word → Word → List (Bool × Bool)
  | _,  []      => []
  | ws, x :: xs => (goesOn ws false == goesOn ws true, taken ws x) :: walk (behind (taken ws x) ws) xs

-- The word that a walk leads to.
def word (r : List (Bool × Bool)) : Word :=
  r.map Prod.snd

-- The number of the last bit at which the walk has left out the branch of the ones, or 0.
def lastZero : List (Bool × Bool) → Nat
  | []          => 0
  | (f, b) :: r =>
    match lastZero r with
    | 0     => if f && !b then 1 else 0
    | d + 1 => d + 2

-- The same of some words and one of them.
def discrepancy : List Word → Word → Nat
  | _,  []     => 0
  | ws, b :: w =>
    match discrepancy (behind b ws) w with
    | 0     => if !b && goesOn ws true then 1 else 0
    | d + 1 => d + 2

-- Two words part at a bit of which the first one has a zero.
inductive Before : Word → Word → Prop
  | here {w v} : Before (false :: w) (true :: v)
  | tail {b w v} : Before w v → Before (b :: w) (b :: v)

def zeros (n : Nat) : Word :=
  List.replicate n false

-- The way of the word up to the discrepancy, the way of the ones there, and zeros from there on.
def directions : Nat → Word → Word
  | _,     []     => []
  | 0,     _ :: w => zeros (w.length + 1)
  | 1,     _ :: w => true :: zeros w.length
  | d + 2, b :: w => b :: directions (d + 1) w

variable {ws : List Word} {w v xs : Word} {b x : Bool} {n d : Nat}

@[simp]
theorem goesOn_iff : goesOn ws b ↔ ∃ w, b :: w ∈ ws := by
  simp only [goesOn, List.any_eq_true, decide_eq_true_eq, List.head?_eq_some_iff]
  constructor
  case mp  => rintro ⟨_, hw, w, rfl⟩; exact ⟨w, hw⟩
  case mpr => exact fun ⟨w, hw⟩ => ⟨_, hw, w, rfl⟩

@[simp]
theorem mem_behind : w ∈ behind b ws ↔ b :: w ∈ ws := by
  simp only [behind, List.mem_map, List.mem_filter, decide_eq_true_eq, List.head?_eq_some_iff]
  constructor
  case mp  => rintro ⟨_, ⟨hw, w, rfl⟩, rfl⟩; exact hw
  case mpr => exact fun hw => ⟨_, ⟨hw, w, rfl⟩, rfl⟩

theorem goesOn_of_mem (h : b :: w ∈ ws) : goesOn ws b :=
  goesOn_iff.mpr ⟨w, h⟩

theorem taken_of_mem (h : b :: w ∈ ws) : taken ws b = b := by
  have hb := goesOn_of_mem h
  rw [taken]
  cases hz : goesOn ws false <;> cases ho : goesOn ws true <;> cases b <;> simp_all

@[simp]
theorem length_directions : (directions d w).length = w.length := by
  fun_induction directions d w <;> simp_all [zeros]

@[simp]
theorem directions_zero : directions 0 w = zeros w.length := by
  cases w <;> rfl

@[simp]
theorem length_walk : (walk ws xs).length = xs.length := by
  induction xs generalizing ws
  case nil          => rfl
  case cons x xs hi => rw [walk, List.length_cons, List.length_cons, hi]

theorem lastZero_concat {r : List (Bool × Bool)} {f : Bool} :
    lastZero (r ++ [(f, b)]) = if f && !b then r.length + 1 else lastZero r := by
  induction r
  case nil => rfl
  case cons y r hi =>
    have ⟨g, c⟩ := y
    rw [List.cons_append, lastZero, hi, lastZero]
    cases hf : f && !b
    case false => rfl
    case true  => rfl

theorem lastZero_le {r : List (Bool × Bool)} : lastZero r ≤ r.length := by
  induction r
  case nil => exact Nat.le_refl _
  case cons y r hi =>
    have ⟨f, b⟩ := y
    rw [lastZero, List.length_cons]
    cases h : lastZero r
    case zero =>
      dsimp only
      split <;> omega
    case succ d =>
      dsimp only
      omega

theorem getD_directions {i : Nat} : (directions d w).getD i false =
    if i < w.length then if i + 1 < d then w.getD i false else decide (i + 1 = d) else false := by
  have hzeros (n i : Nat) : (zeros n).getD i false = false := by
    rw [List.getD_eq_getElem?_getD, zeros, List.getElem?_replicate]
    split <;> rfl
  fun_induction directions d w generalizing i
  case case1 => simp
  case case2 => simp only [hzeros]; simp
  case case3 =>
    cases i
    case zero   => simp
    case succ i => simpa using hzeros _ i
  case case4 hi =>
    cases i
    case zero   => simp
    case succ i => simpa using hi

theorem word_walk_cons :
    word (walk ws (x :: xs)) = taken ws x :: word (walk (behind (taken ws x) ws) xs) :=
  rfl

-- There are words, and all of them have the length.
structure Uniform (n : Nat) (ws : List Word) : Prop where
  nonempty : ∃ w, w ∈ ws
  length   : ∀ w ∈ ws, w.length = n

theorem Uniform.step (h : Uniform (n + 1) ws) (hw : b :: w ∈ ws) : Uniform n (behind b ws) where
  nonempty    := ⟨w, mem_behind.mpr hw⟩
  length _ h' := Nat.succ.inj <| h.length _ <| mem_behind.mp h'

theorem Uniform.exists_cons (h : Uniform (n + 1) ws) : ∃ b w, b :: w ∈ ws := by
  have ⟨w, hw⟩ := h.nonempty
  have ⟨b, w', hcons⟩ := List.exists_cons_of_length_eq_add_one <| h.length w hw
  exact ⟨b, w', hcons ▸ hw⟩

-- One of the words begins with the bit that the walk takes.
theorem Uniform.exists_taken (h : Uniform (n + 1) ws) : ∃ w, taken ws x :: w ∈ ws := by
  have ⟨b, w, hw⟩ := h.exists_cons
  have hb := goesOn_of_mem hw
  rw [← goesOn_iff, taken]
  cases hz : goesOn ws false <;> cases ho : goesOn ws true <;> cases x <;> cases b <;> simp_all

theorem word_walk_mem (h : Uniform xs.length ws) : word (walk ws xs) ∈ ws := by
  induction xs generalizing ws
  case nil =>
    have ⟨w, hw⟩ := h.nonempty
    obtain rfl := List.length_eq_zero_iff.mp (h.length w hw)
    exact hw
  case cons x xs hi =>
    have ⟨w, hw⟩ := h.exists_taken (x := x)
    exact mem_behind.mp <| hi (h.step hw)

-- What a walk sees is what there is.
theorem lastZero_walk (h : Uniform xs.length ws) :
    lastZero (walk ws xs) = discrepancy ws (word (walk ws xs)) := by
  induction xs generalizing ws
  case nil => rfl
  case cons x xs hi =>
    have ⟨w, hw⟩ := h.exists_taken (x := x)
    rw [walk, lastZero, word, List.map_cons, discrepancy, ← word, ← hi (h.step hw)]
    cases lastZero (walk (behind (taken ws x) ws) xs)
    case succ => rfl
    case zero =>
      have hb := goesOn_of_mem hw
      rw [taken] at hb ⊢
      cases hz : goesOn ws false <;> cases ho : goesOn ws true <;> cases x <;> simp_all

theorem Before.cons_iff {c : Bool} :
    Before (b :: w) (c :: v) ↔ b = false ∧ c = true ∨ b = c ∧ Before w v := by
  constructor
  case mp =>
    rintro (_ | h)
    case here => exact .inl ⟨rfl, rfl⟩
    case tail => exact .inr ⟨rfl, h⟩
  case mpr =>
    rintro (⟨rfl, rfl⟩ | ⟨rfl, h⟩)
    case inl => exact .here
    case inr => exact .tail h

-- With zeros everywhere, the walk leads to a word that no other one is before.
theorem not_before_word_walk_zeros (h : Uniform n ws) (hv : v ∈ ws) :
    ¬Before v (word (walk ws (zeros n))) := by
  induction n generalizing ws v
  case zero => exact nofun
  case succ n hi =>
    have ⟨b, v', hcons⟩ := List.exists_cons_of_length_eq_add_one <| h.length v hv
    subst hcons
    have ⟨w, hw⟩ := h.exists_taken (x := false)
    have hb := goesOn_of_mem hv
    rw [zeros, List.replicate_succ, ← zeros, word_walk_cons, Before.cons_iff]
    rintro (⟨rfl, htaken⟩ | ⟨rfl, hbefore⟩)
    case inl =>
      rw [taken_of_mem hv] at htaken
      cases htaken
    case inr => exact hi (h.step hw) (mem_behind.mpr hv) hbefore

-- A word without a discrepancy is before no other one.
theorem not_before_of_discrepancy_eq_zero (h : Uniform w.length ws) (hw : w ∈ ws)
    (hd : discrepancy ws w = 0) (hv : v ∈ ws) : ¬Before w v := by
  induction w generalizing ws v
  case nil => exact nofun
  case cons b w hi =>
    have ⟨c, v', hcons⟩ := List.exists_cons_of_length_eq_add_one <| h.length v hv
    subst hcons
    rw [discrepancy] at hd
    split at hd
    case h_2 => cases hd
    case h_1 hbehind =>
      rw [Before.cons_iff]
      rintro (⟨rfl, rfl⟩ | ⟨rfl, hbefore⟩)
      case inl => simp [goesOn_of_mem hv] at hd
      case inr =>
        exact hi (h.step hw) (mem_behind.mpr hw) hbehind (mem_behind.mpr hv) hbefore

-- The word behind another one.
structure IsNext (ws : List Word) (w next : Word) : Prop where
  mem   : next ∈ ws
  after : Before w next
  least : ∀ v ∈ ws, Before w v → ¬Before v next

-- With the directions for the discrepancy of a word, the walk leads to the next one.
theorem word_walk_directions (h : Uniform w.length ws) (hw : w ∈ ws) (hd : discrepancy ws w ≠ 0) :
    IsNext ws w (word (walk ws (directions (discrepancy ws w) w))) := by
  have hmem : word (walk ws (directions (discrepancy ws w) w)) ∈ ws :=
    word_walk_mem (by rwa [length_directions])
  induction w generalizing ws
  case nil => exact absurd rfl hd
  case cons b w hi =>
    have hstep := h.step hw
    have hw' := mem_behind.mpr hw
    cases hd' : discrepancy (behind b ws) w
    case succ e =>
      -- The words part behind the first bit, which stays the same.
      have hdirections : directions (discrepancy ws (b :: w)) (b :: w) =
          b :: directions (discrepancy (behind b ws) w) w := by
        rw [discrepancy, hd', directions]
      rw [hdirections, word_walk_cons, taken_of_mem hw] at hmem ⊢
      have hi := hi hstep hw' (by simp [hd']) (mem_behind.mpr hmem)
      refine ⟨hmem, .tail hi.after, fun v hv hafter => ?_⟩
      have ⟨c, v', hcons⟩ := List.exists_cons_of_length_eq_add_one <| h.length v hv
      subst hcons
      rw [Before.cons_iff] at hafter ⊢
      rintro (⟨rfl, rfl⟩ | ⟨rfl, hbefore⟩)
      case inl => simp at hafter
      case inr => exact hi.least v' (mem_behind.mpr hv) (by simpa using hafter) hbefore
    case zero =>
      -- They part at the first bit, and the branch of the ones is still left.
      rw [discrepancy, hd'] at hd
      have ⟨hb, hones⟩ : b = false ∧ goesOn ws true := by simpa using hd
      subst hb
      have ⟨u, hu⟩ := goesOn_iff.mp hones
      have hdirections : directions (discrepancy ws (false :: w)) (false :: w) =
          true :: zeros w.length := by
        rw [discrepancy, hd']
        simp [hones, directions]
      rw [hdirections, word_walk_cons, taken_of_mem hu] at hmem ⊢
      refine ⟨hmem, .here, fun v hv hafter => ?_⟩
      have ⟨c, v', hcons⟩ := List.exists_cons_of_length_eq_add_one <| h.length v hv
      subst hcons
      rw [Before.cons_iff] at hafter ⊢
      rcases hafter with ⟨_, rfl⟩ | ⟨rfl, hafter⟩
      case inl => simpa using not_before_word_walk_zeros (h.step hu) (mem_behind.mpr hv)
      case inr =>
        exact absurd hafter <|
          not_before_of_discrepancy_eq_zero hstep hw' hd' (mem_behind.mpr hv)

-- At a discrepancy, there is a word that goes the same way until there, and another one from there on.
theorem exists_of_discrepancy (hd : discrepancy ws w = d + 1) :
    ∃ v ∈ ws, v ≠ w ∧ v.take d = w.take d := by
  induction w generalizing ws d
  case nil => cases hd
  case cons b w hi =>
    rw [discrepancy] at hd
    cases h : discrepancy (behind b ws) w
    case zero =>
      simp only [h] at hd
      split at hd
      case isFalse => cases hd
      case isTrue hones =>
        obtain rfl : d = 0 := (Nat.succ.inj hd).symm
        have ⟨hb, hones⟩ := Bool.and_eq_true_iff.mp hones
        have ⟨v, hv⟩ := goesOn_iff.mp hones
        exact ⟨_, hv, fun he => by simp [(List.cons.inj he).left.symm] at hb, rfl⟩
    case succ e =>
      simp only [h] at hd
      obtain rfl : d = e + 1 := (Nat.succ.inj hd).symm
      have ⟨v, hv, hne, htake⟩ := hi h
      refine ⟨b :: v, mem_behind.mp hv, fun he => hne (List.cons.inj he).right, ?_⟩
      rw [List.take_succ_cons, List.take_succ_cons, htake]

theorem Before.asymm (h : Before w v) : ¬Before v w := by
  induction h
  case here => exact nofun
  case tail hi =>
    rw [Before.cons_iff]
    rintro (⟨rfl, h⟩ | ⟨_, h⟩)
    case inl => cases h
    case inr => exact hi h

theorem Before.irrefl : ¬Before w w :=
  fun h => h.asymm h

-- All of the words in order.
def inOrder : Nat → List Word → List Word
  | 0,     ws => if ws.isEmpty then [] else [[]]
  | n + 1, ws => (inOrder n (behind false ws)).map (List.cons false) ++
    (inOrder n (behind true ws)).map (List.cons true)

theorem length_behind (h : ∀ w ∈ ws, w.length = n + 1) : ∀ w ∈ behind b ws, w.length = n :=
  fun _ hw => Nat.succ.inj <| h _ <| mem_behind.mp hw

theorem mem_inOrder (h : ∀ w ∈ ws, w.length = n) : w ∈ inOrder n ws ↔ w ∈ ws := by
  induction n generalizing ws w
  case zero =>
    have hnil : ∀ w ∈ ws, w = [] := fun w hw => List.length_eq_zero_iff.mp (h w hw)
    match ws with
    | []     => simp [inOrder]
    | v :: _ =>
      obtain rfl := hnil v (.head _)
      rw [inOrder, List.isEmpty_cons, if_neg Bool.false_ne_true, List.mem_singleton]
      exact ⟨fun hw => hw ▸ .head _, hnil w⟩
  case succ n hi =>
    have hmem (b : Bool) (w : Word) := hi (w := w) (length_behind (b := b) h)
    simp only [inOrder, List.mem_append, List.mem_map, hmem, mem_behind]
    constructor
    case mp => rintro (⟨w, hw, rfl⟩ | ⟨w, hw, rfl⟩) <;> exact hw
    case mpr =>
      intro hw
      have ⟨b, w', hcons⟩ := List.exists_cons_of_length_eq_add_one (h w hw)
      subst hcons
      cases b
      case false => exact .inl ⟨w', hw, rfl⟩
      case true  => exact .inr ⟨w', hw, rfl⟩

theorem pairwise_inOrder : (inOrder n ws).Pairwise Before := by
  induction n generalizing ws
  case zero =>
    rw [inOrder]
    split
    case isTrue  => exact .nil
    case isFalse => exact .cons (by simp) .nil
  case succ n hi =>
    have hcons (b : Bool) (ws : List Word) : ((inOrder n ws).map (List.cons b)).Pairwise Before :=
      List.pairwise_map.mpr <| hi.imp .tail
    refine List.pairwise_append.mpr ⟨hcons _ _, hcons _ _, fun w hw v hv => ?_⟩
    obtain ⟨w, _, rfl⟩ := List.mem_map.mp hw
    obtain ⟨v, _, rfl⟩ := List.mem_map.mp hv
    exact .here

theorem word_walk_zeros_eq_head (h : Uniform n ws) {post : List Word}
    (hs : inOrder n ws = w :: post) : word (walk ws (zeros n)) = w := by
  have hmem : word (walk ws (zeros n)) ∈ inOrder n ws :=
    (mem_inOrder h.length).mpr <| word_walk_mem (by simpa [zeros] using h)
  have hw : w ∈ ws := (mem_inOrder h.length).mp <| hs ▸ .head _
  rw [hs] at hmem
  rcases List.mem_cons.mp hmem with he | hpost
  case inl => exact he
  case inr =>
    have hp : (w :: post).Pairwise Before := hs ▸ pairwise_inOrder
    exact absurd (List.rel_of_pairwise_cons hp hpost) <| not_before_word_walk_zeros h hw

-- A discrepancy of a word shows that there is another one in order behind it, which is where the walk
-- leads to then.
theorem walk_in_order (h : Uniform n ws) {pre post : List Word}
    (hs : inOrder n ws = pre ++ w :: post) :
    discrepancy ws w = 0 ∧ post = [] ∨ discrepancy ws w ≠ 0 ∧
      ∃ post', post = word (walk ws (directions (discrepancy ws w) w)) :: post' := by
  have hmem (v : Word) := mem_inOrder (w := v) h.length
  have hp : (pre ++ w :: post).Pairwise Before := hs ▸ pairwise_inOrder
  have ⟨_, hpost, hpre⟩ := List.pairwise_append.mp hp
  have hw : w ∈ ws := (hmem w).mp <| by simp [hs]
  have hw' : Uniform w.length ws := by rwa [h.length w hw]
  by_cases hd : discrepancy ws w = 0
  case pos =>
    refine .inl ⟨hd, List.eq_nil_iff_forall_not_mem.mpr fun v hv => ?_⟩
    have hv' : v ∈ ws := (hmem v).mp <| by simp [hs, hv]
    exact not_before_of_discrepancy_eq_zero hw' hw hd hv' <| List.rel_of_pairwise_cons hpost hv
  case neg =>
    have hn := word_walk_directions hw' hw hd
    generalize word (walk ws (directions (discrepancy ws w) w)) = next at hn ⊢
    refine .inr ⟨hd, ?_⟩
    have hnext : next ∈ pre ++ w :: post := hs ▸ (hmem next).mpr hn.mem
    rcases List.mem_append.mp hnext with hin | hin
    case inl => exact absurd hn.after (hpre next hin w (.head _)).asymm
    case inr =>
      rcases List.mem_cons.mp hin with rfl | hin
      case inl => exact absurd hn.after Before.irrefl
      case inr =>
        match post, hpost, hin with
        | v :: post', hpost, hin =>
          refine ⟨post', ?_⟩
          rcases List.mem_cons.mp hin with rfl | hin
          case inl => rfl
          case inr =>
            have hv : v ∈ ws := (hmem v).mp <| by simp [hs]
            have hbefore := List.rel_of_pairwise_cons (List.pairwise_cons.mp hpost).right hin
            exact absurd hbefore <| hn.least v hv (List.rel_of_pairwise_cons hpost (.head _))

-- The words behind a way.
def follow : List Word → Word → List Word
  | ws, []      => ws
  | ws, x :: xs => follow (behind x ws) xs

@[simp]
theorem mem_follow : w ∈ follow ws v ↔ v ++ w ∈ ws := by
  induction v generalizing ws
  case nil          => rfl
  case cons x xs hi => exact hi.trans mem_behind

-- How many bits of a way are the only ones that there are, or 0 if it leads nowhere.
def uncontested : List Word → Word → Nat → Nat
  | _,  [],      good => good
  | ws, x :: xs, good =>
    if !goesOn ws false && !goesOn ws true then 0
    else uncontested (behind x ws) xs (if goesOn ws x && !goesOn ws !x then good + 1 else good)

theorem uncontested_eq_zero {good j : Nat} (hj : j < w.length) (h : ∀ v, v ∉ follow ws (w.take j)) :
    uncontested ws w good = 0 := by
  induction w generalizing ws good j
  case nil => cases hj
  case cons x xs hi =>
    rw [uncontested]
    cases j
    case zero =>
      have hno (b : Bool) : goesOn ws b = false := by
        refine Bool.eq_false_iff.mpr fun hb => ?_
        have ⟨w, hw⟩ := goesOn_iff.mp hb
        exact h _ hw
      rw [hno, hno]
      rfl
    case succ j =>
      split
      case isTrue  => rfl
      case isFalse => exact hi (Nat.lt_of_succ_lt_succ hj) h

theorem uncontested_cons_of_mem {good : Nat} (hw : x :: xs ∈ ws) : uncontested ws (x :: xs) good =
    uncontested (behind x ws) xs (if goesOn ws !x then good else good + 1) := by
  have hx := goesOn_of_mem hw
  have hsome : ¬(!goesOn ws false && !goesOn ws true) := by
    cases x <;> simp only [hx] <;> simp
  rw [uncontested, if_neg hsome, hx]
  cases goesOn ws !x <;> rfl

-- Where a word is the only one, all of its bits count.
theorem uncontested_of_unique {good : Nat} (hw : w ∈ ws) (hu : ∀ v ∈ ws, v = w) :
    uncontested ws w good = good + w.length := by
  induction w generalizing ws good
  case nil => rfl
  case cons x xs hi =>
    have hno : goesOn ws (!x) = false := by
      refine Bool.eq_false_iff.mpr fun hb => ?_
      have ⟨v, hv⟩ := goesOn_iff.mp hb
      have he := (List.cons.inj (hu _ hv)).left
      cases x <;> cases he
    rw [uncontested_cons_of_mem hw, hno, if_neg Bool.false_ne_true,
      hi (mem_behind.mpr hw) fun v hv => (List.cons.inj (hu _ (mem_behind.mp hv))).right,
      List.length_cons]
    omega

theorem length_le_uncontested {good : Nat} (hw : v ++ w ∈ ws) (hu : ∀ u ∈ follow ws v, u = w) :
    good + w.length ≤ uncontested ws (v ++ w) good := by
  induction v generalizing ws good
  case nil          => exact Nat.le_of_eq (uncontested_of_unique hw hu).symm
  case cons x xs hi =>
    rw [List.cons_append] at hw ⊢
    rw [uncontested_cons_of_mem hw]
    refine Nat.le_trans ?_ <| hi (mem_behind.mpr hw) hu
    split <;> omega

end Search
