import RoboOne.Library.Program

namespace Interaction

variable {κ κ' σ σ' α β : Type} {A : κ → Type} {A' : κ' → Type}

-- The calls behind a history have been answered by the environment.
def Answered (env : Environment A) : History A → History A → Prop
  | _, []             => True
  | h, ⟨c, a⟩ :: calls => a = env h c ∧ Answered env (h ++ [⟨c, a⟩]) calls

theorem Answered.append {env : Environment A} {h calls calls' : History A}
    (hc : Answered env h calls) (hc' : Answered env (h ++ calls) calls') :
    Answered env h (calls ++ calls') := by
  induction calls generalizing h
  case nil => rwa [List.append_nil] at hc'
  case cons x calls hi =>
    refine ⟨hc.left, hi hc.right ?_⟩
    rwa [List.append_assoc]

-- From the variables `m` the program does not fail, whatever answers it gets, and `Q` holds of the calls
-- that it makes, of the value that it returns, and of its variables afterwards.
def Traces (m : σ) (p : Program A σ α) (Q : History A → α → σ → Prop) : Prop :=
  ∀ env h, ∃ calls a m', p env ⟨m, h⟩ = some (a, ⟨m', h ++ calls⟩) ∧ Answered env h calls ∧
    Q calls a m'

-- What is seen of the first element comes before what is seen of the others.
theorem filterMap_cons_toList {f : α → Option β} {x : α} {xs : List α} :
    (x :: xs).filterMap f = (f x).toList ++ xs.filterMap f := by
  rw [List.filterMap_cons]
  cases f x <;> rfl

namespace Traces

variable {m : σ} {p : Program A σ α} {Q R : History A → α → σ → Prop}

theorem of_eq {a : α} {m' : σ} (hp : ∀ env h, p env ⟨m, h⟩ = some (a, ⟨m', h⟩)) (h : Q [] a m') :
    Traces m p Q :=
  fun env h₀ => ⟨[], a, m', by rw [List.append_nil]; exact hp env h₀, trivial, h⟩

theorem pure {a : α} (h : Q [] a m) : Traces m (pure a) Q :=
  .of_eq (fun _ _ => rfl) h

theorem call {c : κ} {Q : History A → A c → σ → Prop} (h : ∀ a, Q [⟨c, a⟩] a m) :
    Traces m (call c) Q :=
  fun env h₀ => ⟨_, env h₀ c, m, rfl, ⟨rfl, trivial⟩, h _⟩

theorem load {Q : History A → σ → σ → Prop} (h : Q [] m m) : Traces m load Q :=
  .of_eq (fun _ _ => rfl) h

theorem store {s : σ} {Q : History A → Unit → σ → Prop} (h : Q [] () s) : Traces m (store s) Q :=
  .of_eq (fun _ _ => rfl) h

theorem assert {b : Bool} {Q : History A → Unit → σ → Prop} (hb : b = true) (h : Q [] () m) :
    Traces m (assert b) Q :=
  .of_eq (fun _ _ => if_pos hb) h

-- The calls of a program come before those of the program behind it.
theorem bind {f : α → Program A σ β} {R : History A → β → σ → Prop}
    (h : Traces m p fun calls a m₁ => Traces m₁ (f a) fun calls' => R (calls ++ calls')) :
    Traces m (p >>= f) R := by
  intro env h₀
  have ⟨calls, a, m₁, hp, hc, hf⟩ := h env h₀
  have ⟨calls', b, m', hb, hc', hR⟩ := hf env (h₀ ++ calls)
  refine ⟨calls ++ calls', b, m', ?_, hc.append hc', hR⟩
  rw [bind_apply, hp, ← List.append_assoc]
  exact hb

theorem ite {c : Prop} [Decidable c] {q : Program A σ α} (hp : c → Traces m p Q)
    (hq : ¬c → Traces m q Q) : Traces m (if c then p else q) Q := by
  by_cases h : c
  case pos => exact if_pos h ▸ hp h
  case neg => exact if_neg h ▸ hq h

theorem mono (h : Traces m p Q) (hQ : ∀ calls a m', Q calls a m' → R calls a m') :
    Traces m p R := by
  intro env h₀
  have ⟨calls, a, m', hp, hc, hq⟩ := h env h₀
  exact ⟨calls, a, m', hp, hc, hQ _ _ _ hq⟩

-- What is true of a run of the program.
theorem result {env : Environment A} {w w' : World A σ} {a : α} {calls : History A}
    (h : Traces w.memory p Q) (hp : p env w = some (a, w')) (hh : w'.history = w.history ++ calls) :
    Answered env w.history calls ∧ Q calls a w'.memory := by
  have ⟨calls', b, m', hb, hc, hq⟩ := h env w.history
  obtain ⟨rfl, rfl⟩ := Prod.mk.inj <| Option.some.inj <| hp.symm.trans hb
  obtain rfl : calls' = calls := List.append_cancel_left hh
  exact ⟨hc, hq⟩

end Traces

-- A relation between the variables before and behind some calls that holds of a run if it holds of its
-- parts.
structure Composes (R : σ → History A → σ → Prop) : Prop where
  refl  : ∀ m, R m [] m
  trans : ∀ {m m₁ m' calls calls'}, R m calls m₁ → R m₁ calls' m' → R m (calls ++ calls') m'

-- All runs of the program are in the relation.
def Relates (R : σ → History A → σ → Prop) (p : Program A σ α) : Prop :=
  ∀ m, Traces m p fun calls _ m' => R m calls m'

namespace Relates

variable {R : σ → History A → σ → Prop} {p q : Program A σ α}

theorem pure (hR : Composes R) {a : α} : Relates R (pure a : Program A σ α) :=
  fun m => .pure (hR.refl m)

theorem bind (hR : Composes R) {f : α → Program A σ β} (hp : Relates R p)
    (hf : ∀ a, Relates R (f a)) : Relates R (p >>= f) :=
  fun m => .bind <| (hp m).mono fun _ a m₁ h => (hf a m₁).mono fun _ _ _ h' => hR.trans h h'

theorem ite {c : Prop} [Decidable c] (hp : Relates R p) (hq : Relates R q) :
    Relates R (if c then p else q) :=
  fun m => .ite (fun _ => hp m) fun _ => hq m

end Relates

-- A program is in the relation if each of its calls is, and its variables do not change.
theorem Makes.relates {C : κ → Prop} {R : σ → History A → σ → Prop} {p : Program A σ α}
    (hp : Makes C p) (hR : Composes R) (hc : ∀ c, C c → ∀ m a, R m [⟨c, a⟩] m) : Relates R p := by
  intro m env h₀
  let I (w : World A σ) : Prop :=
    w.memory = m ∧ ∃ calls, w.history = h₀ ++ calls ∧ Answered env h₀ calls ∧ R m calls m
  have hI : Keeps env I p := hp env I fun c h => ensures_call fun w hI => by
    obtain ⟨hm, calls, hw, ha, hr⟩ := hI
    refine ⟨hm, calls ++ [⟨c, env w.history c⟩], ?_, ha.append ?_, hR.trans hr (hc c h m _)⟩
    case refine_1 => rw [World.record, hw, List.append_assoc]
    case refine_2 => exact ⟨by rw [hw], trivial⟩
  obtain ⟨a, ⟨m', h'⟩, he, hm, calls, hh, ha, hr⟩ :=
    hI ⟨m, h₀⟩ ⟨rfl, [], (List.append_nil h₀).symm, trivial, hR.refl m⟩
  obtain rfl : m' = m := hm
  obtain rfl : h' = h₀ ++ calls := hh
  exact ⟨calls, a, m', he, ha, hr⟩

-- A call of one part of a larger program, and its answer.
def History.left (h : History A) : History (Sum.elim A A') :=
  h.map fun x => ⟨.inl x.1, x.2⟩

@[simp]
theorem History.left_nil : (History.left [] : History (Sum.elim A A')) = [] :=
  rfl

-- A program that has variables and calls of its own makes use of another one.
def part (p : Program A σ α) : Program (Sum.elim A A') (σ × σ') α := fun env w =>
  (p (fun h c => env (w.history ++ h.left) (.inl c)) ⟨w.memory.1, []⟩).map fun r =>
    (r.1, ⟨(r.2.memory, w.memory.2), w.history ++ r.2.history.left⟩)

theorem Answered.part {env : Environment (Sum.elim A A')} {h₀ : History (Sum.elim A A')}
    {h calls : History A} (hc : Answered (fun h c => env (h₀ ++ h.left) (.inl c)) h calls) :
    Answered env (h₀ ++ h.left) calls.left := by
  induction calls generalizing h
  case nil => trivial
  case cons x calls hi =>
    have hx : (History.left (h ++ [x]) : History (Sum.elim A A')) = h.left ++ [⟨.inl x.1, x.2⟩] :=
      List.map_append
    refine ⟨hc.left, ?_⟩
    have hrest : Answered env (h₀ ++ History.left (h ++ [x])) (History.left calls) := hi hc.right
    rw [hx, ← List.append_assoc] at hrest
    exact hrest

theorem Traces.part {m : σ × σ'} {p : Program A σ α}
    {Q : History (Sum.elim A A') → α → σ × σ' → Prop}
    (h : Traces m.1 p fun calls a m' => Q calls.left a (m', m.2)) : Traces m (part p) Q := by
  intro env h₀
  have ⟨calls, a, m', hp, hc, hq⟩ := h (fun h c => env (h₀ ++ h.left) (.inl c)) []
  refine ⟨_, a, _, ?_, ?_, hq⟩
  case refine_1 =>
    rw [Interaction.part, hp]
    rfl
  case refine_2 =>
    have hleft := hc.part
    rwa [History.left_nil, List.append_nil] at hleft

end Interaction
