import RoboOne.Library.Trace

namespace Interaction

-- Somebody who sees the calls of a program: what is remembered of them, and what is expected of each one.
structure Observer {κ : Type} (A : κ → Type) (γ : Type) where
  see     : γ → (c : κ) × A c → γ
  Expects : γ → (c : κ) × A c → Prop

namespace Observer

variable {κ σ γ α β : Type} {A : κ → Type} {o : Observer A γ} {g : γ} {calls calls' : History A}
  {p q : Program A σ α} {Q R : α → γ → Prop}

-- What is remembered behind some calls.
def behind (o : Observer A γ) (g : γ) (calls : History A) : γ :=
  calls.foldl o.see g

-- All calls are as expected.
def Follows (o : Observer A γ) : γ → History A → Prop
  | _, []         => True
  | g, x :: calls => o.Expects g x ∧ o.Follows (o.see g x) calls

theorem behind_append : o.behind g (calls ++ calls') = o.behind (o.behind g calls) calls' :=
  List.foldl_append

theorem Follows.append (h : o.Follows g calls) (h' : o.Follows (o.behind g calls) calls') :
    o.Follows g (calls ++ calls') := by
  induction calls generalizing g
  case nil             => exact h'
  case cons x calls hi => exact ⟨h.left, hi h.right h'⟩

theorem Follows.of_append (h : o.Follows g (calls ++ calls')) :
    o.Follows g calls ∧ o.Follows (o.behind g calls) calls' := by
  induction calls generalizing g
  case nil             => exact ⟨trivial, h⟩
  case cons x calls hi => exact ⟨⟨h.left, (hi h.right).left⟩, (hi h.right).right⟩

-- Of what is remembered, the program makes calls that are as expected, and `Q` holds of the value that it
-- returns, and of what is remembered then.
def Accepts (o : Observer A γ) (g : γ) (p : Program A σ α) (Q : α → γ → Prop) : Prop :=
  ∀ m, Traces m p fun calls a _ => o.Follows g calls ∧ Q a (o.behind g calls)

namespace Accepts

theorem pure {a : α} (h : Q a g) : o.Accepts g (pure a : Program A σ α) Q :=
  fun _ => .pure ⟨trivial, h⟩

theorem call {c : κ} {Q : A c → γ → Prop}
    (h : ∀ a, o.Expects g ⟨c, a⟩ ∧ Q a (o.see g ⟨c, a⟩)) :
    o.Accepts g (call c : Program A σ (A c)) Q :=
  fun _ => .call fun a => ⟨⟨(h a).left, trivial⟩, (h a).right⟩

theorem load {Q : σ → γ → Prop} (h : ∀ m, Q m g) : o.Accepts g (load : Program A σ σ) Q :=
  fun m => .load ⟨trivial, h m⟩

theorem store {s : σ} {Q : Unit → γ → Prop} (h : Q () g) :
    o.Accepts g (store s : Program A σ Unit) Q :=
  fun _ => .store ⟨trivial, h⟩

theorem bind {f : α → Program A σ β} {R : β → γ → Prop} (hp : o.Accepts g p Q)
    (hf : ∀ a g', Q a g' → o.Accepts g' (f a) R) : o.Accepts g (p >>= f) R := by
  intro m
  refine .bind <| (hp m).mono fun calls a m₁ ⟨hc, hq⟩ => ?_
  refine (hf a _ hq m₁).mono fun calls' b m' ⟨hc', hr⟩ => ⟨hc.append hc', ?_⟩
  rwa [behind_append]

theorem ite {c : Prop} [Decidable c] (hp : c → o.Accepts g p Q) (hq : ¬c → o.Accepts g q Q) :
    o.Accepts g (if c then p else q) Q :=
  fun m => .ite (fun h => hp h m) fun h => hq h m

theorem mono (h : o.Accepts g p Q) (hQ : ∀ a g', Q a g' → R a g') : o.Accepts g p R :=
  fun m => (h m).mono fun _ _ _ ⟨hc, hq⟩ => ⟨hc, hQ _ _ hq⟩

end Accepts

-- From each memory with `I` the calls are as expected, and `I` holds behind them.
def Maintains (o : Observer A γ) (I : γ → Prop) (calls : History A) : Prop :=
  ∀ g, I g → o.Follows g calls ∧ I (o.behind g calls)

variable {I : γ → Prop}

theorem maintains_composes : Composes fun (_ : σ) calls (_ : σ) => o.Maintains I calls where
  refl _ _ hg := ⟨trivial, hg⟩
  trans h h' g hg := by
    have ⟨hc, hg⟩   := h g hg
    have ⟨hc', hg'⟩ := h' _ hg
    exact ⟨hc.append hc', behind_append ▸ hg'⟩

theorem maintains_singleton {c : κ} {a : A c}
    (h : ∀ g, I g → o.Expects g ⟨c, a⟩ ∧ I (o.see g ⟨c, a⟩)) : o.Maintains I [⟨c, a⟩] :=
  fun g hg => ⟨⟨(h g hg).left, trivial⟩, (h g hg).right⟩

theorem accepts_of_relates (h : Relates (fun _ calls _ => o.Maintains I calls) p) (hg : I g) :
    o.Accepts g p fun _ g' => I g' :=
  fun m => (h m).mono fun _ _ _ hc => hc g hg

-- The run of the program is the same one for each memory.
theorem relates_of_accepts (h : ∀ g, I g → o.Accepts g p fun _ g' => I g') (hg : I g) :
    Relates (fun _ calls _ => o.Maintains I calls) p := by
  intro m env h₀
  have ⟨calls, a, m', hp, hc, _⟩ := h g hg m env h₀
  exact ⟨calls, a, m', hp, hc, fun g' hg' => ((h g' hg' m).result hp rfl).right⟩

end Observer

end Interaction
