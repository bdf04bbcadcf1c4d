import Mathlib.Data.List.Basic

namespace Interaction

variable {κ σ α β : Type} {A : κ → Type}

-- The calls that a program has made to its environment, with the answers, oldest first.
abbrev History (A : κ → Type) :=
  List ((c : κ) × A c)

-- What answers the calls of a program. It may make use of everything that it has been asked before.
abbrev Environment (A : κ → Type) :=
  History A → (c : κ) → A c

structure World (A : κ → Type) (σ : Type) where
  memory  : σ
  history : History A

def World.record (w : World A σ) (c : κ) (a : A c) : World A σ :=
  { w with history := w.history ++ [⟨c, a⟩] }

theorem World.call_eq_of_record_eq {w : World A σ} {c c' : κ} {a : A c} {a' : A c'}
    (h : w.record c a = w.record c' a') : c = c' := by
  have h := List.append_cancel_left <| congrArg World.history h
  exact congrArg Sigma.fst (List.singleton_injective h)

-- A program that has some variables, and that makes calls to an environment. It yields `none` if an
-- assertion fails.
abbrev Program (A : κ → Type) (σ : Type) :=
  ReaderT (Environment A) (StateT (World A σ) Option)

def call (c : κ) : Program A σ (A c) :=
  fun env w => some (env w.history c, w.record c (env w.history c))

def load : Program A σ σ :=
  fun _ w => some (w.memory, w)

def store (s : σ) : Program A σ Unit :=
  fun _ w => some ((), { w with memory := s })

def assert (b : Bool) : Program A σ Unit :=
  fun _ w => if b then some ((), w) else none

-- The world behind a program, without the value that it returns.
def exec (p : Program A σ α) (env : Environment A) (w : World A σ) : Option (World A σ) :=
  (p env w).map Prod.snd

-- No assertion of the program fails if it starts with `P`, and it ends with `Q`.
def Ensures (env : Environment A) (P : World A σ → Prop) (p : Program A σ α)
    (Q : α → World A σ → Prop) : Prop :=
  ∀ w, P w → ∃ a w', p env w = some (a, w') ∧ Q a w'

variable {env : Environment A} {P P' : World A σ → Prop} {p : Program A σ α}
  {Q Q' : α → World A σ → Prop} {w w' : World A σ}

theorem bind_apply (p : Program A σ α) (f : α → Program A σ β) (env : Environment A)
    (w : World A σ) : (p >>= f) env w = (p env w).bind fun r => f r.fst env r.snd :=
  rfl

-- Two assertions are one.
theorem assert_bind_assert_bind {b b' : Bool} {p : Program A σ α} :
    (assert b >>= fun _ => assert b' >>= fun _ => p) = assert (b && b') >>= fun _ => p := by
  cases b
  case false => rfl
  case true  => rfl

theorem ensures_pure {a : α} (h : ∀ w, P w → Q a w) : Ensures env P (pure a) Q :=
  fun w hw => ⟨a, w, rfl, h w hw⟩

theorem ensures_call {c : κ} {Q : A c → World A σ → Prop}
    (h : ∀ w, P w → Q (env w.history c) (w.record c (env w.history c))) :
    Ensures env P (call c) Q :=
  fun w hw => ⟨_, _, rfl, h w hw⟩

theorem ensures_load {Q : σ → World A σ → Prop} (h : ∀ w, P w → Q w.memory w) :
    Ensures env P load Q :=
  fun w hw => ⟨_, _, rfl, h w hw⟩

theorem ensures_store {s : σ} {Q : Unit → World A σ → Prop}
    (h : ∀ w, P w → Q () { w with memory := s }) : Ensures env P (store s) Q :=
  fun w hw => ⟨_, _, rfl, h w hw⟩

theorem Ensures.bind {R : β → World A σ → Prop} {f : α → Program A σ β}
    (hp : Ensures env P p Q) (hf : ∀ a, Ensures env (Q a) (f a) R) : Ensures env P (p >>= f) R := by
  intro w hw
  have ⟨a, m, hm, hQ⟩ := hp w hw
  have ⟨b, w', hw', hR⟩ := hf a m hQ
  refine ⟨b, w', ?_, hR⟩
  rw [bind_apply, hm]
  exact hw'

theorem Ensures.ite {c : Prop} [Decidable c] {q : Program A σ α} (hp : c → Ensures env P p Q)
    (hq : ¬c → Ensures env P q Q) : Ensures env P (if c then p else q) Q := by
  by_cases h : c
  case pos => exact if_pos h ▸ hp h
  case neg => exact if_neg h ▸ hq h

theorem Ensures.mono (h : Ensures env P p Q) (hP : ∀ w, P' w → P w)
    (hQ : ∀ a w, Q a w → Q' a w) : Ensures env P' p Q' := by
  intro w hw
  have ⟨a, w', hw', hq⟩ := h w (hP w hw)
  exact ⟨a, w', hw', hQ a w' hq⟩

theorem Ensures.result {a : α} (h : Ensures env P p Q) (hw : P w) (hp : p env w = some (a, w')) :
    Q a w' := by
  have ⟨b, m, hm, hq⟩ := h w hw
  obtain ⟨rfl, rfl⟩ := Prod.mk.inj <| Option.some.inj <| hp.symm.trans hm
  exact hq

theorem Ensures.and (h : Ensures env P p Q) (h' : Ensures env P' p Q') :
    Ensures env (fun w => P w ∧ P' w) p (fun a w => Q a w ∧ Q' a w) := by
  intro w hw
  have ⟨a, m, hm, hq⟩ := h w hw.left
  have ⟨a', m', hm', hq'⟩ := h' w hw.right
  obtain ⟨rfl, rfl⟩ := Prod.mk.inj <| Option.some.inj <| hm.symm.trans hm'
  exact ⟨a, m, hm, hq, hq'⟩

-- What is assumed of values that the program already has.
theorem Ensures.pull {φ : Prop} (h : φ → Ensures env P p Q) :
    Ensures env (fun w => φ ∧ P w) p Q :=
  fun w hw => h hw.left w hw.right

-- The program goes on with the branch for success if success is certain.
theorem Ensures.bind_ite {R : World A σ → Prop} {R' : β → World A σ → Prop} {p : Program A σ Bool}
    {q q' : Bool → Program A σ β}
    (hp : Ensures env P p fun success w => success = true ∧ R w) (hq : Ensures env R (q true) R') :
    Ensures env P (p >>= fun success => if success then q success else q' success) R' := by
  refine .bind hp fun success => .pull ?_
  rintro rfl
  exact .ite (fun _ => hq) fun h => absurd rfl h

theorem Ensures.exec (h : Ensures env P p Q) (hw : P w) :
    ∃ w', exec p env w = some w' ∧ ∃ a, Q a w' := by
  have ⟨a, w', hw', hq⟩ := h w hw
  exact ⟨w', congrArg (Option.map Prod.snd) hw', a, hq⟩

-- The program does not fail, and keeps the invariant.
def Keeps (env : Environment A) (I : World A σ → Prop) (p : Program A σ α) : Prop :=
  Ensures env I p fun _ => I

namespace Keeps

variable {I : World A σ → Prop}

theorem pure {a : α} : Keeps env I (pure a) :=
  ensures_pure fun _ h => h

theorem bind {f : α → Program A σ β} (hp : Keeps env I p) (hf : ∀ a, Keeps env I (f a)) :
    Keeps env I (p >>= f) :=
  Ensures.bind hp hf

theorem ite {c : Prop} [Decidable c] {q : Program A σ α} (hp : Keeps env I p)
    (hq : Keeps env I q) : Keeps env I (if c then p else q) :=
  Ensures.ite (fun _ => hp) fun _ => hq

-- What is known about the value that the program returns.
theorem returns {φ : α → Prop} (hk : Keeps env I p)
    (h : Ensures env (fun _ => True) p fun a _ => φ a) :
    Ensures env I p fun a w => φ a ∧ I w :=
  (h.and hk).mono (fun _ hw => ⟨trivial, hw⟩) fun _ _ hw => hw

end Keeps

-- The program does not change its variables, whatever it calls.
def KeepsMemory (env : Environment A) (p : Program A σ α) : Prop :=
  ∀ m, Ensures env (·.memory = m) p fun _ w => w.memory = m

-- The program does nothing but calls that satisfy `C`. So it keeps whatever these calls keep.
def Makes (C : κ → Prop) (p : Program A σ α) : Prop :=
  ∀ env I, (∀ c, C c → Keeps env I (call c)) → Keeps env I p

namespace Makes

variable {C C' : κ → Prop}

theorem pure {a : α} : Makes C (pure a : Program A σ α) :=
  fun _ _ _ => .pure

theorem call {c : κ} (h : C c) : Makes C (call c : Program A σ (A c)) :=
  fun _ _ hk => hk c h

theorem bind {f : α → Program A σ β} (hp : Makes C p) (hf : ∀ a, Makes C (f a)) :
    Makes C (p >>= f) :=
  fun env I hk => (hp env I hk).bind fun a => hf a env I hk

theorem ite {c : Prop} [Decidable c] {q : Program A σ α} (hp : Makes C p) (hq : Makes C q) :
    Makes C (if c then p else q) :=
  fun env I hk => .ite (hp env I hk) (hq env I hk)

theorem mono (h : Makes C p) (hC : ∀ c, C c → C' c) : Makes C' p :=
  fun env I hk => h env I fun c hc => hk c (hC c hc)

-- What no answer to one of the calls changes.
theorem keeps {I : World A σ → Prop} (h : Makes C p)
    (hI : ∀ c, C c → ∀ w a, I w → I (w.record c a)) : Keeps env I p :=
  h env I fun c hc => ensures_call fun w hw => hI c hc w _ hw

theorem keepsMemory (h : Makes C p) : KeepsMemory env p :=
  fun _ => h.keeps fun _ _ _ _ hw => hw

end Makes

-- `H` holds of what the calls since the history `h₀` have made of `x`, one after the other.
def FoldSince (f : β → (c : κ) × A c → β) (x : β) (h₀ : History A) (H : β → Prop)
    (w : World A σ) : Prop :=
  ∃ calls, w.history = h₀ ++ calls ∧ H (calls.foldl f x)

namespace FoldSince

variable {f : β → (c : κ) × A c → β} {x : β} {h₀ : History A} {H H' : β → Prop} {c : κ} {a : A c}
  {C : κ → Prop}

theorem start (h : H x) : FoldSince f x w.history H w :=
  ⟨[], (List.append_nil _).symm, h⟩

theorem mono (hw : FoldSince f x h₀ H w) (h : ∀ y, H y → H' y) : FoldSince f x h₀ H' w := by
  have ⟨calls, hc, hy⟩ := hw
  exact ⟨calls, hc, h _ hy⟩

theorem record (hw : FoldSince f x h₀ H w) (h : ∀ y, H y → H' (f y ⟨c, a⟩)) :
    FoldSince f x h₀ H' (w.record c a) := by
  have ⟨calls, hc, hy⟩ := hw
  refine ⟨calls ++ [⟨c, a⟩], by rw [World.record, hc, List.append_assoc], ?_⟩
  rw [List.foldl_append]
  exact h _ hy

theorem result (hw : FoldSince f x h₀ H w) : H ((w.history.drop h₀.length).foldl f x) := by
  have ⟨calls, hc, hy⟩ := hw
  rwa [hc, List.drop_left]

-- The calls that a program makes do not matter for `H`.
theorem keeps (hp : Makes C p) (h : ∀ c, C c → ∀ y a, H y → H (f y ⟨c, a⟩)) :
    Keeps env (FoldSince f x h₀ H) p :=
  hp.keeps fun c hc _ a hw => hw.record fun y => h c hc y a

end FoldSince

-- `H` holds of the history, and has done so since the history was `h₀`.
structure HeldSince (h₀ : History A) (H : History A → Prop) (h : History A) : Prop where
  since : h₀ <+: h
  held  : ∀ h', h₀ <+: h' → h' <+: h → H h'

namespace HeldSince

variable {h₀ h : History A} {H : History A → Prop} {c : κ} {a : A c}

theorem start (hH : H h₀) : HeldSince h₀ H h₀ where
  since        := h₀.prefix_rfl
  held _ h₁ h₂ := h₂.eq_of_length_le h₁.length_le ▸ hH

theorem now (hs : HeldSince h₀ H h) : H h :=
  hs.held h hs.since h.prefix_rfl

theorem call (hs : HeldSince h₀ H h) (hc : H (h ++ [⟨c, a⟩])) :
    HeldSince h₀ H (h ++ [⟨c, a⟩]) where
  since := hs.since.trans (h.prefix_append _)
  held h' h₁ h₂ := by
    rcases List.prefix_concat_iff.mp h₂ with rfl | h₂
    case inl => exact hc
    case inr => exact hs.held h' h₁ h₂

end HeldSince

end Interaction
