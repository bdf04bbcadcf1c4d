import RoboOne.Library.Device

namespace Interaction

variable {κ σ α β δ : Type} {A : κ → Type}

-- What a device may do, it may do as well where more is allowed.
theorem Evolves.mono {R R' : δ → (c : κ) → A c → δ → Prop} {d d' : δ} {calls : History A}
    (h : Evolves R d calls d') (hR : ∀ d c a d', R d c a d' → R' d c a d') :
    Evolves R' d calls d' := by
  induction h
  case nil          => exact .nil
  case cons hr _ hi => exact .cons (hR _ _ _ _ hr) hi

-- A change of the variables.
def update (f : σ → σ) : Program A σ Unit := do
  store (f (← load))

-- From the variables `m`, on the device in the state `d`, the program returns `a`, and leaves the device
-- in the state `d'` and its variables as `m'`.
def Runs (respond : δ → (c : κ) → A c × δ) (p : Program A σ α) (d : δ) (m : σ) (a : α) (d' : δ)
    (m' : σ) : Prop :=
  ∀ d₀ h, after respond d₀ h = d → ∃ h',
    p (behaviour respond d₀) ⟨m, h⟩ = some (a, ⟨m', h'⟩) ∧ after respond d₀ h' = d'

namespace Runs

variable {respond : δ → (c : κ) → A c × δ} {p q : Program A σ α} {d d' d₁ : δ} {m m' m₁ : σ}
  {a a' : α} {b : β}

theorem pure : Runs respond (pure a) d m a d m :=
  fun _ h hd => ⟨h, rfl, hd⟩

theorem call (c : κ) : Runs respond (call c) d m (respond d c).1 (respond d c).2 m := by
  rintro d₀ h rfl
  exact ⟨_, rfl, after_append_call⟩

theorem load : Runs respond (load : Program A σ σ) d m m d m :=
  fun _ h hd => ⟨h, rfl, hd⟩

theorem store {s : σ} : Runs respond (store s) d m () d s :=
  fun _ h hd => ⟨h, rfl, hd⟩

theorem assert {b : Bool} (hb : b = true) : Runs respond (assert b) d m () d m :=
  fun _ h hd => ⟨h, if_pos hb, hd⟩

theorem bind {f : α → Program A σ β} (hp : Runs respond p d m a d₁ m₁)
    (hf : Runs respond (f a) d₁ m₁ b d' m') : Runs respond (p >>= f) d m b d' m' := by
  intro d₀ h hd
  have ⟨h₁, he, hd₁⟩ := hp d₀ h hd
  have ⟨h', he', hd'⟩ := hf d₀ h₁ hd₁
  refine ⟨h', ?_, hd'⟩
  rw [bind_apply, he]
  exact he'

theorem ite_pos {c : Prop} [Decidable c] (hc : c) (h : Runs respond p d m a d' m') :
    Runs respond (if c then p else q) d m a d' m' :=
  (if_pos hc).symm ▸ h

theorem ite_neg {c : Prop} [Decidable c] (hc : ¬c) (h : Runs respond q d m a d' m') :
    Runs respond (if c then p else q) d m a d' m' :=
  (if_neg hc).symm ▸ h

theorem update {f : σ → σ} : Runs respond (update f) d m () d (f m) :=
  load.bind store

-- There is only one way for a program to run on a device.
theorem unique {d₁' : δ} {m₁' : σ} (h : Runs respond p d m a d' m')
    (h' : Runs respond p d m a' d₁' m₁') : a' = a ∧ d₁' = d' ∧ m₁' = m' := by
  have ⟨_, he, hd⟩ := h d [] rfl
  have ⟨_, he', hd'⟩ := h' d [] rfl
  rw [he] at he'
  obtain ⟨rfl, hw⟩ := Prod.mk.inj <| Option.some.inj he'
  obtain ⟨rfl, rfl⟩ := World.mk.inj hw
  exact ⟨rfl, hd'.symm.trans hd, rfl⟩

end Runs

section

variable {κ' : Type} {A' : κ' → Type}

-- The programs of some calls of an upper level, one after the other, with what they return.
def performAll (perform : (c : κ') → Program A σ (A' c)) : List κ' → Program A σ (History A')
  | []      => return []
  | c :: cs => do
    let a ← perform c
    return ⟨c, a⟩ :: (← performAll perform cs)

-- The answers of a device to some calls.
def replies (respond : δ → (c : κ') → A' c × δ) : δ → List κ' → History A'
  | _, []      => []
  | d, c :: cs => ⟨c, (respond d c).1⟩ :: replies respond (respond d c).2 cs

end

end Interaction
