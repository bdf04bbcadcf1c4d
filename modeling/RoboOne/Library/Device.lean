import RoboOne.Library.Trace

namespace Interaction

variable {κ κ' σ α δ : Type} {A : κ → Type} {A' : κ' → Type}

section

variable (R : δ → (c : κ) → A c → δ → Prop)

-- What calls do to a device, of which `R` says what one call with an answer may do to it.
inductive Evolves : δ → History A → δ → Prop
  | nil {d} : Evolves d [] d
  | cons {d d₁ d' c a calls} : R d c a d₁ → Evolves d₁ calls d' → Evolves d (⟨c, a⟩ :: calls) d'

end

namespace Evolves

variable {R : δ → (c : κ) → A c → δ → Prop} {d d' : δ} {calls calls' : History A} {c : κ} {a : A c}

theorem nil_iff : Evolves R d [] d' ↔ d' = d := by
  constructor
  case mp  => rintro ⟨⟩; rfl
  case mpr => rintro rfl; exact .nil

theorem cons_iff : Evolves R d (⟨c, a⟩ :: calls) d' ↔ ∃ d₁, R d c a d₁ ∧ Evolves R d₁ calls d' := by
  constructor
  case mp  => rintro ⟨⟩; exact ⟨_, ‹_›, ‹_›⟩
  case mpr => exact fun ⟨_, hr, hd⟩ => .cons hr hd

theorem append_iff :
    Evolves R d (calls ++ calls') d' ↔ ∃ d₁, Evolves R d calls d₁ ∧ Evolves R d₁ calls' d' := by
  induction calls generalizing d
  case nil => simp [nil_iff]
  case cons x calls hi =>
    have ⟨c, a⟩ := x
    rw [List.cons_append, cons_iff]
    simp only [cons_iff, hi]
    grind

-- What no call changes is not changed by any calls.
theorem keeps {I : δ → Prop} (hd : Evolves R d calls d')
    (hI : ∀ d c a d₁, ⟨c, a⟩ ∈ calls → R d c a d₁ → I d → I d₁) (h : I d) : I d' := by
  induction hd
  case nil => exact h
  case cons hr _ hi =>
    exact hi (fun _ _ _ _ hm => hI _ _ _ _ (.tail _ hm)) <| hI _ _ _ _ (.head _) hr h

end Evolves

section

variable (respond : δ → (c : κ) → A c × δ)

-- A device that has one response to each call.
def after (d : δ) (h : History A) : δ :=
  h.foldl (fun d x => (respond d x.1).2) d

def behaviour (d : δ) : Environment A :=
  fun h c => (respond (after respond d h) c).1

variable {respond} {R : δ → (c : κ) → A c → δ → Prop} {d : δ} {h calls : History A}

theorem after_append_call {c : κ} {a : A c} :
    after respond d (h ++ [⟨c, a⟩]) = (respond (after respond d h) c).2 :=
  List.foldl_append

-- Its responses are what it may do.
theorem Answered.evolves (hR : ∀ d c, R d c (respond d c).1 (respond d c).2)
    (hc : Answered (behaviour respond d) h calls) :
    Evolves R (after respond d h) calls (after respond d (h ++ calls)) := by
  induction calls generalizing h
  case nil => rw [List.append_nil]; exact .nil
  case cons x calls hi =>
    have ⟨c, a⟩ := x
    have hrest := hi hc.right
    rw [after_append_call, List.append_assoc] at hrest
    obtain rfl : a = (respond (after respond d h) c).1 := hc.left
    exact .cons (hR _ c) hrest

end

-- A program for each call of an upper level, which makes the calls of a lower level.
structure Implementation (A : κ → Type) (A' : κ' → Type) where
  run   : (c : κ) → Program A' Unit (A c)
  total : ∀ c env w, (run c env w).isSome

namespace Implementation

section

variable (impl : Implementation A A') (env : Environment A')

def perform (c : κ) (h : History A') : A c × History A' :=
  let r := (impl.run c env ⟨(), h⟩).get (impl.total c env _)
  (r.1, r.2.history)

-- The history of the lower level after some calls of the upper one.
def replay : History A' → History A → History A'
  | h, []            => h
  | h, ⟨c, _⟩ :: calls => replay (impl.perform env c h).2 calls

-- What the upper level sees of the lower one.
def above (h : History A') : Environment A :=
  fun calls c => (impl.perform env c (impl.replay env h calls)).1

-- A program of the upper level on the lower one.
def inline (p : Program A σ α) : Program A' σ α := fun env w =>
  (p (impl.above env w.history) ⟨w.memory, []⟩).map fun r =>
    (r.1, ⟨r.2.memory, impl.replay env w.history r.2.history⟩)

end

-- The calls of the lower level are, one after the other, what `S` says of those of the upper level.
inductive Performs (S : (c : κ) → History A' → A c → Prop) : History A → History A' → Prop
  | nil : Performs S [] []
  | cons {c a low calls lows} :
    S c low a → Performs S calls lows → Performs S (⟨c, a⟩ :: calls) (low ++ lows)

variable {impl : Implementation A A'} {env : Environment A'} {S : (c : κ) → History A' → A c → Prop}
  {h h' : History A'} {calls calls' : History A} {low : History A'}

theorem replay_append :
    impl.replay env h (calls ++ calls') = impl.replay env (impl.replay env h calls) calls' := by
  induction calls generalizing h
  case nil => rfl
  case cons x calls hi => exact hi

theorem perform_traces (hS : ∀ c, Traces () (impl.run c) fun low a _ => S c low a)
    (env : Environment A') (c : κ) (h : History A') : ∃ low,
      (impl.perform env c h).2 = h ++ low ∧ Answered env h low ∧
      S c low (impl.perform env c h).1 := by
  have ⟨low, a, _, hr, ha, hs⟩ := hS c env h
  have hp : impl.perform env c h = (a, h ++ low) := by
    simp only [perform, hr, Option.get_some]
  rw [hp]
  exact ⟨low, rfl, ha, hs⟩

theorem replay_traces (hS : ∀ c, Traces () (impl.run c) fun low a _ => S c low a)
    (hc : Answered (impl.above env h) calls' calls) :
    ∃ low, impl.replay env (impl.replay env h calls') calls = impl.replay env h calls' ++ low ∧
      Answered env (impl.replay env h calls') low ∧ Performs S calls low := by
  induction calls generalizing calls'
  case nil => exact ⟨[], (List.append_nil _).symm, trivial, .nil⟩
  case cons x calls hi =>
    have ⟨c, a⟩ := x
    have ⟨low, hp, ha, hs⟩ := perform_traces hS env c (impl.replay env h calls')
    have ⟨lows, hr, has, hps⟩ := hi hc.right
    rw [replay_append, replay, replay, hp] at hr has
    refine ⟨low ++ lows, ?_, ha.append has, .cons ?_ hps⟩
    case refine_1 => rw [replay, hp, hr, List.append_assoc]
    case refine_2 => exact hc.left ▸ hs

-- What is known of a program of the upper level holds of it on the lower level.
theorem inline_traces {m : σ} {p : Program A σ α} {Q : History A → α → σ → Prop}
    (hp : Traces m p Q) (hS : ∀ c, Traces () (impl.run c) fun low a _ => S c low a) :
    Traces m (impl.inline p) fun low a m' => ∃ calls, Performs S calls low ∧ Q calls a m' := by
  intro env h
  have ⟨calls, a, m', hr, hc, hq⟩ := hp (impl.above env h) []
  have ⟨low, he, ha, hs⟩ := replay_traces hS hc
  refine ⟨low, a, m', ?_, ha, calls, hs, hq⟩
  rw [inline, hr, Option.map_some, List.nil_append]
  exact congrArg (fun h => some (a, World.mk m' h)) he

-- If each program does to the device what its call may do to it, then so do all of them.
theorem Performs.evolves {R : δ → (c : κ) → A c → δ → Prop} {R' : δ → (c : κ') → A' c → δ → Prop}
    {d d' : δ} (hp : Performs S calls low)
    (hS : ∀ c low a, S c low a → ∀ d d', Evolves R' d low d' → R d c a d')
    (hd : Evolves R' d low d') : Evolves R d calls d' := by
  induction hp generalizing d
  case nil => exact Evolves.nil_iff.mpr <| Evolves.nil_iff.mp hd
  case cons hs _ hi =>
    have ⟨d₁, h₁, h'⟩ := Evolves.append_iff.mp hd
    exact .cons (hS _ _ _ hs _ _ h₁) (hi h')

end Implementation

end Interaction
