import Mathlib.Data.List.Basic

namespace Transition

variable {σ ι : Type*}

-- A run of a partial step function over a list of inputs. The step function yields `none` when the
-- machine cannot take the input, in which case there is no run at all.
def run (step : σ → ι → Option σ) : σ → List ι → Option σ
  | s, []      => some s
  | s, i :: is => (step s i).bind (run step · is)

-- `Along step P s is` states that every input of the run from `s` over `is` arrives in a state for
-- which `P` holds of the two. Inputs behind the end of a run that gets stuck are unconstrained.
def Along (step : σ → ι → Option σ) (P : σ → ι → Prop) : σ → List ι → Prop
  | _, []      => True
  | s, i :: is => P s i ∧ ∀ s' ∈ step s i, Along step P s' is

-- `Throughout step J s is` states that `J` holds of all states that the run from `s` over `is` visits.
def Throughout (step : σ → ι → Option σ) (J : σ → Prop) : σ → List ι → Prop
  | s, []      => J s
  | s, i :: is => J s ∧ ∀ s' ∈ step s i, Throughout step J s' is

-- An invariant of the machine under inputs that satisfy `P`.
structure Preserves (step : σ → ι → Option σ) (P : σ → ι → Prop) (I : σ → Prop) : Prop where
  step : ∀ {s i s'}, I s → P s i → step s i = some s' → I s'

variable {step : σ → ι → Option σ} {P Q : σ → ι → Prop} {I J : σ → Prop} {s s' s'' : σ} {i : ι}

@[simp]
theorem run_nil : run step s [] = some s :=
  rfl

theorem run_singleton : run step s [i] = step s i := by
  cases h : step s i <;> simp [run, h]

theorem run_cons_iff {is : List ι} :
    run step s (i :: is) = some s' ↔ ∃ m, step s i = some m ∧ run step m is = some s' := by
  simp [run, Option.bind_eq_some_iff]

theorem run_append {is js : List ι} :
    run step s (is ++ js) = (run step s is).bind (run step · js) := by
  induction is generalizing s
  case nil => rfl
  case cons i is hi => simp only [List.cons_append, run, Option.bind_assoc, hi]

-- One more step behind a run.
theorem run_concat {is : List ι} (h : run step s is = some s') :
    run step s (is ++ [i]) = step s' i := by
  rw [run_append, h, Option.bind_some, run_singleton]

theorem isSome_run_of_append {is js : List ι} (h : (run step s (is ++ js)).isSome) :
    (run step s is).isSome := by
  rw [run_append] at h
  exact Option.isSome_of_isSome_bind h

-- If a function maps the steps of a machine to those of another one, it does so with the runs.
theorem run_map {τ : Type*} {tstep : τ → ι → Option τ} {f : σ → τ}
    (h : ∀ s i, (step s i).map f = tstep (f s) i) {is : List ι} :
    (run step s is).map f = run tstep (f s) is := by
  induction is generalizing s
  case nil => rfl
  case cons i is hi =>
    rw [run, run, ← h]
    cases step s i
    case none   => rfl
    case some m => exact hi

-- A relation that holds between the states of each step holds between the ends of a run.
theorem run_related {R : σ → σ → Prop} (hr : ∀ s, R s s)
    (ht : ∀ {s₁ s₂ s₃}, R s₁ s₂ → R s₂ s₃ → R s₁ s₃) (hs : ∀ {s i s'}, step s i = some s' → R s s')
    {is : List ι} (h : run step s is = some s') : R s s' := by
  induction is generalizing s
  case nil => exact Option.some.inj h ▸ hr s
  case cons i is hi =>
    have ⟨m, hm, h⟩ := run_cons_iff.mp h
    exact ht (hs hm) (hi h)

theorem Along.mono {is : List ι} (h : ∀ s i, P s i → Q s i) :
    Along step P s is → Along step Q s is := by
  induction is generalizing s
  case nil => exact fun _ => trivial
  case cons i is hi => exact fun ⟨h₁, h₂⟩ => ⟨h _ _ h₁, fun m hm => hi <| h₂ m hm⟩

theorem Along.of_forall {is : List ι} (h : ∀ s i, P s i) : Along step P s is := by
  induction is generalizing s
  case nil => trivial
  case cons i is hi => exact ⟨h _ _, fun _ _ => hi⟩

theorem along_append_iff {is js : List ι} :
    Along step P s (is ++ js) ↔
      Along step P s is ∧ ∀ m, run step s is = some m → Along step P m js := by
  induction is generalizing s
  case nil => simp [Along]
  case cons i is hi =>
    simp only [List.cons_append, Along, Option.mem_def, hi, run_cons_iff]
    grind

-- The input that follows a prefix of the run arrives in the state which the prefix leads to.
theorem Along.at {is js : List ι} (h : Along step P s (is ++ i :: js))
    (hr : run step s is = some s') : P s' i :=
  (along_append_iff.mp h |>.right _ hr).left

theorem Along.initial {is js : List ι} (h : Along step P s is) (hj : js <+: is) :
    Along step P s js := by
  obtain ⟨ks, rfl⟩ := hj
  exact (along_append_iff.mp h).left

-- `P` holds along a run, if and only if it holds of the last input of each of its prefixes.
theorem along_iff_forall {is : List ι} : Along step P s is ↔
    ∀ js i m, js ++ [i] <+: is → run step s js = some m → P m i := by
  constructor
  case mp  => exact fun h js i m hp hr => (h.initial hp).at hr
  case mpr =>
    intro h
    induction is generalizing s
    case nil => trivial
    case cons i is hi =>
      refine ⟨h [] i s (by simp) rfl, fun m hm => hi fun js j m' hp hr => ?_⟩
      exact h (i :: js) j m' (by simpa using hp) (run_cons_iff.mpr ⟨m, hm, hr⟩)

theorem Throughout.head {is : List ι} (h : Throughout step J s is) : J s := by
  cases is
  case nil  => exact h
  case cons => exact h.left

theorem Throughout.mono {K : σ → Prop} {is : List ι} (h : Throughout step J s is)
    (hJ : ∀ s, J s → K s) : Throughout step K s is := by
  induction is generalizing s
  case nil          => exact hJ s h
  case cons i is hi => exact ⟨hJ s h.left, fun m hm => hi (h.right m hm)⟩

theorem throughout_cons_iff {is : List ι} (h : step s i = some s') :
    Throughout step J s (i :: is) ↔ J s ∧ Throughout step J s' is := by
  rw [Throughout, h]
  simp

namespace Preserves

-- What every admissible step preserves, every run of admissible inputs preserves.
theorem run (p : Preserves step P I) {is : List ι} (h₀ : I s) (ha : Along step P s is)
    (hr : run step s is = some s') : I s' := by
  induction is generalizing s
  case nil =>
    injection hr with hr
    exact hr ▸ h₀
  case cons i is hi =>
    have ⟨m, hm, hr⟩ := run_cons_iff.mp hr
    exact hi (p.step h₀ ha.left hm) (ha.right m hm) hr

-- An invariant which no input can break needs no admissibility.
theorem run_all (p : Preserves step (fun _ _ => True) I) {is : List ι} (h₀ : I s)
    (hr : Transition.run step s is = some s') : I s' :=
  p.run h₀ (.of_forall fun _ _ => trivial) hr

theorem and (p : Preserves step P I) (q : Preserves step P J) :
    Preserves step P (fun s => I s ∧ J s) where
  step h hp hs := ⟨p.step h.left hp hs, q.step h.right hp hs⟩

-- Two properties are the same along all runs, if they are the same in all states of an invariant.
theorem along_congr (p : Preserves step (fun _ _ => True) I) {is : List ι} (h₀ : I s)
    (h : ∀ s i, I s → (P s i ↔ Q s i)) : Along step P s is ↔ Along step Q s is := by
  induction is generalizing s
  case nil => exact Iff.rfl
  case cons i is hi =>
    exact and_congr (h s i h₀) <| forall₂_congr fun m hm => hi (p.step h₀ trivial hm)

-- In a run that does not get stuck, two properties are the same if they are the same for the steps out
-- of all states of an invariant. The invariant may depend on one of them.
theorem along_iff (p : Preserves step Q I) {is : List ι} (h₀ : I s)
    (hr : Transition.run step s is = some s'')
    (h : ∀ s i s', I s → step s i = some s' → (P s i ↔ Q s i)) :
    Along step P s is ↔ Along step Q s is := by
  induction is generalizing s
  case nil => exact Iff.rfl
  case cons i is hi =>
    have ⟨m, hm, hr⟩ := run_cons_iff.mp hr
    have hpq := h s i m h₀ hm
    simp only [Along, hm, Option.mem_def, Option.some.injEq, forall_eq', hpq]
    refine and_congr_right fun hq => ?_
    exact hi (p.step h₀ hq hm) hr

-- What every admissible step preserves holds of all states that a run of admissible inputs visits.
theorem throughout (p : Preserves step P I) {is : List ι} (h₀ : I s) (ha : Along step P s is) :
    Throughout step I s is := by
  induction is generalizing s
  case nil          => exact h₀
  case cons i is hi => exact ⟨h₀, fun m hm => hi (p.step h₀ ha.left hm) (ha.right m hm)⟩

-- What is never restored once it is lost holds throughout a run if it holds at its end.
theorem throughout_iff_of_run (p : Preserves step (fun _ _ => True) I) {is : List ι} (h₀ : I s)
    (hr : Transition.run step s is = some s'')
    (h : ∀ s i s', I s → step s i = some s' → J s' → J s) : Throughout step J s is ↔ J s'' := by
  induction is generalizing s
  case nil => exact Option.some.inj hr ▸ Iff.rfl
  case cons i is hi =>
    have ⟨m, hm, hr⟩ := run_cons_iff.mp hr
    have hi := hi (p.step h₀ trivial hm) hr
    rw [throughout_cons_iff hm, hi]
    exact and_iff_right_of_imp fun hJ => h s i m h₀ hm (hi.mpr hJ).head

-- `J` holds throughout a run that starts with it, if and only if all inputs satisfy the condition under
-- which a step preserves it.
theorem throughout_iff_along (p : Preserves step (fun _ _ => True) I) {is : List ι} (h₀ : I s)
    (hJ : J s) (h : ∀ s i, I s → J s → (P s i ↔ ∀ s' ∈ step s i, J s')) :
    Throughout step J s is ↔ Along step P s is := by
  induction is generalizing s
  case nil => exact iff_of_true hJ trivial
  case cons i is hi =>
    refine (and_iff_right hJ).trans ?_
    rw [Along, h s i h₀ hJ]
    constructor
    case mp =>
      refine fun ht => ⟨fun m hm => (ht m hm).head, fun m hm => ?_⟩
      exact hi (p.step h₀ trivial hm) (ht m hm).head |>.mp (ht m hm)
    case mpr =>
      exact fun ⟨hm', ha⟩ m hm => hi (p.step h₀ trivial hm) (hm' m hm) |>.mpr (ha m hm)

end Preserves

instance Along.decidable [h : ∀ s i, Decidable (P s i)] :
    (s : σ) → (is : List ι) → Decidable (Along step P s is)
  | _, []      => inferInstanceAs (Decidable True)
  | s, i :: is =>
    have (s' : σ) : Decidable (Along step P s' is) := Along.decidable s' is
    inferInstanceAs (Decidable (P s i ∧ ∀ s' ∈ step s i, Along step P s' is))

-- Of a machine that does not get stuck, all inputs of a run are reached.
theorem along_forall_iff {Q : ι → Prop} (h : ∀ s i, I s → ∃ s', step s i = some s' ∧ I s')
    (h₀ : I s) (is : List ι) : Along step (fun _ i => Q i) s is ↔ ∀ i ∈ is, Q i := by
  induction is generalizing s
  case nil => simp [Along]
  case cons i is hi =>
    have ⟨m, hm, hI⟩ := h s i h₀
    simp only [Along, hm, Option.mem_def, Option.some.injEq, forall_eq', hi hI, List.forall_mem_cons]

theorem Preserves.of_total (h : ∀ s i, I s → ∃ s', step s i = some s' ∧ I s') :
    Preserves step (fun _ _ => True) I := by
  refine ⟨fun {s i s'} hI _ hs => ?_⟩
  have ⟨m, hm, hI'⟩ := h s i hI
  exact Option.some.inj (hm.symm.trans hs) ▸ hI'

theorem run_total (h : ∀ s i, I s → ∃ s', step s i = some s' ∧ I s') (h₀ : I s) (is : List ι) :
    (run step s is).isSome := by
  induction is generalizing s
  case nil => rfl
  case cons i is hi =>
    have ⟨m, hm, hI⟩ := h s i h₀
    rw [run, hm]
    exact hi hI

-- If a machine can follow every step of a total machine, it can follow all runs of it.
theorem run_simulates {τ : Type*} {astep : τ → ι → τ} {R : σ → τ → Prop}
    (h : ∀ s t i, R s t → ∃ s', step s i = some s' ∧ R s' (astep t i)) {t : τ} (h₀ : R s t)
    (is : List ι) : ∃ s', run step s is = some s' ∧ R s' (is.foldl astep t) := by
  induction is generalizing s t
  case nil => exact ⟨s, rfl, h₀⟩
  case cons i is hi =>
    have ⟨m, hm, hR⟩ := h s t i h₀
    have ⟨s', hr, hR'⟩ := hi hR
    exact ⟨s', run_cons_iff.mpr ⟨m, hm, hr⟩, hR'⟩

theorem run_some_eq_foldl {astep : σ → ι → σ} {is : List ι} :
    run (fun s i => some (astep s i)) s is = some (is.foldl astep s) := by
  induction is generalizing s
  case nil => rfl
  case cons i is hi => exact hi

-- What the steps of a machine keep to those of a total machine, its runs keep.
theorem run_relates {τ : Type*} {astep : τ → ι → τ} {R : σ → τ → Prop}
    (h : ∀ {s t i s'}, R s t → P s i → step s i = some s' → R s' (astep t i)) {t : τ} (h₀ : R s t)
    {is : List ι} (hP : Along step P s is) (hr : run step s is = some s') :
    R s' (is.foldl astep t) := by
  induction is generalizing s t
  case nil =>
    obtain rfl := Option.some.inj hr
    exact h₀
  case cons i is hi =>
    have ⟨m, hm, hr⟩ := run_cons_iff.mp hr
    exact hi (h h₀ hP.left hm) (hP.right m hm) hr

-- What holds along a run of the machine holds along the run of the total machine that it follows.
theorem along_simulates {τ : Type*} {astep : τ → ι → τ} {R : σ → τ → Prop} {A : τ → ι → Prop}
    (h : ∀ s t i, R s t → ∃ s', step s i = some s' ∧ R s' (astep t i))
    (hP : ∀ s t i, R s t → P s i → A t i) {t : τ} (h₀ : R s t) {is : List ι}
    (ha : Along step P s is) : Along (fun t i => some (astep t i)) A t is := by
  induction is generalizing s t
  case nil => trivial
  case cons i is hi =>
    have ⟨m, hm, hR⟩ := h s t i h₀
    refine ⟨hP s t i h₀ ha.left, fun t' ht' => ?_⟩
    injection ht' with ht'
    exact ht' ▸ hi hR (ha.right m hm)

-- A machine follows the steps of a total machine when they satisfy `Q`, and gets stuck in all others.
-- The steps are taken under assumptions about the one machine and about the other.
structure Tracks {τ : Type*} (step : σ → ι → Option σ) (astep : τ → ι → τ) (P : σ → ι → Prop)
    (A Q : τ → ι → Prop) (R : σ → τ → Prop) : Prop where
  follows : ∀ {s t i}, R s t → P s i → A t i → Q t i → ∃ s', step s i = some s' ∧ R s' (astep t i)
  stuck   : ∀ {s t i}, R s t → P s i → A t i → ¬Q t i → step s i = none

namespace Tracks

variable {τ : Type*} {astep : τ → ι → τ} {A Q : τ → ι → Prop} {R : σ → τ → Prop} {t : τ}
  {is js : List ι}

-- The machine follows the runs all steps of which satisfy `Q`.
theorem run (T : Tracks step astep P A Q R) (h₀ : R s t) (hP : Along step P s is)
    (hA : Along (fun t i => some (astep t i)) A t is)
    (hQ : Along (fun t i => some (astep t i)) Q t is) :
    ∃ s', Transition.run step s is = some s' ∧ R s' (is.foldl astep t) := by
  induction is generalizing s t
  case nil => exact ⟨s, rfl, h₀⟩
  case cons i is hi =>
    have ⟨m, hm, hR⟩ := T.follows h₀ hP.left hA.left hQ.left
    have ⟨s', hs', hR'⟩ := hi hR (hP.right m hm) (hA.right _ rfl) (hQ.right _ rfl)
    exact ⟨s', run_cons_iff.mpr ⟨m, hm, hs'⟩, hR'⟩

-- It follows no other runs.
theorem along (T : Tracks step astep P A Q R) (h₀ : R s t) (hP : Along step P s is)
    (hA : Along (fun t i => some (astep t i)) A t is) (hr : Transition.run step s is = some s') :
    Along (fun t i => some (astep t i)) Q t is := by
  induction is generalizing s t
  case nil => trivial
  case cons i is hi =>
    have ⟨m, hm, hr⟩ := run_cons_iff.mp hr
    have hq : Q t i := by
      by_contra hq
      cases hm.symm.trans <| T.stuck h₀ hP.left hA.left hq
    have ⟨m', hm', hR⟩ := T.follows h₀ hP.left hA.left hq
    obtain rfl := Option.some.inj <| hm.symm.trans hm'
    refine ⟨hq, fun t' ht' => ?_⟩
    obtain rfl := Option.some.inj ht'
    exact hi hR (hP.right m hm) (hA.right _ rfl) hr

end Tracks

-- `f` maps states with `I` to states with `J`, unless it fails. Programs that are sequences of such
-- functions are reasoned about one function at a time.
def Takes (I J : σ → Prop) (f : σ → Option σ) : Prop :=
  ∀ s s', I s → f s = some s' → J s'

namespace Takes

variable {J K : σ → Prop} {f g : σ → Option σ}

theorem apply (h : Takes I J f) (hs : f s = .some s') (hI : I s) : J s' :=
  h _ _ hI hs

theorem some {f : σ → σ} (h : ∀ s, I s → J (f s)) : Takes I J (fun s => some (f s)) := by
  intro s s' hI hs
  injection hs with hs
  exact hs ▸ h s hI

theorem bind (hf : Takes I J f) (hg : Takes J K g) : Takes I K (fun s => (f s).bind g) := by
  intro s s' hI hs
  have ⟨m, hm, hs⟩ := Option.bind_eq_some_iff.mp hs
  exact hg _ _ (hf _ _ hI hm) hs

theorem ite {c : σ → Prop} [DecidablePred c] (hf : Takes (fun s => I s ∧ c s) J f)
    (hg : Takes (fun s => I s ∧ ¬c s) J g) : Takes I J (fun s => if c s then f s else g s) := by
  intro s s' hI hs
  by_cases h : c s
  case pos => exact hf _ _ ⟨hI, h⟩ (by simpa [h] using hs)
  case neg => exact hg _ _ ⟨hI, h⟩ (by simpa [h] using hs)

theorem mono {I' J' : σ → Prop} (h : Takes I J f) (hI : ∀ s, I' s → I s) (hJ : ∀ s, J s → J' s) :
    Takes I' J' f :=
  fun _ _ hs hf => hJ _ <| h _ _ (hI _ hs) hf

theorem and (hf : Takes I J f) {I' J' : σ → Prop} (hf' : Takes I' J' f) :
    Takes (fun s => I s ∧ I' s) (fun s => J s ∧ J' s) f :=
  fun _ _ hs h => ⟨hf _ _ hs.left h, hf' _ _ hs.right h⟩

end Takes

end Transition
