import RoboOne.BatteryManager.Evaluation

namespace RoboOne.BatteryManager

open Transition

variable {s s' : State} {b : Battery} {i : Input}

def State.Marked (s : State) (b : Battery) : Prop :=
  (s.status b).insufficientCharge = true

instance (s : State) (b : Battery) : Decidable (s.Marked b) :=
  inferInstanceAs (Decidable (_ = true))

theorem Charged.marked_iff (h : Charged s i s') : s'.Marked b ↔ s.MarkedBehind i b :=
  h.marked b

-- `gAllInsufficientCharge` is not cleared while a battery is still marked.
def NotCleared (s : State) (i : Input) : Prop :=
  ∀ s' ∈ step s i, s.gAllInsufficientCharge = true → s'.gAllInsufficientCharge = false →
    ∀ b, ¬s'.Marked b

-- While `gAllInsufficientCharge` is set, no message is evaluated behind which one battery is marked and
-- another one, or the same, has more than sufficient charge.
def NoneMixed (s : State) (i : Input) : Prop :=
  s.gAllInsufficientCharge = true → i ≠ .timerExpiry →
    (∃ b, s.thresholdBehind i + chargeHysteresis < s.capacityBehind i b) → ∀ b, ¬s.MarkedBehind i b

instance (s : State) (i : Input) : Decidable (NoneMixed s i) :=
  have : Decidable (∃ b, s.thresholdBehind i + chargeHysteresis < s.capacityBehind i b) :=
    decidable_of_iff _ exists_battery_iff.symm
  inferInstanceAs (Decidable (_ → _))

theorem notCleared_iff (h : step s i = some s') : NotCleared s i ↔ NoneMixed s i := by
  have hc := step_charged h
  have hcleared (hs : s.gAllInsufficientCharge = true) : s'.gAllInsufficientCharge = false ↔
      i ≠ .timerExpiry ∧ ∃ b, s.thresholdBehind i + chargeHysteresis < s.capacityBehind i b := by
    rw [← Bool.not_eq_true, hc.insufficient, if_pos hs]
    simp only [not_or, not_forall, not_le, ne_eq]
  simp only [NotCleared, h, Option.mem_def, Option.some.injEq, forall_eq', NoneMixed]
  refine forall_congr' fun hs => ?_
  simp only [hcleared hs, hc.marked_iff, and_imp]

-- Between two messages about insufficient charge there is a state in which no battery is marked.
structure OncePerEpisode (s₀ : State) (is : List Input) : Prop where
  single  : ∀ {js i s₁ s₂}, js ++ [i] <+: is → run step s₀ js = some s₁ → step s₁ i = some s₂ →
    s₂.signals.count .insufficientCharge ≤ s₁.signals.count .insufficientCharge + 1
  between : ∀ {js i ks k s₁ s₂ s₃ s₄}, js ++ i :: ks ++ [k] <+: is →
    run step s₀ js = some s₁ → step s₁ i = some s₂ → Sends .insufficientCharge s₁ s₂ →
      run step s₂ ks = some s₃ → step s₃ k = some s₄ → Sends .insufficientCharge s₃ s₄ →
        ¬Throughout step (fun s => ∃ b, s.Marked b) s₂ ks

-- While there is always a marked battery, `gAllInsufficientCharge` remains set.
theorem insufficient_of_throughout {is : List Input} (h : run step s is = some s')
    (hn : Along step NotCleared s is) (hm : Throughout step (fun s => ∃ b, s.Marked b) s is)
    (hs : s.gAllInsufficientCharge = true) : s'.gAllInsufficientCharge = true := by
  induction is generalizing s
  case nil => exact Option.some.inj h ▸ hs
  case cons i is hi =>
    have ⟨m, hstep, h⟩ := run_cons_iff.mp h
    have hm := hm.right m hstep
    refine hi h (hn.right m hstep) hm ?_
    have ⟨b, hb⟩ := hm.head
    by_contra hf
    exact hn.left m hstep hs (Bool.not_eq_true _ ▸ hf) b hb

theorem oncePerEpisode_of_notCleared {s₀ : State} {is : List Input}
    (h : Along step NotCleared s₀ is) : OncePerEpisode s₀ is where
  single _ _ hs := by
    rw [(step_charged hs).countInsufficient]
    exact Nat.add_le_add_left (Bool.toNat_le _) _
  between {js i ks k s₁ s₂ s₃ s₄} hp h₁ h₂ hsend h₃ h₄ hsend' ht := by
    have ha := h.initial hp
    rw [List.append_assoc, along_append_iff] at ha
    have ha := ha.right s₁ h₁
    rw [List.cons_append] at ha
    have ha := (along_append_iff.mp (ha.right s₂ h₂)).left
    have hset := ((step_charged h₂).sends_insufficientCharge_iff.mp hsend).right
    have hclear := ((step_charged h₄).sends_insufficientCharge_iff.mp hsend').left
    have hset' := insufficient_of_throughout h₃ ha ht hset
    rw [hclear] at hset'
    contradiction

-- In a run `gAllInsufficientCharge` is not cleared while a battery is still marked, if and only if no
-- message is evaluated with mixed results while it is set. Then an insufficient charge is signalled once
-- per episode.
theorem insufficientCharge_once_iff {s₀ : State} {is : List Input}
    (h : run step (started s₀) is = some s) :
    (Along step NotCleared (started s₀) is ↔ Along step NoneMixed (started s₀) is) ∧
      (Along step NoneMixed (started s₀) is → OncePerEpisode (started s₀) is) := by
  have p : Preserves step NoneMixed (fun _ => True) := ⟨fun _ _ _ => trivial⟩
  have hiff := p.along_iff trivial h fun s i s' _ hs => notCleared_iff hs
  exact ⟨hiff, fun ha => oncePerEpisode_of_notCleared (hiff.mpr ha)⟩

-- All batteries are charged, but for one of the Orangutans that gets low from time to time.
def lows : List Input :=
  [.data .rio ⟨0, 0, 2000, ⟨0, 0⟩, 20⟩, .data .o1 ⟨0, 0, 2000, ⟨0, 0⟩, 20⟩,
    .data .o2 ⟨0, 0, 2000, ⟨0, 0⟩, 20⟩, .data .o3 ⟨0, 0, 1000, ⟨0, 0⟩, 20⟩]

theorem insufficientCharge_once_iff_lows : OncePerEpisode (started boot)
    (lows ++ [.data .o3 ⟨0, 0, 2000, ⟨0, 0⟩, 20⟩, .data .o3 ⟨0, 0, 1000, ⟨0, 0⟩, 20⟩]) := by
  have ⟨_, hr, _⟩ : ∃ s ∈ run step (started boot) (lows ++ [.data .o3 ⟨0, 0, 2000, ⟨0, 0⟩, 20⟩,
      .data .o3 ⟨0, 0, 1000, ⟨0, 0⟩, 20⟩]), True := by decide +kernel
  exact (insufficientCharge_once_iff hr).right (by decide +kernel)

-- The low battery remains marked, while the data of another one arrive twice.
theorem insufficientCharge_repeated :
    ¬∀ (s₀ : State) (is : List Input) (s : State), run step (started s₀) is = some s →
      OncePerEpisode (started s₀) is := by
  intro h
  let charged := lows.dropLast
  let low : Input := .data .o3 ⟨0, 0, 1000, ⟨0, 0⟩, 20⟩
  let high : Input := .data .rio ⟨0, 0, 2000, ⟨0, 0⟩, 20⟩
  have ⟨s₁, h₁, s₂, h₂, s₃, h₃, s₄, h₄, hsend, hsend', hm₂, hm₃⟩ :
      ∃ s₁ ∈ run step (started boot) charged, ∃ s₂ ∈ step s₁ low, ∃ s₃ ∈ step s₂ high,
        ∃ s₄ ∈ step s₃ high, Sends .insufficientCharge s₁ s₂ ∧ Sends .insufficientCharge s₃ s₄ ∧
          s₂.Marked .o3 ∧ s₃.Marked .o3 := by decide +kernel
  rw [Option.mem_def] at h₁ h₂ h₃ h₄
  have hr : run step (started boot) (charged ++ low :: [high] ++ [high]) = some s₄ := by
    simp [run_append, h₁, run, h₂, h₃, h₄]
  refine (h boot _ s₄ hr).between List.prefix_rfl h₁ h₂ hsend (run_singleton.trans h₃) h₄ hsend' ?_
  exact (throughout_cons_iff h₃).mpr ⟨⟨_, hm₂⟩, _, hm₃⟩

end RoboOne.BatteryManager
