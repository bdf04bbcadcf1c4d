import RoboOne.BatteryManager.Conservation
import RoboOne.BatteryManager.Containers
import RoboOne.BatteryManager.Episodes

namespace RoboOne.BatteryManager

open Hardware Transition

-- A battery without data that has been evaluated counts as empty, at a fine temperature.
structure BatteryContainerData.Missing (c : BatteryContainerData) : Prop where
  data  : c.batteryData = BatteryContainerData.zero.batteryData
  empty : c.batteryStatus.chargerOn = c.batteryStatus.insufficientCharge
  cool  : c.batteryStatus.overTemperature = false ∧ c.batteryStatus.temperatureBroken = false

def State.updated (s : State) (b : Battery) : Bool :=
  (s.gBatteryDataContainer b).updated

def Input.IsDataOf (b : Battery) : Input → Bool
  | .data b' _ => b = b'
  | _          => false

variable {s s' : State} {b : Battery} {i : Input} {threshold : Nat}

theorem zero_missing : BatteryContainerData.zero.Missing :=
  ⟨rfl, rfl, rfl, rfl⟩

namespace BatteryContainerData

variable {c : BatteryContainerData}

theorem Missing.checked (h : c.Missing) : c.batteryStatus.Checked c.batteryData := by
  refine ⟨by simp [h.cool], by simp [h.cool], ?_⟩
  rw [h.data]
  decide

-- The evaluation of a battery without data marks it, and puts it on charge.
theorem Missing.next (h : c.Missing) (ht : 0 < threshold) :
    (c.batteryStatus.next threshold c.batteryData).insufficientCharge = true ∧
      (c.batteryStatus.next threshold c.batteryData).chargerOn = true := by
  have hd : c.batteryData.remainingCapacity.toNat = 0 := by rw [h.data]; rfl
  rw [BatteryStatus.next, if_pos h.checked, BatteryStatus.checkCharge, hd, h.empty]
  cases hi : c.batteryStatus.insufficientCharge <;> simp [ht]

-- A message that has no data of the battery leaves the container as it is without data.
theorem Missing.own (h : c.Missing) (ht : 0 < threshold) : (c.own b threshold).Missing := by
  have ⟨hi, hc⟩ := h.next ht
  have hn : (c.next threshold).Missing := by
    refine ⟨h.data, hc.trans hi.symm, ?_⟩
    have hst : (c.next threshold).batteryStatus =
        c.batteryStatus.checkCharge threshold c.batteryData.remainingCapacity.toNat := if_pos h.checked
    rw [hst]
    exact h.cool
  rw [BatteryContainerData.own]
  split
  case isTrue  => exact ⟨hn.data, hn.empty, hn.cool⟩
  case isFalse => exact hn

end BatteryContainerData

theorem thresholdBehind_pos (s : State) (i : Input) : 0 < s.thresholdBehind i := by
  have h (t : InsufficientChargeThreshold) : 0 < t.value.toNat := by
    rcases t.either with h | h <;> rw [h] <;> decide
  cases i <;> exact h _

theorem step_updated (h : step s i = some s') :
    s'.updated b = (i.IsDataOf b || s.updated b) := by
  have hc (c : BatteryContainerData) : c.clearFull.updated = c.updated := rfl
  have ho (c : BatteryContainerData) (t : Nat) : (c.own b t).updated = c.updated := by
    rw [BatteryContainerData.own]
    split <;> rfl
  have hu : s'.updated b = (s.ownBehind i b).updated := by
    rw [State.updated, step_container h]
    split <;> rfl
  rw [hu]
  cases i
  case timerExpiry       => rfl
  case chargingPermitted => exact ho _ _
  case data b' d =>
    rw [State.ownBehind, Input.IsDataOf]
    by_cases hb : b = b'
    case pos => rw [if_pos hb, ho, decide_eq_true hb]; rfl
    case neg => rw [if_neg hb, decide_eq_false hb]; rfl

theorem step_missing (h : step s i = some s') (hi : i.IsDataOf b = false)
    (hm : (s.gBatteryDataContainer b).Missing) : (s'.gBatteryDataContainer b).Missing := by
  have ho : (s.ownBehind i b).Missing := by
    cases i
    case timerExpiry       => exact hm
    case chargingPermitted => exact hm.own (thresholdBehind_pos _ _)
    case data b' d =>
      rw [State.ownBehind, if_neg (of_decide_eq_false hi)]
      exact hm
  rw [step_container h]
  split
  case isTrue  => exact ⟨ho.data, ho.empty, ho.cool⟩
  case isFalse => exact ho

-- `updated` is set when data of the battery have arrived, although the source never reads it.
theorem run_updated {is : List Input} (h : run step s is = some s') :
    s'.updated b = true ↔ s.updated b = true ∨ ∃ d, .data b d ∈ is := by
  induction is generalizing s
  case nil => simp [Option.some.inj h]
  case cons i is hi =>
    have ⟨m, hm, h⟩ := run_cons_iff.mp h
    have hd : i.IsDataOf b = true ↔ ∃ d, i = .data b d := by
      cases i <;> simp [Input.IsDataOf]
      grind
    rw [hi h, step_updated hm, Bool.or_eq_true, hd]
    grind

-- The command that follows from the flags of a battery is one for that battery.
theorem command_eq_onMsg_iff {b' : Battery} {permitted previouslyOn on force : Bool} :
    b'.command permitted previouslyOn on force = some b.onMsg ↔
      b' = b ∧ on = true ∧ permitted = true ∧ (previouslyOn = false ∨ force = true) := by
  cases permitted <;> cases previouslyOn <;> cases on <;> cases force <;>
    simp [Battery.command] <;> cases b <;> cases b' <;> decide

-- Without the permission and without its data, no battery goes on charge.
theorem onMsg_not_mem_commands (hi : i.IsDataOf b = false) (hp : i ≠ .chargingPermitted true) :
    b.onMsg ∉ commands s i := by
  cases i
  case timerExpiry => exact List.not_mem_nil
  case data b' d =>
    intro hm
    have hc := command_eq_onMsg_iff.mp (Option.mem_toList.mp hm)
    exact of_decide_eq_false hi hc.left.symm
  case chargingPermitted ok =>
    have hok : ok = false := by simpa using hp
    subst hok
    intro hm
    rcases List.mem_append.mp hm with hm | hm
    case inl =>
      split at hm
      case isTrue  => revert hm; cases b <;> decide
      case isFalse => cases hm
    case inr =>
      have ⟨b', _, hc⟩ := List.mem_filterMap.mp hm
      exact Bool.false_ne_true (command_eq_onMsg_iff.mp hc).right.right.left

-- The permission puts a battery without data on charge.
theorem onMsg_mem_commands (hm : (s.gBatteryDataContainer b).Missing)
    (hp : s.gChargingPermitted = false) : b.onMsg ∈ commands s (.chargingPermitted true) := by
  refine List.mem_append_right _ (List.mem_filterMap.mpr ⟨b, by cases b <;> decide, ?_⟩)
  refine command_eq_onMsg_iff.mpr ⟨rfl, ?_, rfl, .inr (by simp [hp])⟩
  exact (hm.next (by decide)).right

theorem issued_onMsg_iff (h : step s i = some s') :
    b.onMsg ∈ s'.issued b ↔ b.onMsg ∈ s.issued b ∨ b.onMsg ∈ commands s i := by
  have hi : s'.trace.filterMap Event.issued? = s.trace.filterMap Event.issued? ++ commands s i :=
    step_issued h
  simp only [State.issued, hi, List.mem_filter, List.mem_append, onMsg_commands, decide_true, and_true]

-- The batteries without data: nothing has been decided about them.
structure Awaiting (s : State) : Prop where
  missing   : ∀ b, s.updated b = false → (s.gBatteryDataContainer b).Missing
  withdrawn : ∀ b, s.updated b = false → s.gChargingPermitted = false
  silent    : ∀ b, s.updated b = false → b.onMsg ∉ s.issued b

-- Nothing is decided on account of a battery without data.
def Undecided (s : State) (i : Input) : Prop :=
  ∀ s' ∈ step s i, ∀ b, s'.updated b = false →
    b.onMsg ∉ s'.issued b ∧ (Sends .insufficientCharge s s' → ¬s'.Marked b)

-- While there is a battery without data, the permission is not given, and is withdrawn only while
-- `gAllInsufficientCharge` is set. Data arrive only while that flag is set or the battery is not marked.
def DataAwaited (s : State) (i : Input) : Prop :=
  ∀ b, s.updated b = false → i.IsDataOf b = false →
    match i with
    | .data _ _             => s.Marked b → s.gAllInsufficientCharge = true
    | .chargingPermitted ok => ok = false ∧ s.gAllInsufficientCharge = true
    | .timerExpiry          => True

instance (s : State) (i : Input) : Decidable (DataAwaited s i) :=
  match i with
  | .data _ _            => inferInstanceAs (Decidable (∀ _, _ → _ → _ → _))
  | .chargingPermitted _ => inferInstanceAs (Decidable (∀ _, _ → _ → _ ∧ _))
  | .timerExpiry         => inferInstanceAs (Decidable (∀ _, _ → _ → True))

theorem updated_of_step (h : step s i = some s') (hu : s'.updated b = false) :
    s.updated b = false ∧ i.IsDataOf b = false := by
  rw [step_updated h, Bool.or_eq_false_iff] at hu
  exact hu.symm

-- Behind a message without data of the battery, the battery is marked if it has been evaluated.
theorem Awaiting.marked_iff (ha : Awaiting s) (h : step s i = some s') (hu : s.updated b = false)
    (hi : i.IsDataOf b = false) :
    s'.Marked b ↔ s.Marked b ∨ ∃ ok, i = .chargingPermitted ok := by
  rw [(step_charged h).marked_iff]
  cases i
  case timerExpiry => exact (or_iff_left (by simp)).symm
  case data b' d =>
    rw [State.MarkedBehind, if_neg (of_decide_eq_false hi)]
    exact (or_iff_left (by simp)).symm
  case chargingPermitted ok =>
    refine iff_of_true ?_ (.inr ⟨ok, rfl⟩)
    exact BatteryStatus.next_insufficientCharge_iff.mp
      ((ha.missing b hu).next (thresholdBehind_pos s _)).left

theorem Awaiting.step (ha : Awaiting s) (hd : DataAwaited s i) (h : step s i = some s') :
    Awaiting s' where
  missing b hu := by
    have ⟨hu, hi⟩ := updated_of_step h hu
    exact step_missing h hi (ha.missing b hu)
  withdrawn b hu := by
    have ⟨hu, hi⟩ := updated_of_step h hu
    rw [step_permitted h]
    cases i
    case data                 => exact ha.withdrawn b hu
    case chargingPermitted ok => exact (hd b hu hi).left
    case timerExpiry          => exact ha.withdrawn b hu
  silent b hu := by
    have ⟨hu, hi⟩ := updated_of_step h hu
    rw [issued_onMsg_iff h]
    have hp : i ≠ .chargingPermitted true := by
      rintro rfl
      cases (hd b hu hi).left
    exact not_or.mpr ⟨ha.silent b hu, onMsg_not_mem_commands hi hp⟩

theorem awaiting_preserved : Preserves step DataAwaited Awaiting where
  step ha hd h := ha.step hd h

theorem started_awaiting (s : State) : Awaiting (started s) where
  missing _ _   := zero_missing
  withdrawn _ _ := rfl
  silent _ _ h  := by cases h

theorem undecided_iff (ha : Awaiting s) (h : step s i = some s') :
    Undecided s i ↔ DataAwaited s i := by
  have hc := step_charged h
  simp only [Undecided, h, Option.mem_def, Option.some.injEq, forall_eq']
  constructor
  case mp =>
    intro hn b hu hi
    have hu' : s'.updated b = false := by rw [step_updated h, hu, hi]; rfl
    have ⟨hoff, hsig⟩ := hn b hu'
    -- A mark that is not signalled is no news.
    have hnews (hm : s'.Marked b) (ht : i ≠ .timerExpiry) : s.gAllInsufficientCharge = true := by
      by_contra hf
      have hf := Bool.not_eq_true _ ▸ hf
      have hset : s'.gAllInsufficientCharge = true := by
        rw [hc.insufficient, if_neg (by simp [hf])]
        exact ⟨ht, b, hc.marked_iff.mp hm⟩
      exact hsig (hc.sends_insufficientCharge_iff.mpr ⟨hf, hset⟩) hm
    have hmark := ha.marked_iff h hu hi
    cases i
    case timerExpiry => trivial
    case data        => exact fun hm => hnews (hmark.mpr (.inl hm)) (by simp)
    case chargingPermitted ok =>
      refine ⟨?_, hnews (hmark.mpr (.inr ⟨ok, rfl⟩)) (by simp)⟩
      cases ok
      case false => rfl
      case true  =>
        have hon := onMsg_mem_commands (ha.missing b hu) (ha.withdrawn b hu)
        exact absurd ((issued_onMsg_iff h).mpr (.inr hon)) hoff
  case mpr =>
    intro hd b hu'
    have ⟨hu, hi⟩ := updated_of_step h hu'
    refine ⟨(ha.step hd h).silent b hu', fun hsend hm => ?_⟩
    have ⟨hclear, hset⟩ := hc.sends_insufficientCharge_iff.mp hsend
    have hset' : s.gAllInsufficientCharge = true := by
      have hd := hd b hu hi
      rw [ha.marked_iff h hu hi] at hm
      cases i
      case data              => exact hd (hm.resolve_right (by simp))
      case chargingPermitted => exact hd.right
      case timerExpiry       => rw [hc.insufficient, hclear] at hset; simp at hset
    rw [hclear] at hset'
    contradiction

-- Before the first data of a battery since the start, its charger is not switched on, and insufficient
-- charge is not signalled on its account.
def DataFirst (s₀ : State) (is : List Input) : Prop :=
  ∀ js i s s', js ++ [i] <+: is → run step s₀ js = some s → step s i = some s' →
    ∀ b, (∀ d, .data b d ∉ js ++ [i]) →
      b.onMsg ∉ s'.issued b ∧ (Sends .insufficientCharge s s' → (s'.status b).insufficientCharge = false)

theorem dataFirst_iff {s₀ : State} {is : List Input} :
    DataFirst (started s₀) is ↔ Along step Undecided (started s₀) is := by
  rw [along_iff_forall]
  have hu {js i s s' b} (hs : run step (started s₀) js = some s) (h : step s i = some s') :
      s'.updated b = false ↔ ∀ d, .data b d ∉ js ++ [i] := by
    have hr : run step (started s₀) (js ++ [i]) = some s' := by
      rw [run_append, hs]
      exact run_singleton.trans h
    have hn : (started s₀).updated b = false := rfl
    rw [← Bool.not_eq_true, run_updated hr, hn]
    simp
  constructor
  case mp =>
    intro hd js i s hp hs s' h b hb
    have ⟨hon, hsig⟩ := hd js i s s' hp hs h b ((hu hs h).mp hb)
    exact ⟨hon, fun hsend hm => Bool.false_ne_true ((hsig hsend).symm.trans hm)⟩
  case mpr =>
    intro ha js i s s' hp hs h b hb
    have ⟨hon, hsig⟩ := ha js i s hp hs s' h b ((hu hs h).mpr hb)
    exact ⟨hon, fun hsend => Bool.eq_false_iff.mpr (hsig hsend)⟩

-- In a run nothing is decided on account of missing data, if and only if the data are awaited.
theorem dataFirst_iff_dataAwaited {s₀ : State} {is : List Input}
    (h : run step (started s₀) is = some s) :
    DataFirst (started s₀) is ↔ Along step DataAwaited (started s₀) is :=
  dataFirst_iff.trans <|
    awaiting_preserved.along_iff (started_awaiting s₀) h fun _ _ _ ha hs => undecided_iff ha hs

-- The data of all batteries arrive before the permission.
theorem dataFirst_iff_dataAwaited_lows :
    DataFirst (started boot) (lows ++ [.chargingPermitted true]) := by
  have ⟨_, hr, _⟩ : ∃ s ∈ run step (started boot) (lows ++ [.chargingPermitted true]), True := by
    decide +kernel
  exact (dataFirst_iff_dataAwaited hr).mpr (by decide +kernel)

-- The permission arrives first, as it does when the robot is started on its dock.
theorem charging_without_data : ¬∀ (s₀ : State) (is : List Input) (s : State),
    run step (started s₀) is = some s → DataFirst (started s₀) is := by
  intro h
  have ⟨s, hs, hon⟩ : ∃ s ∈ step (started boot) (.chargingPermitted true),
      Battery.onMsg .o1 ∈ s.issued .o1 := by decide +kernel
  have hd := h boot [.chargingPermitted true] s (run_singleton.trans hs) [] _ _ _ List.prefix_rfl rfl hs
  exact (hd .o1 (by simp)).left hon

end RoboOne.BatteryManager
