import RoboOne.BatteryManager.Evaluation

namespace RoboOne.BatteryManager

open Transition

namespace BatteryContainerData

variable {c : BatteryContainerData} {b : Battery} {threshold : Nat}

-- The assignment in `setChargerStatus` that is to clear `fullyCharged` is reached.
def ClearsFull (c : BatteryContainerData) : Prop :=
  c.batteryStatus.ClearsFull c.batteryData

instance (c : BatteryContainerData) : Decidable c.ClearsFull :=
  inferInstanceAs (Decidable (BatteryStatus.ClearsFull _ _))

def clearFull (c : BatteryContainerData) : BatteryContainerData :=
  { c with batteryStatus := { c.batteryStatus with fullyCharged := false } }

def next (threshold : Nat) (c : BatteryContainerData) : BatteryContainerData :=
  { c with batteryStatus := c.batteryStatus.next threshold c.batteryData }

-- What the evaluation of a battery makes of its own container.
def own (b : Battery) (threshold : Nat) (c : BatteryContainerData) : BatteryContainerData :=
  if b = .rio ∧ c.ClearsFull then (c.next threshold).clearFull else c.next threshold

def receive (d : BatteryData) (c : BatteryContainerData) : BatteryContainerData :=
  { c with updated := true, batteryData := d }

@[simp]
theorem clearFull_clearFull : c.clearFull.clearFull = c.clearFull :=
  rfl

end BatteryContainerData

variable {s s' : State} {b b' : Battery} {i : Input} {threshold : Nat}
  {c : Battery → BatteryContainerData}

-- What `setChargerStatus` makes of the containers of all batteries.
def evaluate (threshold : Nat) (c : Battery → BatteryContainerData) (b : Battery) :
    Battery → BatteryContainerData :=
  let c' := Function.update c b ((c b).next threshold)
  if (c b).ClearsFull then Function.update c' .rio (c' .rio).clearFull else c'

theorem setChargerStatus_containers : (setChargerStatus b s).gBatteryDataContainer =
    evaluate s.gInsufficientChargeThreshold.value.toNat s.gBatteryDataContainer b := by
  have hiff : (s.gBatteryDataContainer b).ClearsFull ↔ (s.status b).ClearsFull (s.data b) := Iff.rfl
  rw [setChargerStatus_eq, evaluate, if_congr hiff rfl rfl]
  split <;> rfl

theorem evaluate_self : evaluate threshold c b b = (c b).own b threshold := by
  by_cases hc : (c b).ClearsFull
  case neg => simp [evaluate, BatteryContainerData.own, hc]
  case pos =>
    by_cases hb : b = .rio
    case pos => simp [evaluate, BatteryContainerData.own, hb ▸ hc, hb]
    case neg => simp [evaluate, BatteryContainerData.own, hc, hb]

-- The evaluation of another battery changes a container in one case only.
theorem evaluate_of_ne (h : b ≠ b') : evaluate threshold c b' b =
    if b = .rio ∧ (c b').ClearsFull then (c b).clearFull else c b := by
  by_cases hc : (c b').ClearsFull
  case neg => simp [evaluate, hc, h]
  case pos =>
    by_cases hb : b = .rio
    case pos => subst hb; simp [evaluate, hc, h]
    case neg => simp [evaluate, hc, hb, h]

-- The containers behind the evaluation of a message.
def State.containersBehind (s : State) (i : Input) : Battery → BatteryContainerData :=
  match i with
  | .data b d            => evaluate (s.thresholdBehind i) (s.setData b d).gBatteryDataContainer b
  | .chargingPermitted _ => batteries.foldl (evaluate (s.thresholdBehind i)) s.gBatteryDataContainer
  | .timerExpiry         => s.gBatteryDataContainer

theorem setStatus_containers {force : Bool} (h : b.setStatus force s = some s') :
    s'.gBatteryDataContainer =
      evaluate s.gInsufficientChargeThreshold.value.toNat s.gBatteryDataContainer b := by
  rw [← setChargerStatus_containers]
  cases Battery.setStatus_spec h
  case quiet h _ => rw [h]
  case on _ _ h  => exact h.containers
  case off _ h   => exact h.containers

theorem setStatuses_containers {force : Bool} {bs : List Battery}
    (h : run (fun s (b : Battery) => b.setStatus force s) s bs = some s') :
    s'.gBatteryDataContainer =
      bs.foldl (evaluate s.gInsufficientChargeThreshold.value.toNat) s.gBatteryDataContainer := by
  induction bs generalizing s
  case nil => exact Option.some.inj h ▸ rfl
  case cons b bs hi =>
    have ⟨m, hm, h⟩ := run_cons_iff.mp h
    rw [hi h, (setStatus_sameSignals hm).threshold, setStatus_containers hm]
    rfl

theorem sendChargersOff_containers (h : sendChargersOff s = some s') :
    s'.gBatteryDataContainer = s.gBatteryDataContainer := by
  rw [sendChargersOff_eq] at h
  let R (s s' : State) := s'.gBatteryDataContainer = s.gBatteryDataContainer
  have hr (s : State) : R s s := rfl
  have ht {s₁ s₂ s₃ : State} (h₁ : R s₁ s₂) (h₂ : R s₂ s₃) : R s₁ s₃ := Eq.trans h₂ h₁
  have h : R s s' := run_related hr ht (fun h => (sendMsgOffset_spec h).containers) h
  exact h

theorem data_containers {d : BatteryData} (h : doAction (.data b d) s = some s') :
    s'.gBatteryDataContainer = s.containersBehind (.data b d) := by
  rw [doAction, actionBatteryManagerData_eq, Option.map_map] at h
  obtain ⟨s₁, h₁, rfl⟩ := Option.map_eq_some_iff.mp h
  exact signalChargeStateAll_containers.trans (setStatus_containers h₁)

theorem chargingPermitted_containers {ok : Bool}
    (h : doAction (.chargingPermitted ok) s = some s') :
    s'.gBatteryDataContainer = s.containersBehind (.chargingPermitted ok) := by
  rw [doAction_chargingPermitted] at h
  have ⟨s₀, h₀, h⟩ := Option.bind_eq_some_iff.mp h
  obtain ⟨s₁, h₁, rfl⟩ := Option.map_eq_some_iff.mp h
  have ⟨ht, hc⟩ : s₀.gInsufficientChargeThreshold =
        (s.setThreshold ok).gInsufficientChargeThreshold ∧
      s₀.gBatteryDataContainer = (s.setThreshold ok).gBatteryDataContainer := by
    split at h₀
    case isTrue  =>
      exact ⟨(sendChargersOff_sameSignals h₀).threshold, sendChargersOff_containers h₀⟩
    case isFalse => exact Option.some.inj h₀ ▸ ⟨rfl, rfl⟩
  rw [setAllChargerStatus_eq] at h₁
  rw [signalChargeStateAll_containers, setStatuses_containers h₁]
  simp only [ht, hc]
  rfl

-- The specification of `step`, as far as the containers are concerned.
theorem step_containers (h : step s i = some s') :
    s'.gBatteryDataContainer = s.containersBehind i := by
  have ⟨_, h⟩ := step_eq_some_iff.mp h
  cases i
  case data              => exact data_containers h
  case chargingPermitted => exact chargingPermitted_containers h
  case timerExpiry =>
    obtain rfl := Option.some.inj h
    exact (actionBatteryManagerTimerExpiry_spec _).containers

-- Apart from the battery of the Pi/RIO, the evaluation of other batteries leaves a container alone.
theorem foldl_evaluate_of_not_mem {bs : List Battery} (hr : b ≠ .rio) (hb : b ∉ bs) :
    bs.foldl (evaluate threshold) c b = c b := by
  induction bs generalizing c
  case nil => rfl
  case cons a bs hi =>
    rw [List.foldl_cons, hi (List.not_mem_of_not_mem_cons hb),
      evaluate_of_ne (List.ne_of_not_mem_cons hb), if_neg (by simp [hr])]

theorem foldl_evaluate_of_mem {bs : List Battery} (hd : bs.Nodup) (hr : b ≠ .rio) (hb : b ∈ bs) :
    bs.foldl (evaluate threshold) c b = (c b).own b threshold := by
  induction bs generalizing c
  case nil => contradiction
  case cons a bs hi =>
    have ⟨ha, hd⟩ := List.nodup_cons.mp hd
    rw [List.foldl_cons]
    by_cases he : b = a
    case pos =>
      subst he
      rw [foldl_evaluate_of_not_mem hr ha, evaluate_self]
    case neg =>
      rw [hi hd (List.mem_of_ne_of_mem he hb), evaluate_of_ne he, if_neg (by simp [hr])]

theorem foldl_evaluate_rio {bs : List Battery} (hd : bs.Nodup) (hr : .rio ∉ bs) :
    bs.foldl (evaluate threshold) c .rio =
      if ∃ b ∈ bs, (c b).ClearsFull then (c .rio).clearFull else c .rio := by
  induction bs generalizing c
  case nil => simp
  case cons a bs hi =>
    have ⟨ha, hd⟩ := List.nodup_cons.mp hd
    have hr' := List.ne_of_not_mem_cons hr
    have hn (b : Battery) (hb : b ∈ bs) : evaluate threshold c a b = c b := by
      have he : b ≠ a := fun he => ha (he ▸ hb)
      have hbr : b ≠ .rio := fun he => hr (List.mem_cons_of_mem a (he ▸ hb))
      rw [evaluate_of_ne he, if_neg (by simp [hbr])]
    have hex : (∃ b ∈ bs, (evaluate threshold c a b).ClearsFull) ↔ ∃ b ∈ bs, (c b).ClearsFull :=
      exists_congr fun b => and_congr_right fun hb => by rw [hn b hb]
    rw [List.foldl_cons, hi hd (List.not_mem_of_not_mem_cons hr), if_congr hex rfl rfl,
      evaluate_of_ne hr']
    by_cases hc : (c a).ClearsFull
    case pos => simp [hc]
    case neg => simp [hc]

namespace State

-- What a message makes of the container of a battery on its own account.
def ownBehind (s : State) (i : Input) (b : Battery) : BatteryContainerData :=
  let c := s.gBatteryDataContainer b
  match i with
  | .data b' d            => if b = b' then (c.receive d).own b (s.thresholdBehind i) else c
  | .chargingPermitted _  => c.own b (s.thresholdBehind i)
  | .timerExpiry          => c

-- `fullyCharged` of the Pi/RIO is cleared on account of another battery.
def ClearsRio (s : State) : Input → Prop
  | .data b d            => b ≠ .rio ∧ (s.status b).ClearsFull d
  | .chargingPermitted _ => ∃ b, b ≠ .rio ∧ (s.status b).ClearsFull (s.data b)
  | .timerExpiry         => False

instance (s : State) (i : Input) : Decidable (s.ClearsRio i) :=
  match i with
  | .data _ _            => inferInstanceAs (Decidable (_ ∧ _))
  | .chargingPermitted _ => decidable_of_iff _ exists_battery_iff.symm
  | .timerExpiry         => inferInstanceAs (Decidable False)

end State

-- A message does to a container what it does to it on its own account, and may clear one flag.
theorem containersBehind_eq : s.containersBehind i b =
    if b = .rio ∧ s.ClearsRio i then (s.ownBehind i b).clearFull else s.ownBehind i b := by
  cases i
  case timerExpiry => simp [State.containersBehind, State.ownBehind, State.ClearsRio]
  case data b' d =>
    have hs : (s.setData b' d).gBatteryDataContainer b' =
        (s.gBatteryDataContainer b').receive d := by
      simp [State.setData, BatteryContainerData.receive]
    by_cases hb : b = b'
    case pos =>
      subst hb
      have hn : ¬(b = .rio ∧ s.ClearsRio (.data b d)) := fun hn => hn.right.left hn.left
      rw [if_neg hn, State.ownBehind, if_pos rfl, State.containersBehind, evaluate_self, hs]
    case neg =>
      have hn : (s.setData b' d).gBatteryDataContainer b = s.gBatteryDataContainer b := by
        simp [State.setData, hb]
      have hiff : b = .rio ∧ ((s.gBatteryDataContainer b').receive d).ClearsFull ↔
          b = .rio ∧ s.ClearsRio (.data b' d) :=
        and_congr_right fun hr => (and_iff_right fun he => hb (hr.trans he.symm)).symm
      rw [State.ownBehind, if_neg hb, State.containersBehind, evaluate_of_ne hb, hs, hn,
        if_congr hiff rfl rfl]
  case chargingPermitted ok =>
    rw [State.containersBehind, State.ownBehind]
    by_cases hr : b = .rio
    case neg =>
      rw [foldl_evaluate_of_mem (by decide) hr (by cases b <;> decide), if_neg (by simp [hr])]
    case pos =>
      subst hr
      rw [batteries, List.foldl_cons, foldl_evaluate_rio (by decide) (by decide), evaluate_self]
      have hmem (b : Battery) : b ∈ [Battery.o1, .o2, .o3] ↔ b ≠ .rio := by cases b <;> decide
      refine if_congr ((exists_congr fun b => ?_).trans (and_iff_right rfl).symm) rfl rfl
      rw [hmem]
      refine and_congr_right fun hn => ?_
      rw [evaluate_of_ne hn, if_neg (by simp [hn])]
      rfl

theorem step_container (h : step s i = some s') : s'.gBatteryDataContainer b =
    if b = .rio ∧ s.ClearsRio i then (s.ownBehind i b).clearFull else s.ownBehind i b := by
  rw [step_containers h, containersBehind_eq]

end RoboOne.BatteryManager
