import RoboOne.BatteryManager.Containers

namespace RoboOne.BatteryManager

open Transition

namespace BatteryStatus

variable {st : BatteryStatus} {d : BatteryData}

-- The battery is marked as fully charged behind its evaluation, on its own account.
def Fills (st : BatteryStatus) (d : BatteryData) : Prop :=
  if st.fullyCharged then
    ¬st.ClearsFull d
  else
    st.Checked d ∧ fullCharge < d.remainingCapacity.toNat

instance : Decidable (st.Fills d) :=
  inferInstanceAs (Decidable (ite _ _ _))

theorem next_fullyCharged {threshold : Nat} : (st.next threshold d).fullyCharged =
    (st.fullyCharged || decide (st.Checked d ∧ fullCharge < d.remainingCapacity.toNat)) := by
  by_cases hk : st.Checked d
  case pos => simp [next, hk, checkCharge]
  case neg =>
    rw [next, if_neg hk]
    split_ifs <;> simp [hk]

end BatteryStatus

namespace BatteryContainerData

variable {c : BatteryContainerData} {threshold : Nat}

theorem own_rio_fullyCharged : (c.own .rio threshold).batteryStatus.fullyCharged = true ↔
    c.batteryStatus.Fills c.batteryData := by
  by_cases hc : c.ClearsFull
  case pos =>
    have hf : c.batteryStatus.fullyCharged = true := hc.right.left
    have hc' : c.batteryStatus.ClearsFull c.batteryData := hc
    simp [own, hc, clearFull, BatteryStatus.Fills, hf, hc']
  case neg =>
    have hc' : ¬c.batteryStatus.ClearsFull c.batteryData := hc
    cases hf : c.batteryStatus.fullyCharged <;>
      simp [own, hc, next, BatteryStatus.next_fullyCharged, BatteryStatus.Fills, hf, hc']

theorem clearFull_eq_self_iff : c.clearFull = c ↔ c.batteryStatus.fullyCharged = false := by
  constructor
  case mp  => exact fun h => h ▸ rfl
  case mpr =>
    intro h
    obtain ⟨updated, ⟨full, insufficient, on, hot, broken⟩, d⟩ := c
    subst h
    rfl

end BatteryContainerData

-- What decides about a battery, if all others are left out.
@[ext]
structure Alone where
  container : BatteryContainerData
  threshold : InsufficientChargeThreshold

-- The message matters to the battery: it has data of the battery, or the permission to charge.
def Input.Concerns (b : Battery) : Input → Bool
  | .data b' _           => b = b'
  | .chargingPermitted _ => true
  | .timerExpiry         => false

variable {s s' : State} {b b' : Battery} {i : Input}

def State.alone (b : Battery) (s : State) : Alone :=
  ⟨s.gBatteryDataContainer b, s.gInsufficientChargeThreshold⟩

-- A message as it would be handled if there were no other batteries.
def Alone.step (b : Battery) (a : Alone) : Input → Alone
  | .data b' d            =>
    if b = b' then
      { a with container := (a.container.receive d).own b a.threshold.value.toNat }
    else
      a
  | .chargingPermitted ok =>
    let threshold : InsufficientChargeThreshold :=
      if ok then
        ⟨minimumChargeChargingPermitted, chargingPermitted_either⟩
      else
        ⟨minimumChargeChargingNotPermitted, chargingNotPermitted_either⟩
    ⟨a.container.own b threshold.value.toNat, threshold⟩
  | .timerExpiry          => a

-- The container of the battery is what follows from the messages that concern it.
def Independent (b : Battery) (s : State) (i : Input) : Prop :=
  ∀ s' ∈ step s i, s'.alone b = (s.alone b).step b i

-- The battery of the Pi/RIO is marked as fully charged when another battery could clear the mark.
def State.RioFull (s : State) : Input → Prop
  | .data _ _            => (s.status .rio).fullyCharged = true
  | .chargingPermitted _ => (s.status .rio).Fills (s.data .rio)
  | .timerExpiry         => (s.status .rio).fullyCharged = true

instance (s : State) (i : Input) : Decidable (s.RioFull i) :=
  match i with
  | .data _ _            => inferInstanceAs (Decidable (_ = true))
  | .chargingPermitted _ => inferInstanceAs (Decidable (BatteryStatus.Fills _ _))
  | .timerExpiry         => inferInstanceAs (Decidable (_ = true))

-- No other battery clears the mark of the Pi/RIO while it is set. Other batteries are not disturbed.
def Undisturbed (b : Battery) (s : State) (i : Input) : Prop :=
  b = .rio → s.ClearsRio i → ¬s.RioFull i

instance (b : Battery) (s : State) (i : Input) : Decidable (Undisturbed b s i) :=
  inferInstanceAs (Decidable (_ → _))

theorem step_threshold (h : step s i = some s') : s'.gInsufficientChargeThreshold =
    match i with
    | .chargingPermitted ok => (s.setThreshold ok).gInsufficientChargeThreshold
    | _                     => s.gInsufficientChargeThreshold := by
  have ⟨_, h⟩ := step_eq_some_iff.mp h
  cases i
  case data =>
    obtain ⟨s₁, hs, rfl⟩ := data_sameSignals h
    exact signalChargeStateAll_threshold.trans hs.threshold
  case chargingPermitted =>
    obtain ⟨s₁, hs, rfl⟩ := chargingPermitted_sameSignals h
    exact signalChargeStateAll_threshold.trans hs.threshold
  case timerExpiry =>
    obtain rfl := Option.some.inj h
    exact (timerExpiry_sameSignals s).threshold

theorem alone_step_container : ((s.alone b).step b i).container = s.ownBehind i b := by
  cases i
  case data b' d =>
    simp only [Alone.step, State.ownBehind]
    split <;> rfl
  case chargingPermitted => rfl
  case timerExpiry       => rfl

theorem alone_step_threshold (h : step s i = some s') :
    s'.gInsufficientChargeThreshold = ((s.alone b).step b i).threshold := by
  rw [step_threshold h]
  cases i
  case data b' d =>
    simp only [Alone.step]
    split <;> rfl
  case chargingPermitted => rfl
  case timerExpiry       => rfl

-- Where the mark could be cleared, it is set as `RioFull` says.
theorem rioFull_iff (h : s.ClearsRio i) :
    (s.ownBehind i .rio).batteryStatus.fullyCharged = true ↔ s.RioFull i := by
  cases i
  case timerExpiry       => contradiction
  case chargingPermitted => exact BatteryContainerData.own_rio_fullyCharged
  case data b d =>
    rw [State.ownBehind, if_neg h.left.symm]
    rfl

theorem independent_iff (h : step s i = some s') : Independent b s i ↔ Undisturbed b s i := by
  have he : Independent b s i ↔ s'.gBatteryDataContainer b = s.ownBehind i b := by
    simp only [Independent, h, Option.mem_def, Option.some.injEq, forall_eq', Alone.ext_iff,
      alone_step_container]
    exact and_iff_left (alone_step_threshold h)
  rw [he, step_container h, Undisturbed]
  by_cases hc : b = .rio ∧ s.ClearsRio i
  case neg =>
    rw [if_neg hc]
    exact iff_of_true rfl fun hr hn => absurd ⟨hr, hn⟩ hc
  case pos =>
    obtain ⟨rfl, hc⟩ := hc
    rw [if_pos ⟨rfl, hc⟩, BatteryContainerData.clearFull_eq_self_iff, ← Bool.not_eq_true,
      rioFull_iff hc]
    exact ⟨fun hn _ _ => hn, fun hn => hn rfl hc⟩

theorem run_alone {is : List Input} (h : run step s is = some s')
    (hi : Along step (Independent b) s is) : s'.alone b = is.foldl (Alone.step b) (s.alone b) := by
  induction is generalizing s
  case nil => exact Option.some.inj h ▸ rfl
  case cons i is ih =>
    have ⟨m, hm, h⟩ := run_cons_iff.mp h
    rw [ih h (hi.right m hm), hi.left m hm, List.foldl_cons]

-- The messages that do not concern the battery can be left out.
theorem foldl_alone_filter {is : List Input} {a : Alone} :
    (is.filter (Input.Concerns b)).foldl (Alone.step b) a = is.foldl (Alone.step b) a := by
  induction is generalizing a
  case nil => rfl
  case cons i is hi =>
    by_cases hc : i.Concerns b
    case pos => rw [List.filter_cons_of_pos hc, List.foldl_cons, List.foldl_cons, hi]
    case neg =>
      have hs : a.step b i = a := by
        cases i
        case data b' d         => exact if_neg (by simpa [Input.Concerns] using hc)
        case chargingPermitted => exact absurd rfl hc
        case timerExpiry       => rfl
      rw [List.filter_cons_of_neg hc, List.foldl_cons, hs, hi]

-- The threshold at the start is of no importance, if the permission arrives before the first data.
theorem foldl_alone_container {is : List Input} {a a' : Alone} (h : a.container = a'.container)
    (ht : ∀ d, (is.filter (Input.Concerns b)).head? = some (.data b d) → a.threshold = a'.threshold) :
    (is.foldl (Alone.step b) a).container = (is.foldl (Alone.step b) a').container := by
  rw [← foldl_alone_filter, ← foldl_alone_filter (a := a')]
  cases his : is.filter (Input.Concerns b)
  case nil => exact h
  case cons i js =>
    have hc : i.Concerns b := List.of_mem_filter (his ▸ List.mem_cons_self)
    have hs : a.step b i = a'.step b i := by
      cases i
      case timerExpiry       => cases hc
      case chargingPermitted => simp only [Alone.step, h]
      case data b' d =>
        have hb : b = b' := by simpa [Input.Concerns] using hc
        subst hb
        have he : a = a' := Alone.ext h <| ht d <| by rw [his]; rfl
        rw [he]
    rw [List.foldl_cons, List.foldl_cons, hs]

-- In a run a battery is independent of the others, if and only if none of them clears its mark. Two such
-- runs with the same messages for the battery lead to the same status.
theorem battery_independent_iff {s₀ s₀' : State} {is is' : List Input}
    (h : run step (started s₀) is = some s) (h' : run step (started s₀') is' = some s')
    (hsame : is.filter (Input.Concerns b) = is'.filter (Input.Concerns b)) :
    (Along step (Independent b) (started s₀) is ↔ Along step (Undisturbed b) (started s₀) is) ∧
      (Along step (Undisturbed b) (started s₀) is → Along step (Undisturbed b) (started s₀') is' →
        (∀ d, (is.filter (Input.Concerns b)).head? = some (.data b d) →
          s₀.gInsufficientChargeThreshold = s₀'.gInsufficientChargeThreshold) →
            s.status b = s'.status b) := by
  have hiff {s₀ s : State} {is : List Input} (h : run step (started s₀) is = some s) :
      Along step (Independent b) (started s₀) is ↔ Along step (Undisturbed b) (started s₀) is := by
    have p : Preserves step (Undisturbed b) (fun _ => True) := ⟨fun _ _ _ => trivial⟩
    exact p.along_iff trivial h fun _ _ _ _ hs => independent_iff hs
  refine ⟨hiff h, fun hu hu' ht => ?_⟩
  have ha := run_alone h ((hiff h).mpr hu)
  have ha' := run_alone h' ((hiff h').mpr hu')
  have hc : (s.alone b).container = (s'.alone b).container := by
    have hfilter {a : Alone} : is'.foldl (Alone.step b) a = is.foldl (Alone.step b) a := by
      rw [← foldl_alone_filter, ← hsame, foldl_alone_filter]
    rw [ha, ha', hfilter]
    exact foldl_alone_container rfl ht
  exact congrArg BatteryContainerData.batteryStatus hc

-- The battery of the Pi/RIO is full, with an Orangutan that is full and is discharged.
def discharge : List Input :=
  [.data .rio ⟨0, 0, 2200, ⟨0, 0⟩, 20⟩, .data .o1 ⟨0, 0, 2200, ⟨0, 0⟩, 20⟩,
    .data .o1 ⟨0, 0, 1000, ⟨0, 0⟩, 20⟩]

theorem battery_independent_iff_o1 : ∃ s s', run step (started boot) discharge = some s ∧
    run step (started boot) discharge.tail = some s' ∧ s.status .o1 = s'.status .o1 := by
  have ⟨_, hr, _, hr', _⟩ : ∃ s ∈ run step (started boot) discharge,
      ∃ s' ∈ run step (started boot) discharge.tail, True := by decide +kernel
  have hs := battery_independent_iff (b := .o1) hr hr' (by decide +kernel)
  exact ⟨_, _, hr, hr', hs.right (by decide +kernel) (by decide +kernel) fun _ _ => rfl⟩

theorem battery_not_independent :
    ¬∀ (s₀ : State) (is is' : List Input) (s s' : State) (b : Battery),
      run step (started s₀) is = some s → run step (started s₀) is' = some s' →
        is.filter (Input.Concerns b) = is'.filter (Input.Concerns b) → s.status b = s'.status b := by
  intro h
  have ⟨s, hs, s', hs', hne⟩ : ∃ s ∈ run step (started boot) discharge,
      ∃ s' ∈ run step (started boot) (discharge.take 1), s.status .rio ≠ s'.status .rio := by
    decide +kernel
  exact hne <| h boot discharge (discharge.take 1) s s' .rio hs hs' (by decide +kernel)

end RoboOne.BatteryManager
