import RoboOne.Robot.Permission

namespace RoboOne.Robot

open BatteryManager (Signals)
open Interaction StateMachine Transition

-- The events with which the state machine leaves Docked.
def Leaves (e : Event) : Prop :=
  StateName.docked.next e.dispatched ≠ .docked

instance : DecidablePred Leaves :=
  fun _ => inferInstanceAs (Decidable (_ ≠ _))

-- When there is no event in flight then the state machine is in Docked only without a charge condition.
def Transitory (s : State) : Prop :=
  s.inFlight = [] → s.machine.memory = some .docked →
    s.manager.gAllInsufficientCharge = false ∧ s.manager.gAllFullyCharged = false

-- While the robot docks, no charge condition remains set silently, unless the state machine is going to
-- leave Docked anyway.
def Announced (s : State) : Input → Prop
  | .handle place => ∀ e ∈ s.inFlight[place]?, ∀ n : StateName, s.machine.memory = some n.state →
    n ≠ .docked → n.next e.dispatched = .docked → s.manager.Silent →
      ∃ e' ∈ s.inFlight.eraseIdx place, Leaves e'
  | _             => True

-- In Docked with a charge condition, the state machine is going to leave Docked.
structure Followed (s : State) : Prop where
  known  : s.machine.memory = none ∨ ∃ n : StateName, s.machine.memory = some n.state
  leaves : s.machine.memory = some .docked →
    s.manager.gAllInsufficientCharge = true ∨ s.manager.gAllFullyCharged = true →
      ∃ e ∈ s.inFlight, Leaves e

variable {env : Environment Call.Answer} {s s' : State} {n : StateName} {e e' : Event}

theorem leaves_event (e : BatteryManager.StateMachineEvent) : Leaves (event e) := by
  cases e <;> decide

theorem Followed.transitory (h : Followed s) : Transitory s := by
  intro hf hm
  have hn (hs : s.manager.gAllInsufficientCharge = true ∨ s.manager.gAllFullyCharged = true) :
      False := by
    have ⟨e, he, _⟩ := h.leaves hm hs
    exact List.not_mem_nil (hf ▸ he)
  exact ⟨eq_false_of_ne_true fun hi => hn (.inl hi), eq_false_of_ne_true fun hf => hn (.inr hf)⟩

theorem target_of_ne_docked (hn : n ≠ .docked) (h : n.next e = .docked) :
    n.state.target e = some .docked := by
  rw [next_eq_target] at h
  cases ht : n.state.target e <;> rw [ht] at h
  case none   => exact absurd h hn
  case some m => exact congrArg some h

theorem target_docked (h : StateName.docked.next e = .docked) :
    StateName.docked.state.target e = none := by
  cases e <;> first | rfl | cases h

theorem mem_eraseIdx_of_ne {es : List Event} {place : Nat} (he : es[place]? = some e)
    (he' : e' ∈ es) (hn : e' ≠ e) : e' ∈ es.eraseIdx place := by
  have ⟨i, hi⟩ := List.mem_iff_getElem?.mp he'
  refine List.mem_eraseIdx_iff_getElem?.mpr ⟨i, ?_, hi⟩
  rintro rfl
  exact hn <| Option.some.inj <| hi.symm.trans he

theorem Followed.manage {i : BatteryManager.Input} (h : Followed s) (hs : s.manage i = some s') :
    Followed s' := by
  obtain ⟨m, hm, rfl⟩ := Option.map_eq_some_iff.mp hs
  have ⟨new, hg⟩ := BatteryManager.step_signals hm
  refine ⟨h.known, fun hd hf => ?_⟩
  simp only [hg.signals, List.drop_left]
  have hold (hf : s.manager.gAllInsufficientCharge = true ∨ s.manager.gAllFullyCharged = true) :
      ∃ e ∈ s.inFlight ++ new.map event, Leaves e := by
    have ⟨e, he, hl⟩ := h.leaves hd hf
    exact ⟨e, List.mem_append_left _ he, hl⟩
  have hnew {e : BatteryManager.StateMachineEvent} (he : e ∈ new) :
      ∃ e ∈ s.inFlight ++ new.map event, Leaves e :=
    ⟨event e, List.mem_append_right _ (List.mem_map_of_mem he), leaves_event e⟩
  rcases hf with hf | hf
  case inl => exact (hg.insufficient hf).elim (fun h => hold (.inl h)) hnew
  case inr => exact (hg.full hf).elim (fun h => hold (.inr h)) hnew

theorem Followed.send (h : Followed s) :
    Followed { s with inFlight := s.inFlight ++ [e] } where
  known        := h.known
  leaves hd hf := by
    have ⟨e, he, hl⟩ := h.leaves hd hf
    exact ⟨e, List.mem_append_left _ he, hl⟩

theorem Followed.start (hs : s.handle env .serverStart = some s') : Followed s' := by
  have ⟨w, hw, hd⟩ := handle_start_spec hs
  have hw : s'.machine.memory = none ∨ s'.machine.memory = some .init := hd.machine ▸ hw
  refine ⟨hw.imp_right fun hw => ⟨.init, hw⟩, fun hd => ?_⟩
  exact absurd ⟨.docked, by decide, hd⟩ (not_onDock hw)

theorem Followed.handle {place : Nat} (h : Followed s) (ha : Announced s (.handle place))
    (he : s.inFlight[place]? = some e)
    (hs : { s with inFlight := s.inFlight.eraseIdx place }.handle env (.event e) = some s') :
    Followed s' := by
  rcases h.known with hn | ⟨n, hn⟩
  case inl => cases hs.symm.trans (handle_event_eq_none hn)
  case inr =>
    have ⟨w, hw, hd⟩ :=
      handle_event_spec (s := { s with inFlight := s.inFlight.eraseIdx place }) hn hs
    have hw : s'.machine.memory = some (n.next e.dispatched).state := hd.machine ▸ hw
    refine ⟨.inr ⟨_, hw⟩, fun hdock hf => ?_⟩
    have hnext : n.next e.dispatched = .docked :=
      StateName.state_injective <| Option.some.inj <| hw.symm.trans hdock
    by_cases hnd : n = .docked
    case pos =>
      -- The event does not leave Docked, so it is not the one that is going to.
      subst hnd
      rw [target_docked hnext] at hd
      rw [hd.manager rfl] at hf
      have ⟨e', he', hl⟩ := h.leaves hn hf
      have hne : e' ≠ e := by
        rintro rfl
        exact hl hnext
      exact ⟨e', hd.inFlight e' (mem_eraseIdx_of_ne he he' hne), hl⟩
    case neg =>
      rw [target_of_ne_docked hnd hnext] at hd
      by_cases hsilent : s.manager.Silent
      case pos =>
        have ⟨e', he', hl⟩ := ha e he n hn hnd hnext hsilent
        exact ⟨e', hd.inFlight e' he', hl⟩
      case neg =>
        have ⟨e', new, hg⟩ :=
          BatteryManager.chargingPermitted_signals (hd.managed true rfl) hsilent hf
        exact ⟨event e', hd.events _ hg.signals e' List.mem_cons_self, leaves_event e'⟩

theorem followed_preserved : Preserves (step env) Announced Followed where
  step {s i s'} h ha hs := by
    cases i
    case data        => exact h.manage hs
    case timerExpiry => exact h.manage hs
    case send        => exact Option.some.inj hs ▸ h.send
    case start =>
      rw [step] at hs
      split at hs
      case isFalse => contradiction
      case isTrue  => exact .start hs
    case handle place =>
      obtain ⟨_, he, hs⟩ := Option.bind_eq_some_iff.mp hs
      exact h.handle ha he hs

theorem boot_followed (h : History Call.Answer) (m : BatteryManager.State) :
    Followed (boot h m) where
  known      := .inl rfl
  leaves h _ := by cases h

-- In a run in which no charge condition remains set silently while the robot docks, Docked is only
-- transitory.
theorem docked_transitory (env : Environment Call.Answer) (h : History Call.Answer)
    (m : BatteryManager.State) (is : List Input)
    (ha : Along (step env) Announced (boot h m) is) :
    Throughout (step env) Transitory (boot h m) is :=
  followed_preserved.throughout (boot_followed h m) ha |>.mono fun _ => Followed.transitory

-- The robot docks before there are any data about its batteries.
theorem docked_transitory_mains : Throughout (step workingEnvironment) Transitory
    (boot [] BatteryManager.boot) [.start, .send .mainsPowerAvailable, .handle 0] := by
  refine docked_transitory workingEnvironment [] BatteryManager.boot _
    ⟨trivial, fun s₁ h₁ => ⟨trivial, fun s₂ h₂ => ⟨?_, fun _ _ => trivial⟩⟩⟩
  obtain rfl := Option.some.inj h₂
  have h₁ : (boot [] BatteryManager.boot).handle workingEnvironment .serverStart = some s₁ := h₁
  have ⟨_, _, hd⟩ := handle_start_spec h₁
  intro e _ n _ _ _ hs
  have hm : s₁.manager = BatteryManager.started BatteryManager.boot := hd.manager rfl
  rw [show BatteryManager.State.Silent _ ↔ s₁.manager.Silent from Iff.rfl, hm] at hs
  rcases hs with ⟨hs, _⟩ | ⟨hs, _⟩ <;> cases hs

-- The Battery Manager reports a low charge while the state machine is in Init, which ignores it.
def lowBeforeDocking : List Input :=
  [.start, .data .o1 ⟨0, 0, 1000, ⟨0, 0⟩, 20⟩, .handle 0, .send .mainsPowerAvailable, .handle 0]

theorem docked_not_transitory : ¬∀ (env : Environment Call.Answer) (h : History Call.Answer)
    (m : BatteryManager.State) (is : List Input) (s : State),
      run (step env) (boot h m) is = some s → Transitory s := by
  intro h
  have hr : run (step workingEnvironment) (boot [] BatteryManager.boot) lowBeforeDocking = some _ :=
    (Option.some_get (by decide +kernel)).symm
  have ⟨hi, _⟩ := h workingEnvironment [] BatteryManager.boot lowBeforeDocking _ hr
    (by decide +kernel) (by decide +kernel)
  exact absurd hi (by decide +kernel)

end RoboOne.Robot
