import RoboOne.StateMachine.Dispatch

namespace RoboOne.StateMachine

open Interaction Transition

-- An event on its way to the server. If the server has sent it to itself, `entry` is the number of the
-- state entry in which it was then.
structure Sent where
  event : Event
  entry : Option Nat
deriving DecidableEq

-- The server, the number of the entry into the state that it is in, and the events in flight.
structure Mailbox where
  machine  : ServerWorld
  entry    : Nat
  inFlight : List Sent

-- The events that the server sends with the given calls.
def sentBy (calls : History Call.Answer) : List Event :=
  calls.filterMap fun
    | ⟨.stateMachineServerSendReceive e, true⟩ => some e
    | _                                        => none

-- The state that the handler of the event enters, if it is one of the transitions.
def enters (w : ServerWorld) (e : Event) : Option StateName :=
  w.memory.bind (·.target e.dispatched)

-- The server handles an event, with all the calls that it makes.
def Mailbox.handle (env : Environment Call.Answer) (s : Mailbox) (e : Event) : Option Mailbox :=
  (eventStep env s.machine e).map fun machine =>
    let entry := if (enters s.machine e).isSome then s.entry + 1 else s.entry
    let events := sentBy (machine.history.drop s.machine.history.length)
    { machine  := machine
      entry    := entry
      inFlight := s.inFlight ++ events.map (⟨·, some entry⟩) }

-- The events arrive in any order.
inductive Delivery
  | send (e : Event)     -- by any other client
  | handle (place : Nat) -- an event that is in flight

-- Nobody but the server itself sends INIT_FAILURE.
def deliver (env : Environment Call.Answer) (s : Mailbox) : Delivery → Option Mailbox
  | .send e       =>
    if e = .initFailure then none else some { s with inFlight := s.inFlight ++ [⟨e, none⟩] }
  | .handle place => s.inFlight[place]?.bind fun sent =>
    { s with inFlight := s.inFlight.eraseIdx place }.handle env sent.event

-- STATE_MACHINE_SERVER_START has led from the one world to the other.
def Mailbox.started (w₀ w : ServerWorld) : Mailbox where
  machine  := w
  entry    := 0
  inFlight := (sentBy (w.history.drop w₀.history.length)).map (⟨·, some 0⟩)

-- Whichever INIT_FAILURE arrives next only causes a transition if the server is still in the state
-- entry whose actions have sent it.
def Concerned (env : Environment Call.Answer) (s : Mailbox) : Prop :=
  ∀ place sent, s.inFlight[place]? = some sent → sent.event = .initFailure →
    ∀ s', deliver env s (.handle place) = some s' → s'.machine.memory ≠ s.machine.memory →
      sent.entry = some s.entry

-- The states that have a handler for INIT_FAILURE.
def Fails (n : StateName) : Prop :=
  n ∈ [.init, .mobile]

instance : DecidablePred Fails :=
  fun _ => inferInstanceAs (Decidable (_ ∈ _))

-- No other INIT_FAILURE is in flight when Init or Mobile is entered.
def Settled (s : Mailbox) : Delivery → Prop
  | .send _       => True
  | .handle place => ∀ sent ∈ s.inFlight[place]?, ∀ n ∈ enters s.machine sent.event, Fails n →
    ∀ other ∈ s.inFlight.eraseIdx place, other.event ≠ .initFailure

instance (s : Mailbox) : (d : Delivery) → Decidable (Settled s d)
  | .send _   => inferInstanceAs (Decidable True)
  | .handle _ => inferInstanceAs (Decidable (∀ sent ∈ _, ∀ n ∈ _, _))

variable {env : Environment Call.Answer} {s s' : Mailbox} {e : Event} {n : StateName} {d : Delivery}
  {w w' w₀ : ServerWorld} {sent : Sent} {place : Nat}

theorem enters_eq (h : w.memory = some n.state) : enters w e = n.state.target e.dispatched := by
  rw [enters, h, Option.bind_some]

-- No events have been sent since the given history.
def Silent (h₀ : History Call.Answer) (w : ServerWorld) : Prop :=
  ∃ calls, w.history = h₀ ++ calls ∧ sentBy calls = []

theorem Silent.record {h₀ : History Call.Answer} {c : Call} {a : c.Answer} (h : Silent h₀ w)
    (hc : c.Remains) : Silent h₀ (w.record c a) := by
  obtain ⟨calls, hw, hq⟩ := h
  refine ⟨calls ++ [⟨c, a⟩], by rw [World.record, hw, List.append_assoc], ?_⟩
  rw [sentBy, List.filterMap_append, ← sentBy, hq]
  cases c
  case printDebug                   => rfl
  case taskHandlerServerSendReceive => rfl
  all_goals exact absurd hc id

-- Only entry actions send events.
theorem silent_of_remains (h : w.memory = some n.state) (hn : enters w e = none)
    (hs : eventStep env w e = some w') : Silent w.history w' := by
  have hh : Handles env (Silent w.history) fun t w' => t = none → Silent w.history w' := by
    constructor
    case keeps      => exact fun c hc => ensures_call fun _ hw => hw.record hc
    case remains    => exact fun _ hw _ => hw
    case transition =>
      exact fun n pTaskReq => (transition_spec n pTaskReq).mono (P := fun _ => True)
        (fun _ _ => trivial) fun _ _ _ ht => by cases ht
  have ⟨m, hm, _, hq⟩ := hh.eventStep (e := e) h ⟨[], (List.append_nil _).symm, rfl⟩
  obtain rfl := Option.some.inj <| hs.symm.trans hm
  exact hq ((enters_eq h).symm.trans hn)

theorem deliver_handle (hp : s.inFlight[place]? = some sent) : deliver env s (.handle place) =
    { s with inFlight := s.inFlight.eraseIdx place }.handle env sent.event := by
  rw [deliver, hp, Option.bind_some]

-- An event whose handler is no transition leaves everything as it is.
theorem deliver_of_remains (env : Environment Call.Answer) (h : s.machine.memory = some n.state)
    (hp : s.inFlight[place]? = some sent) (hn : enters s.machine sent.event = none) :
    ∃ s', deliver env s (.handle place) = some s' ∧ s'.machine.memory = some n.state ∧
      s'.entry = s.entry ∧ s'.inFlight = s.inFlight.eraseIdx place := by
  have ⟨w', hw, hm⟩ := eventStep_spec env sent.event h
  have ⟨calls, hc, hq⟩ := silent_of_remains h hn hw
  have hnext : n.next sent.event.dispatched = n := by
    rw [next_eq_target, ← enters_eq h, hn, Option.getD_none]
  refine ⟨_, by rw [deliver_handle hp, Mailbox.handle, hw]; rfl, hnext ▸ hm, ?_, ?_⟩
  case refine_1 => simp [hn]
  case refine_2 => simp [hc, hq]

-- What is sent during a transition belongs to the new entry.
theorem deliver_of_enters {n' : StateName} (env : Environment Call.Answer)
    (h : s.machine.memory = some n.state) (hp : s.inFlight[place]? = some sent)
    (hn : enters s.machine sent.event = some n') :
    ∃ s' new, deliver env s (.handle place) = some s' ∧ s'.machine.memory = some n'.state ∧
      s'.entry = s.entry + 1 ∧ s'.inFlight = s.inFlight.eraseIdx place ++ new ∧
      ∀ sent ∈ new, sent.entry = some (s.entry + 1) := by
  have ⟨w', hw, hm⟩ := eventStep_spec env sent.event h
  have hnext : n.next sent.event.dispatched = n' := by
    rw [next_eq_target, ← enters_eq h, hn, Option.getD_some]
  refine ⟨_, _, by rw [deliver_handle hp, Mailbox.handle, hw]; rfl, hnext ▸ hm, by simp [hn], rfl, ?_⟩
  intro sent hs
  obtain ⟨_, _, rfl⟩ := List.mem_map.mp hs
  simp [hn]

-- INIT_FAILURE leads from Init to Shutdown, and from Mobile to Init.
theorem next_initFailure_ne : n.next .initFailure ≠ n ↔ Fails n := by
  cases n <;> decide

-- The server is in one of its states, and no event belongs to an entry to come.
structure Known (s : Mailbox) : Prop where
  state   : ∃ n : StateName, s.machine.memory = some n.state
  entries : ∀ sent ∈ s.inFlight, ∀ k ∈ sent.entry, k ≤ s.entry

theorem concerned_iff (h : s.machine.memory = some n.state) : Concerned env s ↔
    (Fails n → ∀ sent ∈ s.inFlight, sent.event = .initFailure → sent.entry = some s.entry) := by
  have hs {place : Nat} {sent : Sent} (hp : s.inFlight[place]? = some sent)
      (he : sent.event = .initFailure) : ∃ s', deliver env s (.handle place) = some s' ∧
        (s'.machine.memory ≠ s.machine.memory ↔ Fails n) := by
    have ⟨w', hw, hm⟩ := eventStep_spec env .initFailure h
    refine ⟨_, by rw [deliver_handle hp, he, Mailbox.handle, hw]; rfl, ?_⟩
    rw [← next_initFailure_ne, hm, h]
    exact not_congr <| Option.some_inj.trans StateName.state_injective.eq_iff
  constructor
  case mp =>
    intro hc hf sent hm he
    have ⟨place, hp⟩ := List.mem_iff_getElem?.mp hm
    have ⟨s', hs', hne⟩ := hs hp he
    exact hc place sent hp he s' hs' (hne.mpr hf)
  case mpr =>
    intro hc place sent hp he s' hs' hne
    have ⟨s'', hs'', hne'⟩ := hs hp he
    obtain rfl := Option.some.inj <| hs'.symm.trans hs''
    exact hc (hne'.mp hne) sent (List.mem_of_getElem? hp) he

theorem deliver_send (h : deliver env s (.send e) = some s') :
    e ≠ .initFailure ∧ s' = { s with inFlight := s.inFlight ++ [⟨e, none⟩] } := by
  rw [deliver] at h
  split at h
  case isTrue     => cases h
  case isFalse he => exact ⟨he, (Option.some.inj h).symm⟩

theorem Known.deliver (h : Known s) (hs : deliver env s d = some s') : Known s' := by
  have ⟨n, hn⟩ := h.state
  cases d
  case send e =>
    obtain ⟨_, rfl⟩ := deliver_send hs
    refine ⟨⟨n, hn⟩, fun sent hm k hk => ?_⟩
    rcases List.mem_append.mp hm with hm | hm
    case inl => exact h.entries sent hm k hk
    case inr =>
      rw [List.mem_singleton.mp hm] at hk
      cases hk
  case handle place =>
    have ⟨sent, hp, _⟩ := Option.bind_eq_some_iff.mp hs
    have hrest : ∀ sent ∈ s.inFlight.eraseIdx place, ∀ k ∈ sent.entry, k ≤ s.entry :=
      fun sent hm => h.entries sent (List.mem_of_mem_eraseIdx hm)
    cases he : enters s.machine sent.event
    case none =>
      have ⟨m, hm, hmem, hentry, hflight⟩ := deliver_of_remains env hn hp he
      obtain rfl := Option.some.inj <| hs.symm.trans hm
      exact ⟨⟨n, hmem⟩, by rw [hflight, hentry]; exact hrest⟩
    case some n' =>
      have ⟨m, new, hm, hmem, hentry, hflight, hnew⟩ := deliver_of_enters env hn hp he
      obtain rfl := Option.some.inj <| hs.symm.trans hm
      refine ⟨⟨n', hmem⟩, fun sent hm k hk => ?_⟩
      rw [hentry]
      rcases List.mem_append.mp (hflight ▸ hm) with hm | hm
      case inl => exact Nat.le_succ_of_le (hrest sent hm k hk)
      case inr =>
        rw [hnew sent hm] at hk
        exact Nat.le_of_eq (Option.some.inj hk).symm

theorem known_preserved : Preserves (deliver env) (fun _ _ => True) Known where
  step h _ hs := h.deliver hs

-- What other clients send is no INIT_FAILURE.
theorem Concerned.deliver_send (hc : Concerned env s) (hk : Known s)
    (hs : deliver env s (.send e) = some s') : Concerned env s' := by
  have ⟨n, hn⟩ := hk.state
  obtain ⟨he, rfl⟩ := StateMachine.deliver_send hs
  have hc := (concerned_iff hn).mp hc
  refine (concerned_iff (s := { s with inFlight := s.inFlight ++ [⟨e, none⟩] }) hn).mpr
    fun hf sent hm hi => ?_
  rcases List.mem_append.mp hm with hm | hm
  case inl => exact hc hf sent hm hi
  case inr =>
    rw [List.mem_singleton.mp hm] at hi
    exact absurd hi he

-- Nothing changes but that the event is gone.
theorem Concerned.deliver_of_remains (hc : Concerned env s) (h : s.machine.memory = some n.state)
    (hp : s.inFlight[place]? = some sent) (hn : enters s.machine sent.event = none)
    (hs : deliver env s (.handle place) = some s') : Concerned env s' := by
  have ⟨m, hm, hmem, hentry, hflight⟩ := StateMachine.deliver_of_remains env h hp hn
  obtain rfl := Option.some.inj <| hs.symm.trans hm
  refine (concerned_iff hmem).mpr fun hf sent hm hi => ?_
  rw [hflight] at hm
  rw [hentry]
  exact (concerned_iff h).mp hc hf sent (List.mem_of_mem_eraseIdx hm) hi

theorem concerned_iff_of_enters {n' : StateName} (hk : Known s)
    (hp : s.inFlight[place]? = some sent) (hn : enters s.machine sent.event = some n')
    (hs : deliver env s (.handle place) = some s') : Concerned env s' ↔
      (Fails n' → ∀ other ∈ s.inFlight.eraseIdx place, other.event ≠ .initFailure) := by
  have ⟨n, h⟩ := hk.state
  have ⟨m, new, hm, hmem, hentry, hflight, hnew⟩ := deliver_of_enters env h hp hn
  obtain rfl := Option.some.inj <| hs.symm.trans hm
  rw [concerned_iff hmem, hentry, hflight]
  refine forall_congr' fun _ => ?_
  constructor
  case mp =>
    -- What is left in flight belongs to an earlier entry, or to none.
    intro h other ho hi
    have hle := hk.entries other (List.mem_of_mem_eraseIdx ho) _
      (h other (List.mem_append_left _ ho) hi)
    exact absurd hle (Nat.not_succ_le_self _)
  case mpr =>
    intro h sent hm hi
    rcases List.mem_append.mp hm with hm | hm
    case inl => exact absurd hi (h sent hm)
    case inr => exact hnew sent hm

-- An event is delivered without harm, if and only if it does not lead into Init or Mobile while another
-- INIT_FAILURE is in flight.
theorem settled_iff (hk : Known s) (hc : Concerned env s) :
    Settled s d ↔ ∀ s' ∈ deliver env s d, Concerned env s' := by
  have ⟨n, hn⟩ := hk.state
  cases d
  case send e => exact iff_of_true trivial fun _ hs => hc.deliver_send hk hs
  case handle place =>
    cases hp : s.inFlight[place]?
    case none      => simp [Settled, deliver, hp]
    case some sent =>
      cases he : enters s.machine sent.event
      case none =>
        exact iff_of_true (by simp [Settled, hp, he]) fun _ hs => hc.deliver_of_remains hn hp he hs
      case some n' =>
        have ⟨m, _, hm, _⟩ := deliver_of_enters env hn hp he
        have hset : Settled s (.handle place) ↔ (Fails n' →
            ∀ other ∈ s.inFlight.eraseIdx place, other.event ≠ .initFailure) := by
          simp [Settled, hp, he]
        rw [hset, ← concerned_iff_of_enters hk hp he hm, hm]
        simp only [Option.mem_def, Option.some.injEq, forall_eq']

theorem known_started (h : w.memory = some .init) : Known (.started w₀ w) where
  state   := ⟨.init, h⟩
  entries := by
    intro sent hm k hk
    obtain ⟨_, _, rfl⟩ := List.mem_map.mp hm
    exact Nat.le_of_eq (Option.some.inj hk).symm

theorem concerned_started (h : w.memory = some .init) : Concerned env (.started w₀ w) := by
  refine (concerned_iff (n := .init) h).mpr fun _ sent hm _ => ?_
  obtain ⟨_, _, rfl⟩ := List.mem_map.mp hm
  rfl

theorem concerned_throughout (h : w.memory = some .init) (ds : List Delivery) :
    Throughout (deliver env) (Concerned env) (.started w₀ w) ds ↔
      Along (deliver env) Settled (.started w₀ w) ds :=
  known_preserved.throughout_iff_along (known_started h) (concerned_started h) fun _ _ => settled_iff

-- After the start of the server INIT_FAILURE always concerns the entry that has sent it, if and only if
-- Init and Mobile are only entered while no other INIT_FAILURE is in flight.
theorem initFailure_concerns_iff (env : Environment Call.Answer) (w₀ w : ServerWorld)
    (ds : List Delivery) (h : doAction .serverStart env w₀ =
      some ((.successKeepRunning, some (.serverStart true)), w)) :
    Throughout (deliver env) (Concerned env) (.started w₀ w) ds ↔
      Along (deliver env) Settled (.started w₀ w) ds :=
  concerned_throughout (start_memory h) ds

theorem initFailure_concerns_iff_working :
    Throughout (deliver workingEnvironment) (Concerned workingEnvironment)
      (.started ⟨none, []⟩ startedWorld) [.send (.tasksAvailable ⟨[]⟩), .handle 0] ↔
    Along (deliver workingEnvironment) Settled (.started ⟨none, []⟩ startedWorld)
      [.send (.tasksAvailable ⟨[]⟩), .handle 0] :=
  initFailure_concerns_iff workingEnvironment ⟨none, []⟩ startedWorld _ start_workingEnvironment

-- Nothing fails but that the relays on the PCB are enabled.
def failingEnvironment : Environment Call.Answer :=
  fun h c => match c with
    | .hardwareServerSendReceive .enableOnPCBRelays _ => (false, ⟨[], 0⟩)
    | c                                               => workingEnvironment h c

def failedWorld : ServerWorld :=
  (step failingEnvironment ⟨none, []⟩ .serverStart).getD ⟨none, []⟩

theorem start_failingEnvironment : doAction .serverStart failingEnvironment ⟨none, []⟩ =
    some ((.successKeepRunning, some (.serverStart true)), failedWorld) :=
  rfl

-- A task arrives before the INIT_FAILURE of Init, and Mobile is entered without a failure.
theorem initFailure_not_concerns : ¬∀ (env : Environment Call.Answer) (w₀ w : ServerWorld)
    (ds : List Delivery), doAction .serverStart env w₀ =
      some ((.successKeepRunning, some (.serverStart true)), w) →
      Throughout (deliver env) (Concerned env) (.started w₀ w) ds := by
  intro h
  have ht := h _ _ failedWorld [.send (.tasksAvailable ⟨[]⟩), .handle 1] start_failingEnvironment
  have ha := (concerned_throughout (start_memory start_failingEnvironment) _).mp ht
  exact absurd ha (by decide +kernel)

end RoboOne.StateMachine
