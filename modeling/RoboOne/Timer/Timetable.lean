import Mathlib.Data.List.Pairwise
import Mathlib.Data.List.TakeWhile
import RoboOne.Timer.Server

namespace RoboOne.Timer

-- A timer that is running, and the operation which started it.
@[ext]
structure Running where
  serial : Nat
  timer  : Timer
deriving DecidableEq

namespace Running

variable {r r' : Running}

-- `r` expires before `r'`, or has been started before it and expires at the same time.
def Sooner (r r' : Running) : Prop :=
  r.timer.expiryTimeDeciSeconds < r'.timer.expiryTimeDeciSeconds ∨
    r.timer.expiryTimeDeciSeconds = r'.timer.expiryTimeDeciSeconds ∧ r.serial < r'.serial

instance : DecidableRel Sooner :=
  fun _ _ => inferInstanceAs (Decidable (_ ∨ _))

theorem Sooner.ne (h : Sooner r r') : r ≠ r' := by
  rintro rfl
  rcases h with h | ⟨_, h⟩
  case inl => exact UInt32.lt_irrefl _ h
  case inr => exact Nat.lt_irrefl _ h

theorem Sooner.trans {r'' : Running} (h : Sooner r r') (h' : Sooner r' r'') : Sooner r r'' := by
  rcases h with h | ⟨h, hs⟩ <;> rcases h' with h' | ⟨h', hs'⟩
  case inl.inl => exact .inl (UInt32.lt_trans h h')
  case inl.inr => exact .inl (lt_of_lt_of_eq h h')
  case inr.inl => exact .inl (lt_of_eq_of_lt h h')
  case inr.inr => exact .inr ⟨h.trans h', Nat.lt_trans hs hs'⟩

-- `r` expires later than `r'`, and so has to make way for it.
def Later (r r' : Running) : Prop :=
  r.timer.expiryTimeDeciSeconds > r'.timer.expiryTimeDeciSeconds

instance : DecidableRel Later :=
  fun _ _ => inferInstanceAs (Decidable (_ > _))

def Expired (now : UInt32) (r : Running) : Prop :=
  r.timer.expiryTimeDeciSeconds ≤ now

instance (now : UInt32) : DecidablePred (Expired now) :=
  fun _ => inferInstanceAs (Decidable (_ ≤ _))

-- A stop request asks for the timer.
def Requested (req : TimerStopReq) (r : Running) : Prop :=
  r.timer.id = req.id ∧ r.timer.sourcePort = req.sourcePort

instance (req : TimerStopReq) : DecidablePred (Requested req) :=
  fun _ => inferInstanceAs (Decidable (_ ∧ _))

-- The message that the timer is there for.
def sent (r : Running) : Sent where
  serial                := r.serial
  expiryTimeDeciSeconds := r.timer.expiryTimeDeciSeconds
  serverPort            := .ofInt r.timer.sourcePort.toInt
  bytes                 := r.timer.expiryMsg.wire

-- Puts a timer before the timers that expire later.
def insert (r : Running) (rs : List Running) : List Running :=
  rs.takeWhile (¬Later · r) ++ r :: rs.dropWhile (¬Later · r)

end Running

-- What the server is there for: it keeps the timers that are running in the order in which they will
-- expire.
structure Timetable where
  now     : UInt32
  running : List Running
  history : List Record
  sorted  : running.Pairwise Running.Sooner
  started : ∀ r ∈ running, r.serial < history.length

namespace Timetable

variable (t : Timetable)

-- `pAlloc` as it is set up by `allocTimer`.
def newTimer (periodDeciSeconds : UInt32) (sourcePort : Int32) (id : UInt8) (msg : Messaging.ShortMsg)
    (beyond : Messaging.Beyond) : Running where
  serial := t.history.length
  timer  := {
    expiryTimeDeciSeconds := t.now + periodDeciSeconds
    id                    := id
    sourcePort            := sourcePort
    expiryMsg             := msg.toMsg beyond }

def nowAfter : Op → UInt32
  | .tickHandlerCallback _ => t.now + 1
  | _                      => t.now

-- The timers whose messages an operation sends.
def expired : Op → List Running
  | .tickHandlerCallback true => t.running.filter (Running.Expired (t.now + 1) ·)
  | _                         => []

-- The timers that an operation frees although they have not expired.
def cancelled : Op → List Running
  | .actionTimerStop req => (t.running.find? (Running.Requested req ·)).toList
  | .freeAllTimers       => t.running
  | _                    => []

def runningAfter : Op → List Running
  | .allocTimer period port id msg beyond =>
    if t.running.length < maxNumTimers then
      (t.newTimer period port id msg beyond).insert t.running
    else
      t.running
  | .actionTimerStop req         => t.running.eraseP (Running.Requested req ·)
  | .tickHandlerCallback trylock =>
    if trylock then t.running.filter (¬Running.Expired (t.now + 1) ·) else t.running
  | .freeAllTimers               => []

def record (op : Op) : Record where
  op    := op
  now   := t.nowAfter op
  sent  := (t.expired op).map Running.sent
  freed := (t.expired op ++ t.cancelled op).map Running.serial

end Timetable

variable {t : Timetable} {op : Op} {r : Running} {rs : List Running}

-- In an ordered list, everything behind an element without a property is without the property.
theorem forall_mem_dropWhile {α : Type*} {r : α → α → Prop} {c : α → Bool} {l : List α}
    (h : l.Pairwise r) (hc : ∀ a b, r a b → c a = false → c b = false) :
    ∀ a ∈ l.dropWhile c, c a = false := by
  induction h
  case nil => simp
  case cons b l hb _ hi =>
    cases hcb : c b
    case true  => simpa [hcb] using hi
    case false =>
      simp only [List.dropWhile_cons, hcb, Bool.false_eq_true, ↓reduceIte, List.mem_cons]
      rintro a (rfl | ha)
      case inl => exact hcb
      case inr => exact hc b a (hb a ha) hcb

theorem Running.Sooner.later_of_later {r' r'' : Running} (h : Running.Sooner r' r'')
    (hl : r'.Later r) : r''.Later r := by
  rcases h with h | ⟨h, _⟩
  case inl => exact UInt32.lt_trans hl h
  case inr => exact lt_of_lt_of_eq hl h

theorem Running.Sooner.not_later {r' r'' : Running} (h : Running.Sooner r' r'') :
    ¬r'.Later r'' := by
  rcases h with h | ⟨h, _⟩
  case inl => exact (UInt32.lt_asymm h ·)
  case inr => exact fun hl => UInt32.lt_irrefl _ (lt_of_lt_of_eq hl h)

theorem Running.insert_perm : (r.insert rs).Perm (r :: rs) := by
  rw [insert]
  refine List.perm_middle.trans ?_
  rw [List.takeWhile_append_dropWhile]

-- A timer that was started last is put where it belongs.
theorem Running.insert_sorted (h : rs.Pairwise Sooner) (hr : ∀ r' ∈ rs, r'.serial < r.serial) :
    (r.insert rs).Pairwise Sooner := by
  have hs := h
  rw [← List.takeWhile_append_dropWhile (p := (¬Later · r)) (l := rs)] at hs
  have ⟨hu, hv, huv⟩ := List.pairwise_append.mp hs
  have hur : ∀ r' ∈ rs.takeWhile (¬Later · r), Sooner r' r := by
    intro r' hr'
    have hl : ¬Later r' r := by simpa using List.mem_takeWhile_imp hr'
    rcases UInt32.lt_or_eq_of_le (UInt32.not_lt.mp hl) with hlt | heq
    case inl => exact .inl hlt
    case inr => exact .inr ⟨heq, hr r' (List.takeWhile_subset _ hr')⟩
  have hrv : ∀ r' ∈ rs.dropWhile (¬Later · r), Sooner r r' := by
    have hd := forall_mem_dropWhile (c := (¬Later · r)) h fun a b hab ha => by
      simp only [decide_not, Bool.not_eq_eq_eq_not, Bool.not_false, decide_eq_true_eq] at ha ⊢
      exact hab.later_of_later ha
    intro r' hr'
    have hl : Later r' r := by simpa using hd r' hr'
    exact .inl hl
  refine List.pairwise_append.mpr ⟨hu, List.pairwise_cons.mpr ⟨hrv, hv⟩, ?_⟩
  rintro a ha b (_ | ⟨_, hb⟩)
  case head => exact hur a ha
  case tail => exact huv a ha b hb

namespace Timetable

theorem runningAfter_sorted : (t.runningAfter op).Pairwise Running.Sooner := by
  cases op <;> simp only [runningAfter]
  case allocTimer =>
    split
    case isTrue  => exact Running.insert_sorted t.sorted t.started
    case isFalse => exact t.sorted
  case actionTimerStop => exact t.sorted.sublist List.eraseP_sublist
  case tickHandlerCallback =>
    split
    case isTrue  => exact t.sorted.filter _
    case isFalse => exact t.sorted
  case freeAllTimers => exact .nil

-- A timer that is running behind an operation was running before it, or the operation started it.
theorem mem_runningAfter (h : r ∈ t.runningAfter op) :
    r ∈ t.running ∨ ∃ period port id msg beyond, op = .allocTimer period port id msg beyond ∧
      t.running.length < maxNumTimers ∧ r = t.newTimer period port id msg beyond := by
  cases op <;> simp only [runningAfter] at h
  case allocTimer =>
    split at h
    case isTrue hl =>
      rcases List.mem_cons.mp (Running.insert_perm.mem_iff.mp h) with hr | hr
      case inl => exact .inr ⟨_, _, _, _, _, rfl, hl, hr⟩
      case inr => exact .inl hr
    case isFalse => exact .inl h
  case actionTimerStop => exact .inl (List.mem_of_mem_eraseP h)
  case tickHandlerCallback =>
    split at h
    case isTrue  => exact .inl (List.mem_of_mem_filter h)
    case isFalse => exact .inl h
  case freeAllTimers => cases h

def step (t : Timetable) (op : Op) : Timetable where
  now     := t.nowAfter op
  running := t.runningAfter op
  history := t.history ++ [t.record op]
  sorted  := runningAfter_sorted
  started := by
    intro r hr
    rw [List.length_append, List.length_singleton]
    rcases mem_runningAfter hr with hr | ⟨_, _, _, _, _, _, _, rfl⟩
    case inl => exact Nat.lt_succ_of_lt (t.started r hr)
    case inr => exact Nat.lt_succ_self _

-- The timetable of a server that has just been started.
def start : Timetable where
  now     := 0
  running := []
  history := []
  sorted  := .nil
  started := by simp

end Timetable

end RoboOne.Timer
