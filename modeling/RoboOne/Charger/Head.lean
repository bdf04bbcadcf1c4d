import Mathlib.Tactic.Ring
import RoboOne.Library.Trace
import RoboOne.Charger.Main

namespace RoboOne.Charger

open Interaction

-- CLR for anti-clockwise SET for clockwise
inductive Direction
  | clockwise
  | antiClockwise
deriving DecidableEq

-- The motor of the charging head, with the direction in which each pulse so far has turned it. The
-- direction is not known before it is set.
structure Motor where
  direction : Option Direction
  pulses    : List (Option Direction)

namespace Motor

def step (m : Motor) (x : (c : MainCall) × c.Answer) : Motor :=
  match x.1 with
  | .gpioSet .motorDirection => { m with direction := some .clockwise }
  | .gpioClr .motorDirection => { m with direction := some .antiClockwise }
  | .gpioSet .motorMicroStep => { m with pulses := m.pulses ++ [m.direction] }
  | _                        => m

def run (m : Motor) (h : MainHistory) : Motor :=
  h.foldl step m

end Motor

-- The pulses since the start.
def pulses (h : MainHistory) : List (Option Direction) :=
  (Motor.run ⟨none, []⟩ h).pulses

-- What came of the attempts to read the pins.
def readings (h : MainHistory) : List (Option UInt8) :=
  h.filterMap fun
    | ⟨.readPIOLogicStateDS2408, reading⟩ => some reading
    | _                                   => none

-- The other one of the two does not see the light.
def isClockwise (pinsState : UInt8) : Prop :=
  isDetected owPinIrDetectEast pinsState ∧ ¬isDetected owPinIrDetectWest pinsState

def isAntiClockwise (pinsState : UInt8) : Prop :=
  isDetected owPinIrDetectWest pinsState ∧ ¬isDetected owPinIrDetectEast pinsState

-- The light comes from the north, and from the other two sides alike.
def isAligned (pinsState : UInt8) : Prop :=
  isDetected owPinIrDetectNorth pinsState ∧
    (isDetected owPinIrDetectWest pinsState ↔ isDetected owPinIrDetectEast pinsState)

instance : DecidablePred isClockwise :=
  fun _ => inferInstanceAs (Decidable (_ ∧ _))

instance : DecidablePred isAntiClockwise :=
  fun _ => inferInstanceAs (Decidable (_ ∧ _))

instance : DecidablePred isAligned :=
  fun _ => inferInstanceAs (Decidable (_ ∧ (_ ↔ _)))

-- The votes for a direction.
def votes (direction : UInt8 → Prop) [DecidablePred direction] (rs : List (Option UInt8)) : Nat :=
  rs.countP fun r => r.any (direction ·)

-- What is seen of a turn of the main loop: the directions of its pulses are those that the majority of
-- its readings is for, and there are none without a strict majority of good readings.
structure Turn (calls : MainHistory) (directions : List (Option Direction)) : Prop where
  pulses   : ∀ m : Motor, (m.run calls).pulses = m.pulses ++ directions
  count    : (readings calls).length = minReadings
  majority : ∀ d ∈ directions,
    d = some .clockwise ∧ votes isAntiClockwise (readings calls) < votes isClockwise (readings calls) ∨
    d = some .antiClockwise ∧
      votes isClockwise (readings calls) < votes isAntiClockwise (readings calls)
  failed   : none ∈ readings calls → directions = []
  aligned  : ∀ r, some r ∈ readings calls → isAligned r → directions = []
  tied     : votes isClockwise (readings calls) = votes isAntiClockwise (readings calls) →
    directions = []

-- The position to which some pulses have turned the head.
def position (directions : List (Option Direction)) : Int :=
  directions.count (some .clockwise) - directions.count (some .antiClockwise)

-- The head has not been turned to one of its limits.
def IsWithinLimits (angleMicrosteps : Int32) : Prop :=
  -limitAngleMicrosteps < angleMicrosteps ∧ angleMicrosteps < limitAngleMicrosteps

variable {m : Motor} {a a' : Int32} {h h' calls : MainHistory} {v v' : Votes} {n : Nat}
  {rs : List (Option UInt8)} {d d' : List (Option Direction)}

@[simp]
theorem Motor.run_nil : m.run [] = m :=
  rfl

@[simp]
theorem Motor.run_cons {x} : m.run (x :: h) = (m.step x).run h :=
  rfl

@[simp]
theorem Motor.run_append : m.run (h ++ h') = (m.run h).run h' :=
  List.foldl_append

@[simp]
theorem readings_append : readings (h ++ h') = readings h ++ readings h' :=
  List.filterMap_append

@[simp]
theorem position_append : position (d ++ d') = position d + position d' := by
  simp only [position, List.count_append]
  omega

-- The calls neither turn the motor nor read the pins.
structure Quiet (calls : MainHistory) : Prop where
  motor    : ∀ m : Motor, m.run calls = m
  readings : readings calls = []

theorem Quiet.nil : Quiet [] where
  motor _  := rfl
  readings := rfl

theorem Quiet.append (hh : Quiet h) (hh' : Quiet h') : Quiet (h ++ h') where
  motor m  := by rw [Motor.run_append, hh.motor, hh'.motor]
  readings := by rw [readings_append, hh.readings, hh'.readings, List.append_nil]

-- A program that makes such calls only, and leaves the angle as it is.
def IsQuiet {α : Type} (p : MainProgram α) : Prop :=
  ∀ a, Traces a p fun calls _ a' => Quiet calls ∧ a' = a

namespace IsQuiet

variable {α β : Type} {p : MainProgram α} {q : α → MainProgram β}

theorem bind (hp : IsQuiet p) (hq : ∀ x, IsQuiet (q x)) : IsQuiet (p >>= q) := by
  intro a
  refine .bind <| (hp a).mono fun calls x _ ⟨hc, ha⟩ => ?_
  subst ha
  exact (hq x _).mono fun calls' _ _ ⟨hc', ha'⟩ => ⟨hc.append hc', ha'⟩

theorem readCurrentDS2438 : IsQuiet readCurrentDS2438 :=
  fun _ => .call fun _ => ⟨⟨fun _ => rfl, rfl⟩, rfl⟩

theorem printProgress {progress : Progress} : IsQuiet (printProgress progress) :=
  fun _ => .call fun _ => ⟨⟨fun _ => rfl, rfl⟩, rfl⟩

theorem keyAbort : IsQuiet keyAbort :=
  fun _ => .call fun _ => ⟨⟨fun _ => rfl, rfl⟩, rfl⟩

theorem displayMove : (moved : Option (Bool × Bool)) → IsQuiet (displayMove moved)
  | some (false, _) => .bind printProgress fun _ => printProgress
  | some (true, _)  => .bind printProgress fun _ => printProgress
  | none            => printProgress

theorem display {moved : Option (Bool × Bool)} {oneWireFailure : Bool} :
    IsQuiet (display moved oneWireFailure) :=
  .bind readCurrentDS2438 fun _ => .bind printProgress fun _ => .bind (displayMove _) fun _ =>
    .bind printProgress fun _ => printProgress

theorem shutDown : IsQuiet shutDown :=
  fun _ => .bind <| .call fun _ => .bind <| .call fun _ => .bind <| .call fun _ => .call fun _ =>
    ⟨⟨fun _ => rfl, rfl⟩, rfl⟩

end IsQuiet

theorem readingLoop_traces : Traces a (readingLoop n v) fun calls v' a' =>
    a' = a ∧ (∀ m : Motor, m.run calls = m) ∧ (readings calls).length = n ∧
      v' = (readings calls).foldl Votes.count v := by
  induction n generalizing v
  case zero => exact .pure ⟨rfl, fun _ => rfl, rfl, rfl⟩
  case succ n hi =>
    refine .bind <| .call fun reading => hi.mono fun calls v' a' ⟨ha, hm, hl, hv⟩ => ?_
    exact ⟨ha, hm, congrArg (· + 1) hl, hv⟩

section

variable {isNorth isEast isWest : Bool} {r : Option UInt8}

theorem add_clockwiseVote : (v.add isNorth isEast isWest).clockwiseVote =
    v.clockwiseVote + if isEast && !isWest then 1 else 0 := by
  cases isNorth <;> cases isEast <;> cases isWest <;> rfl

theorem add_antiClockwiseVote : (v.add isNorth isEast isWest).antiClockwiseVote =
    v.antiClockwiseVote + if isWest && !isEast then 1 else 0 := by
  cases isNorth <;> cases isEast <;> cases isWest <;> rfl

theorem add_moveVote : (v.add isNorth isEast isWest).moveVote =
    v.moveVote + if isNorth && isWest == isEast then 0 else 1 := by
  cases isNorth <;> cases isEast <;> cases isWest <;> rfl

theorem count_clockwiseVote : (v.count r).clockwiseVote =
    v.clockwiseVote + if r.any (isClockwise ·) then 1 else 0 := by
  cases r
  case none           => rfl
  case some pinsState =>
    rw [Votes.count, add_clockwiseVote]
    simp [isClockwise]

theorem count_antiClockwiseVote : (v.count r).antiClockwiseVote =
    v.antiClockwiseVote + if r.any (isAntiClockwise ·) then 1 else 0 := by
  cases r
  case none           => rfl
  case some pinsState =>
    rw [Votes.count, add_antiClockwiseVote]
    simp [isAntiClockwise]

theorem decide_isAligned {pinsState : UInt8} : decide (isAligned pinsState) =
    (isDetected owPinIrDetectNorth pinsState &&
      isDetected owPinIrDetectWest pinsState == isDetected owPinIrDetectEast pinsState) := by
  simp [isAligned, Bool.beq_eq_decide_eq]

theorem count_moveVote : (v.count r).moveVote =
    v.moveVote + if r.any (¬isAligned ·) then 1 else 0 := by
  cases r
  case none           => rfl
  case some pinsState =>
    rw [Votes.count, add_moveVote, ← decide_isAligned]
    simp

end

-- What one reading adds to a vote, some readings add up.
theorem foldl_count {f : Votes → Nat} {p : Option UInt8 → Bool}
    (hf : ∀ v r, f (v.count r) = f v + if p r then 1 else 0) :
    f (rs.foldl Votes.count v) = f v + rs.countP p := by
  induction rs generalizing v
  case nil => rfl
  case cons r rs hi =>
    rw [List.foldl_cons, hi, hf, List.countP_cons]
    omega

theorem foldl_clockwiseVote :
    (rs.foldl Votes.count .start).clockwiseVote = votes isClockwise rs :=
  (foldl_count (f := Votes.clockwiseVote) fun _ _ => count_clockwiseVote).trans (Nat.zero_add _)

theorem foldl_antiClockwiseVote :
    (rs.foldl Votes.count .start).antiClockwiseVote = votes isAntiClockwise rs :=
  (foldl_count (f := Votes.antiClockwiseVote) fun _ _ => count_antiClockwiseVote).trans
    (Nat.zero_add _)

-- Only good readings that are not aligned let all of them vote for a move.
theorem moveVote_eq_length_iff : (rs.foldl Votes.count .start).moveVote = rs.length ↔
    none ∉ rs ∧ ∀ r, some r ∈ rs → ¬isAligned r := by
  rw [foldl_count (f := Votes.moveVote) fun _ _ => count_moveVote]
  change 0 + _ = _ ↔ _
  rw [Nat.zero_add, List.countP_eq_length]
  constructor
  case mp =>
    intro h
    refine ⟨fun hn => by simpa using h none hn, fun r hr => by simpa using h (some r) hr⟩
  case mpr =>
    rintro ⟨hn, hr⟩ (_ | r) hm
    case none => exact absurd hm hn
    case some => simpa using hr r hm

theorem isWithinLimits_iff : IsWithinLimits a ↔ -400 < a.toInt ∧ a.toInt < 400 := by
  rw [IsWithinLimits, Int32.lt_iff_toInt_lt, Int32.lt_iff_toInt_lt]
  exact Iff.rfl

-- One microstep further, the counter does not overflow.
theorem IsWithinLimits.toInt_add {c : Int32} (ha : IsWithinLimits a) (hc : c = 1 ∨ c = -1) :
    (a + c).toInt = a.toInt + c.toInt := by
  have ⟨hge, hlt⟩ := isWithinLimits_iff.mp ha
  have hone : (1 : Int32).toInt = 1 := rfl
  have hminus : (-1 : Int32).toInt = -1 := rfl
  rw [Int32.toInt_add]
  rcases hc with rfl | rfl
  case inl => exact Int.bmod_eq_of_le (by omega) (by omega)
  case inr => exact Int.bmod_eq_of_le (by omega) (by omega)

-- The pulses of a move all go in one direction, and the counter goes with them.
theorem moveLoop_traces {c : Int32} {hitBuffers : Bool} (ha : IsWithinLimits a)
    (hc : c = 1 ∨ c = -1) : Traces a (moveLoop c n hitBuffers) fun calls _ a' =>
      IsWithinLimits a' ∧ readings calls = [] ∧ ∃ k : Nat, a'.toInt = a.toInt + k * c.toInt ∧
        ∀ m : Motor, m.run calls = { m with pulses := m.pulses ++ List.replicate k m.direction } := by
  induction n generalizing a hitBuffers
  case zero => exact .pure ⟨ha, rfl, 0, by simp, fun m => by simp⟩
  case succ n hi =>
    refine .bind <| .load <| .ite (fun hl => ?_) fun _ => hi ha
    have hangle := ha.toInt_add hc
    refine .bind <| .call fun _ => .bind <| .call fun _ => .bind <| .call fun _ =>
      .bind <| .call fun _ => .bind <| .store <| (hi ⟨hl.right, hl.left⟩).mono ?_
    intro calls _ a' ⟨ha', hr, k, hk, hm⟩
    refine ⟨ha', hr, k + 1, ?_, fun m => ?_⟩
    case refine_1 =>
      rw [hk, hangle]
      push_cast
      ring
    case refine_2 =>
      change Motor.run { m with pulses := m.pulses ++ [m.direction] } calls = _
      rw [hm, List.replicate_succ, List.append_assoc, List.singleton_append]

-- What is seen of a move, after some votes.
structure Moves (v : Votes) (a a' : Int32) (calls : MainHistory) (d : List (Option Direction)) :
    Prop where
  limits   : IsWithinLimits a'
  angle    : a'.toInt = a.toInt + position d
  readings : readings calls = []
  pulses   : ∀ m : Motor, (m.run calls).pulses = m.pulses ++ d
  decisive : d ≠ [] → v.moveVote = minReadings
  majority : ∀ x ∈ d, x = some .clockwise ∧ v.antiClockwiseVote < v.clockwiseVote ∨
    x = some .antiClockwise ∧ v.clockwiseVote < v.antiClockwiseVote

theorem position_replicate_clockwise {k : Nat} :
    position (List.replicate k (some .clockwise)) = k := by
  simp [position, List.count_replicate]

theorem position_replicate_antiClockwise {k : Nat} :
    position (List.replicate k (some .antiClockwise)) = -k := by
  simp [position, List.count_replicate]

-- The direction is set first, and all pulses of the loop behind it go there.
theorem Moves.of_loop {x : Direction} {c : Int32} {y : (c : MainCall) × c.Answer} {k : Nat}
    (hy : ∀ m : Motor, m.step y = { m with direction := some x }) (hry : Charger.readings [y] = [])
    (ha : IsWithinLimits a') (hr : Charger.readings calls = [])
    (hk : a'.toInt = a.toInt + k * c.toInt)
    (hm : ∀ m : Motor, m.run calls = { m with pulses := m.pulses ++ List.replicate k m.direction })
    (hx : position (List.replicate k (some x)) = k * c.toInt) (hd : v.moveVote = minReadings)
    (hv : some x = some .clockwise ∧ v.antiClockwiseVote < v.clockwiseVote ∨
      some x = some .antiClockwise ∧ v.clockwiseVote < v.antiClockwiseVote) :
    Moves v a a' ([y] ++ (calls ++ [])) (List.replicate k (some x)) := by
  rw [List.append_nil]
  constructor
  case limits   => exact ha
  case angle    => rw [hx, hk]
  case readings => rw [readings_append, hry, hr, List.append_nil]
  case pulses   =>
    intro m
    rw [Motor.run_append, Motor.run_cons, Motor.run_nil, hy, hm]
  case decisive => exact fun _ => hd
  case majority => exact fun _ hm => List.eq_of_mem_replicate hm ▸ hv

theorem move_traces (ha : IsWithinLimits a) :
    Traces a (move v) fun calls _ a' => ∃ d, Moves v a a' calls d := by
  refine .ite (fun hv => .ite (fun hc => ?_) fun hc => ?_) fun _ => ?_
  case refine_1 =>
    refine .bind <| .call fun _ => .bind <| (moveLoop_traces ha (.inl rfl)).mono ?_
    intro calls _ a' ⟨ha', hr, k, hk, hm⟩
    have hx : position (List.replicate k (some .clockwise)) = k * (1 : Int32).toInt := by
      rw [position_replicate_clockwise]
      exact (Int.mul_one _).symm
    exact .pure ⟨_, .of_loop (fun _ => rfl) rfl ha' hr hk hm hx hv.left (.inl ⟨rfl, hc⟩)⟩
  case refine_2 =>
    refine .bind <| .call fun _ => .bind <| (moveLoop_traces ha (.inr rfl)).mono ?_
    intro calls _ a' ⟨ha', hr, k, hk, hm⟩
    have hx : position (List.replicate k (some .antiClockwise)) = k * (-1 : Int32).toInt := by
      rw [position_replicate_antiClockwise]
      exact (Int.mul_neg_one _).symm
    have hlt : v.clockwiseVote < v.antiClockwiseVote :=
      Nat.lt_of_le_of_ne (Nat.le_of_not_lt hc) hv.right
    exact .pure ⟨_, .of_loop (fun _ => rfl) rfl ha' hr hk hm hx hv.left (.inr ⟨rfl, hlt⟩)⟩
  case refine_3 =>
    exact .pure ⟨[], ha, (Int.add_zero _).symm, rfl, fun _ => (List.append_nil _).symm,
      (absurd rfl ·), nofun⟩

-- What is seen of the whole turn: the readings come first, and the display comes last.
theorem turn_of_moves {quiet : MainHistory} (h : Moves (rs.foldl Votes.count .start) a a' calls d)
    (hl : rs.length = minReadings) (hm : ∀ m : Motor, m.run h' = m) (hr : readings h' = rs)
    (hq : Quiet quiet) : Turn (h' ++ (calls ++ quiet)) d := by
  have hreadings : readings (h' ++ (calls ++ quiet)) = rs := by
    rw [readings_append, readings_append, hr, h.readings, hq.readings, List.append_nil,
      List.append_nil]
  have hgood (hd : d ≠ []) : none ∉ rs ∧ ∀ r, some r ∈ rs → ¬isAligned r :=
    moveVote_eq_length_iff.mp <| (h.decisive hd).trans hl.symm
  have hmajority := h.majority
  rw [foldl_clockwiseVote, foldl_antiClockwiseVote] at hmajority
  constructor
  case pulses =>
    intro m
    rw [Motor.run_append, hm, Motor.run_append, hq.motor, h.pulses]
  case count    => rwa [hreadings]
  case majority => rwa [hreadings]
  case failed =>
    rw [hreadings]
    exact fun hn => by_contra fun hd => (hgood hd).left hn
  case aligned =>
    rw [hreadings]
    exact fun r hr ha => by_contra fun hd => (hgood hd).right r hr ha
  case tied =>
    rw [hreadings]
    intro ht
    refine List.eq_nil_iff_forall_not_mem.mpr fun x hx => ?_
    rcases hmajority x hx with ⟨_, hlt⟩ | ⟨_, hlt⟩
    case inl => exact Nat.lt_irrefl _ (ht ▸ hlt)
    case inr => exact Nat.lt_irrefl _ (ht ▸ hlt)

theorem turn_traces (ha : IsWithinLimits a) : Traces a turn fun calls _ a' =>
    IsWithinLimits a' ∧ ∃ d, Turn calls d ∧ a'.toInt = a.toInt + position d := by
  refine .bind <| readingLoop_traces.mono fun h' v _ ⟨ha', hm, hl, hv⟩ => ?_
  subst ha'
  subst hv
  refine .bind <| (move_traces ha).mono fun calls moved a' ⟨d, hd⟩ => ?_
  refine (IsQuiet.bind .display (fun _ => .keyAbort) a').mono fun quiet _ _ ⟨hq, ha'⟩ => ?_
  subst ha'
  exact ⟨hd.limits, d, turn_of_moves hd hl hm rfl hq, hd.angle⟩

-- The turns of the main loop, and what comes behind them.
structure Turns (a a' : Int32) (turns : List (MainHistory × List (Option Direction)))
    (rest : MainHistory) : Prop where
  limits : IsWithinLimits a'
  angle  : a'.toInt = a.toInt + position (turns.flatMap Prod.snd)
  turns  : ∀ t ∈ turns, Turn t.1 t.2
  rest   : Quiet rest

theorem Turns.pulses {turns : List (MainHistory × List (Option Direction))} {rest : MainHistory}
    (ht : Turns a a' turns rest) :
    (m.run (turns.flatMap Prod.fst ++ rest)).pulses = m.pulses ++ turns.flatMap Prod.snd := by
  have hturns := ht.turns
  rw [Motor.run_append, ht.rest.motor]
  clear ht
  induction turns generalizing m
  case nil => exact (List.append_nil _).symm
  case cons t turns hi =>
    have ⟨ht, hturns⟩ := List.forall_mem_cons.mp hturns
    rw [List.flatMap_cons, List.flatMap_cons, Motor.run_append, hi hturns, ht.pulses,
      List.append_assoc]

theorem mainLoop_traces (ha : IsWithinLimits a) : Traces a (mainLoop n) fun calls ended a' =>
    ∃ turns rest, calls = turns.flatMap Prod.fst ++ rest ∧ (ended = false → turns.length = n) ∧
      Turns a a' turns rest := by
  induction n generalizing a
  case zero => exact .pure ⟨[], [], rfl, fun _ => rfl, ha, (Int.add_zero _).symm, nofun, .nil⟩
  case succ n hi =>
    refine .bind <| (turn_traces ha).mono fun calls abort a₁ ⟨ha₁, d, hd, hangle⟩ => ?_
    refine .ite (fun _ => ?_) fun _ => (hi ha₁).mono ?_
    case refine_1 =>
      refine .bind <| (IsQuiet.shutDown a₁).mono fun rest _ _ ⟨hq, he⟩ => ?_
      subst he
      exact .pure ⟨[(calls, d)], rest, by simp, nofun, ha₁, by simpa using hangle,
        by simpa using hd, hq⟩
    case refine_2 =>
      intro calls' ended a' ⟨turns, rest, hc, hl, ht⟩
      refine ⟨(calls, d) :: turns, rest, by simp [hc], fun he => by simp [hl he], ht.limits, ?_, ?_,
        ht.rest⟩
      case refine_1 =>
        rw [ht.angle, hangle, List.flatMap_cons, position_append, Int.add_assoc]
      case refine_2 => exact List.forall_mem_cons.mpr ⟨hd, ht.turns⟩

-- After any number of turns, whatever is read, the counter is the position of the head, which is off
-- both limits.
theorem head_position (env : Environment MainCall.Answer) (h : MainHistory) (n : Nat) :
    ∃ ended angleMicrosteps, ∃ (turns : List MainHistory) (rest : MainHistory),
      mainLoop n env ⟨0, h⟩ = some (ended, ⟨angleMicrosteps, h ++ (turns.flatten ++ rest)⟩) ∧
      (ended = false → turns.length = n) ∧ Quiet rest ∧ IsWithinLimits angleMicrosteps ∧
      angleMicrosteps.toInt = position (pulses (turns.flatten ++ rest)) ∧
      ∀ t ∈ turns, ∃ d, Turn t d := by
  have hzero : IsWithinLimits 0 := ⟨by decide, by decide⟩
  have ⟨_, ended, a', hr, _, turns, rest, hc, hl, ht⟩ := mainLoop_traces (n := n) hzero env h
  subst hc
  refine ⟨ended, a', turns.map Prod.fst, rest, hr, fun he => ?_, ht.rest, ht.limits, ?_, ?_⟩
  case refine_1 => rw [List.length_map, hl he]
  case refine_2 =>
    rw [← List.flatMap_def, pulses, ht.pulses, ht.angle]
    exact Int.zero_add _
  case refine_3 => exact List.forall_mem_map.mpr fun t hm => ⟨t.2, ht.turns t hm⟩

-- Only the receiver in the east sees the light.
def lightFromEast : Environment MainCall.Answer
  | _, .readPIOLogicStateDS2408 => some 0x0D
  | _, .readCurrentDS2438       => none
  | _, .gpioSet _               => ()
  | _, .gpioClr _               => ()
  | _, .usleep _                => ()
  | _, .printProgress _         => ()
  | _, .keyAbort                => false
  | _, .closeIo                 => ()

example : (turn lightFromEast ⟨0, []⟩).map (fun r => (r.2.memory, pulses r.2.history)) =
    some (13, List.replicate 13 (some .clockwise)) := by
  decide +kernel

end RoboOne.Charger
