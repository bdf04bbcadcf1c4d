import Mathlib.Data.List.Basic
import Mathlib.Data.List.GetD

namespace Crc

variable {w : Nat}

-- A shift register, whose taps are `poly`, takes a bit.
def step (poly r : BitVec w) (b : Bool) : BitVec w :=
  r >>> 1 ^^^ if r.getLsbD 0 ^^ b then poly else 0

def feed (poly r : BitVec w) (bs : List Bool) : BitVec w :=
  bs.foldl (step poly) r

-- The bits that differ, or that are to be changed.
def differences (as bs : List Bool) : List Bool :=
  List.zipWith xor as bs

variable {poly r s d : BitVec w} {as bs e : List Bool} {a b : Bool} {n i : Nat}

@[simp]
theorem feed_nil : feed poly r [] = r :=
  rfl

@[simp]
theorem feed_cons : feed poly r (b :: bs) = feed poly (step poly r b) bs :=
  rfl

theorem feed_append : feed poly r (as ++ bs) = feed poly (feed poly r as) bs :=
  List.foldl_append

theorem getLsbD_step : (step poly r b).getLsbD i =
    (r.getLsbD (i + 1) ^^ (r.getLsbD 0 ^^ b) && poly.getLsbD i) := by
  rw [step, BitVec.getLsbD_xor, BitVec.getLsbD_ushiftRight, Nat.add_comm 1]
  cases r.getLsbD 0 ^^ b <;> simp

theorem step_xor : step poly (r ^^^ s) (a ^^ b) = step poly r a ^^^ step poly s b := by
  refine BitVec.eq_of_getLsbD_eq fun i _ => ?_
  simp only [BitVec.getLsbD_xor, getLsbD_step]
  cases r.getLsbD (i + 1) <;> cases s.getLsbD (i + 1) <;> cases r.getLsbD 0 <;>
    cases s.getLsbD 0 <;> cases a <;> cases b <;> cases poly.getLsbD i <;> rfl

-- What is made of the differences is the difference of what is made.
theorem feed_xor (h : as.length = bs.length) :
    feed poly (r ^^^ s) (differences as bs) = feed poly r as ^^^ feed poly s bs := by
  induction as generalizing bs r s
  case nil =>
    obtain rfl := List.length_eq_zero_iff.mp h.symm
    rfl
  case cons a as hi =>
    have ⟨b, bs', hcons⟩ := List.exists_cons_of_length_eq_add_one h.symm
    subst hcons
    rw [feed_cons, feed_cons, ← hi (Nat.succ.inj h), ← step_xor]
    rfl

-- As many bits as there are places in the register are known from it.
theorem feed_eq_zero_iff (hp : poly.getLsbD (w - 1) = true) (h : bs.length ≤ w) :
    feed poly r bs = 0 ↔ ∀ i, r.getLsbD i = bs.getD i false := by
  induction bs generalizing r
  case nil =>
    constructor
    case mp  => rintro rfl i; simp
    case mpr => exact fun hr => BitVec.eq_of_getLsbD_eq fun i _ => by simpa using hr i
  case cons b bs hi =>
    rw [List.length_cons] at h
    have hlast : bs.getD (w - 1) false = false := List.getD_eq_default _ _ (by omega)
    rw [feed_cons, hi (by omega)]
    simp only [getLsbD_step]
    constructor
    case mp =>
      intro hr
      have hmsb := hr (w - 1)
      rw [hlast, hp, BitVec.getLsbD_of_ge r _ (by omega)] at hmsb
      have hb : r.getLsbD 0 = b := by simpa using hmsb
      rintro (_ | i)
      case zero => simpa using hb
      case succ => simpa [hb] using hr i
    case mpr =>
      intro hr i
      have hb : r.getLsbD 0 = b := by simpa using hr 0
      have hi : r.getLsbD (i + 1) = bs.getD i false := by simpa using hr (i + 1)
      rw [hb, hi]
      simp

@[simp]
theorem feed_zero : feed poly 0 (List.replicate n false) = 0 := by
  induction n
  case zero      => rfl
  case succ n hi =>
    have hstep : step poly 0 false = 0 := by simp [step]
    rw [List.replicate_succ, feed_cons, hstep, hi]

theorem eq_zero_of_feed_replicate (hp : poly.getLsbD (w - 1) = true)
    (h : feed poly r (List.replicate n false) = 0) : r = 0 := by
  have hw : 1 ≤ w := Nat.one_le_iff_ne_zero.mpr fun hw => by
    rw [BitVec.getLsbD_of_ge poly _ (by omega)] at hp
    cases hp
  induction n generalizing r
  case zero      => exact h
  case succ n hi =>
    rw [List.replicate_succ, feed_cons] at h
    have hone : feed poly r [false] = 0 ↔ ∀ i, r.getLsbD i = [false].getD i false :=
      feed_eq_zero_iff hp hw
    have hbits := hone.mp (hi h)
    refine BitVec.eq_of_getLsbD_eq fun i _ => (hbits i).trans ?_
    cases i <;> simp

-- A register takes bits as it takes zeros if they are put into it before.
theorem feed_eq (hp : poly.getLsbD (w - 1) = true) (h : bs.length ≤ w)
    (hd : ∀ i, d.getLsbD i = bs.getD i false) :
    feed poly r bs = feed poly (r ^^^ d) (List.replicate bs.length false) := by
  have hself : differences bs bs = List.replicate bs.length false := by
    rw [differences, List.zipWith_self, List.map_congr_left fun b _ => Bool.xor_self b, List.map_const']
  rw [← hself, feed_xor rfl, (feed_eq_zero_iff hp h).mpr hd]
  simp

theorem feed_replicate_of_low (h : ∀ i < n, r.getLsbD i = false) :
    feed poly r (List.replicate n false) = r >>> n := by
  induction n generalizing r
  case zero      => simp
  case succ n hi =>
    have hstep : step poly r false = r >>> 1 := by simp [step, h 0 (by omega)]
    rw [List.replicate_succ, feed_cons, hstep, hi fun i hlt => ?_, ← BitVec.shiftRight_add, Nat.add_comm 1]
    rw [BitVec.getLsbD_ushiftRight]
    exact h _ (by omega)

-- Only the places that are shifted out go through the taps.
theorem feed_replicate {l : BitVec w} (hl : ∀ i, l.getLsbD i = (decide (i < n) && r.getLsbD i)) :
    feed poly r (List.replicate n false) = feed poly l (List.replicate n false) ^^^ r >>> n := by
  have hsplit : l ^^^ (r ^^^ l) = r := by
    rw [BitVec.xor_comm r, ← BitVec.xor_assoc, BitVec.xor_self, BitVec.zero_xor]
  have hzeros : differences (List.replicate n false) (List.replicate n false) =
      List.replicate n false := by
    rw [differences, List.zipWith_replicate']
    rfl
  have hlow : ∀ i < n, (r ^^^ l).getLsbD i = false := fun i hi => by simp [hl, hi]
  have hhigh : (r ^^^ l) >>> n = r >>> n := by
    refine BitVec.eq_of_getLsbD_eq fun i _ => ?_
    have hi : ¬n + i < n := by omega
    simp [BitVec.getLsbD_ushiftRight, hl, hi]
  rw [← hhigh, ← feed_replicate_of_low hlow, ← feed_xor rfl, hsplit, hzeros]

-- Errors that are no further apart than there are places in the register.
def Burst (w : Nat) (e : List Bool) : Prop :=
  ∃ pre burst post, e = List.replicate pre false ++ burst ++ List.replicate post false ∧
    burst.length ≤ w

theorem eq_false_of_burst (hp : poly.getLsbD (w - 1) = true) (h : Burst w e)
    (hz : feed poly 0 e = 0) : ∀ b ∈ e, b = false := by
  obtain ⟨pre, burst, post, rfl, hlen⟩ := h
  rw [feed_append, feed_append, feed_zero] at hz
  have hbits := (feed_eq_zero_iff hp hlen).mp <| eq_zero_of_feed_replicate hp hz
  intro b hb
  rcases List.mem_append.mp hb with hb | hb
  case inr => exact List.eq_of_mem_replicate hb
  case inl =>
    rcases List.mem_append.mp hb with hb | hb
    case inl => exact List.eq_of_mem_replicate hb
    case inr =>
      have ⟨i, hi, he⟩ := List.mem_iff_getElem.mp hb
      have hbit := hbits i
      rw [List.getD_eq_getElem _ _ hi, he] at hbit
      simpa using hbit.symm

-- Whether the number of the ones is odd.
def parity (bs : List Bool) : Bool :=
  bs.foldr xor false

def odd (f : Nat → Bool) : Nat → Bool
  | 0     => false
  | n + 1 => odd f n ^^ f n

section

variable {f g : Nat → Bool}

theorem odd_xor : odd (fun i => f i ^^ g i) n = (odd f n ^^ odd g n) := by
  induction n
  case zero      => rfl
  case succ n hi =>
    rw [odd, odd, odd, hi]
    cases odd f n <;> cases odd g n <;> cases f n <;> cases g n <;> rfl

theorem odd_and : odd (fun i => b && f i) n = (b && odd f n) := by
  induction n
  case zero      => cases b <;> rfl
  case succ n hi =>
    rw [odd, odd, hi]
    cases b <;> rfl

theorem odd_succ : odd f (n + 1) = (f 0 ^^ odd (fun i => f (i + 1)) n) := by
  induction n
  case zero      => simp [odd]
  case succ n hi => rw [odd, hi, odd, Bool.xor_assoc]

end

-- The taps are odd, so the register keeps count of the ones.
theorem odd_step (hp : odd poly.getLsbD w = true) :
    odd (step poly r b).getLsbD w = (odd r.getLsbD w ^^ b) := by
  have hshift : (r.getLsbD 0 ^^ odd (fun i => r.getLsbD (i + 1)) w) = odd r.getLsbD w := by
    rw [← odd_succ, odd, BitVec.getLsbD_of_ge r w (Nat.le_refl w), Bool.xor_false]
  have hbits : (step poly r b).getLsbD = fun i =>
      r.getLsbD (i + 1) ^^ (r.getLsbD 0 ^^ b) && poly.getLsbD i := funext fun _ => getLsbD_step
  rw [hbits, odd_xor, odd_and, hp, ← hshift]
  cases odd (fun i => r.getLsbD (i + 1)) w <;> cases r.getLsbD 0 <;> cases b <;> rfl

theorem odd_feed (hp : odd poly.getLsbD w = true) :
    odd (feed poly r bs).getLsbD w = (odd r.getLsbD w ^^ parity bs) := by
  induction bs generalizing r
  case nil          => simp [parity]
  case cons b bs hi => rw [feed_cons, hi, odd_step hp, parity, parity, List.foldr_cons, Bool.xor_assoc]

theorem odd_zero : odd (0 : BitVec w).getLsbD n = false := by
  induction n
  case zero      => rfl
  case succ n hi => rw [odd, hi]; simp

-- The errors that a register of so many places shows: bursts, and all odd numbers of errors.
def Detectable (w : Nat) (e : List Bool) : Prop :=
  Burst w e ∧ true ∈ e ∨ parity e = true

theorem feed_ne_zero_of_detectable (hp : poly.getLsbD (w - 1) = true)
    (ho : odd poly.getLsbD w = true) (h : Detectable w e) : feed poly 0 e ≠ 0 := by
  intro hz
  rcases h with ⟨hb, he⟩ | he
  case inl => exact absurd (eq_false_of_burst hp hb hz true he) (by decide)
  case inr =>
    have hodd : odd (feed poly 0 e).getLsbD w = (odd (0 : BitVec w).getLsbD w ^^ parity e) :=
      odd_feed ho
    rw [hz, odd_zero, he] at hodd
    cases hodd

-- What passes a check does not pass it with such errors.
theorem feed_differences_ne (hp : poly.getLsbD (w - 1) = true) (ho : odd poly.getLsbD w = true)
    (hl : bs.length = e.length) (h : Detectable w e) :
    feed poly r (differences bs e) ≠ feed poly r bs := by
  intro hz
  have hxor : feed poly (r ^^^ 0) (differences bs e) = feed poly r bs ^^^ feed poly 0 e :=
    feed_xor hl
  have hzero : r ^^^ 0 = r := BitVec.xor_zero
  rw [hzero, hz] at hxor
  refine feed_ne_zero_of_detectable hp ho h ?_
  have hcancel := congrArg (feed poly r bs ^^^ ·) hxor
  simpa [← BitVec.xor_assoc] using hcancel.symm

end Crc
