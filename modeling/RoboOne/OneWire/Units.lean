import Mathlib.Data.Rat.Floor
import Mathlib.Tactic.Linarith
import Mathlib.Tactic.NormNum
import Mathlib.Tactic.Positivity
import Mathlib.Tactic.Ring

namespace RoboOne.OneWire

def temperatureUnit : ℚ := 3125 / 100000

def rsens : ℚ := 5 / 100

-- From the DS2438 data sheet remaining capacity (in mA hours) = ICA / (2048 * RSENS)
def icaToMahours (x : ℚ) : ℚ :=
  x * 1000 / (2048 * rsens)

def mahoursToIca (x : ℚ) : ℚ :=
  2048 * rsens * x / 1000

-- The units for the accumulated registers are 15.625 mV hours as opposed to 0.488s mV hours, so 32 times
-- bigger
def xcaToMahours (x : ℚ) : ℚ :=
  x * 1000 * 32 / (2048 * rsens)

def mahoursToXca (x : ℚ) : ℚ :=
  2048 * rsens * x / (1000 * 32)

-- From the DS2438 data sheet I (in Amps) = Current Register / (4096 * RSENS)
def currentToMa (x : ℚ) : ℚ :=
  x * 1000 / (4096 * rsens)

-- A conversion to an integer drops the fraction.
def truncate (q : ℚ) : Int :=
  q.num.tdiv q.den

-- With a result that fits into the register's size, which is not checked.
def currentOf (current : Int16) : Int16 :=
  .ofInt <| truncate <| currentToMa current.toInt

theorem truncate_of_nonneg {q : ℚ} (h : 0 ≤ q) : truncate q = ⌊q⌋ := by
  rw [truncate, Int.tdiv_eq_ediv_of_nonneg <| Rat.num_nonneg.mpr h]
  exact (Rat.floor_def q).symm

theorem truncate_natCast_div {a b : Nat} : truncate ((a : ℚ) / b) = (a / b : Nat) := by
  rw [truncate_of_nonneg (by positivity), Rat.floor_natCast_div_natCast, Int.natCast_div]

end RoboOne.OneWire
