import RoboOne.OneWire.Units
import RoboOne.OneWire.Voltage

namespace RoboOne.OneWire

open Interaction

-- The two bytes are put together, and shifted, as an `int`.
def temperatureOf (buffer : Page) : ℚ :=
  (((buffer (ds2438TemperatureRegOffset + 1)).toNat <<< 8 |||
    (buffer ds2438TemperatureRegOffset).toNat) >>> 3 : Nat) * temperatureUnit

-- Read the page until the busy flag is reset. The loop is not entered without a guard counter.
def readMeasured : Nat → Ds2438Program (Option Page × Nat)
  | 0                => return (none, 0)
  | guardCounter + 1 => do
    match ← readNVPageDS2438 ds2438ConfigPage with
    | none        => return (none, guardCounter)
    | some buffer =>
      if buffer ds2438ConfigRegOffset &&& ds2438TbIsBusy ≠ 0 ∧ guardCounter > 0 then
        readMeasured guardCounter
      else
        return (some buffer, guardCounter)

-- The success, and what is put at `pTemperature`, which is not `PNULL`. The first loop waits for the end
-- of the measurement even if the command for it has failed.
def readTemperatureDS2438 : Ds2438Program (Bool × Option ℚ) := do
  if ← owAccess then
    let success ← owWriteByte ds2438CommandReadTemperature
    let guardCounter₁ ← awaitReading guardCounter
    if success && guardCounter₁ ≠ 0 then
      match ← readMeasured guardCounter with
      | (none, _)                  => return (false, none)
      | (some buffer, guardCounter) =>
        if guardCounter ≠ 0 then
          return (true, some (temperatureOf buffer))
        else
          return (false, none)
    else
      return (false, none)
  else
    return (false, none)

-- The temperature that the register stands for.
def celsius (page : Page) : ℚ :=
  ((page.uint16 ds2438TemperatureRegOffset).toInt16.toInt >>> (3 : ℕ) : Int) / 32

-- The page is taken as the answer.
structure Measured (h : Ds2438History) (page : Page) : Prop where
  decoded : decoded h = some page
  idle    : page ds2438ConfigRegOffset &&& ds2438TbIsBusy = 0
  guard   : (reads h).length < guardCounter

structure TemperatureDecoded (h : Ds2438History) (temperature : Option ℚ) (page : Page) : Prop where
  decoded     : OneWire.decoded h = some page
  idle        : page ds2438ConfigRegOffset &&& ds2438TbIsBusy = 0
  temperature : temperature = some (celsius page)

def NotBelowZero (page : Page) : Prop :=
  page (ds2438TemperatureRegOffset + 1) < 0x80

variable {g : Nat} {m : Unit} {page : Page} {calls calls' : Ds2438History}

theorem toInt_toInt16 {x : UInt16} :
    x.toInt16.toInt = if x.toNat < 2 ^ 15 then (x.toNat : Int) else x.toNat - 2 ^ 16 := by
  rw [← Int16.toInt_toBitVec, UInt16.toBitVec_toInt16, BitVec.toInt_eq_toNat_cond,
    UInt16.toNat_toBitVec]
  split <;> split <;> omega

-- The sign is lost in the `int`.
theorem temperatureOf_eq_iff : temperatureOf page = celsius page ↔ NotBelowZero page := by
  have hlo := (page ds2438TemperatureRegOffset).toNat_lt
  have hhi := (page (ds2438TemperatureRegOffset + 1)).toNat_lt
  have hunit : temperatureUnit = 1 / 32 := by norm_num [temperatureUnit]
  have hint : temperatureOf page = ((((page ds2438TemperatureRegOffset).toNat +
      256 * (page (ds2438TemperatureRegOffset + 1)).toNat) / 8 : Nat) : Int) / 32 := by
    rw [temperatureOf, hunit, ← Nat.shiftLeft_add_eq_or_of_lt (by omega), Nat.shiftLeft_eq,
      Nat.shiftRight_eq_div_pow, Nat.add_comm, Nat.mul_comm _ (2 ^ 8), Int.cast_natCast, mul_one_div]
  rw [hint, celsius, div_left_inj' (by norm_num), Int.cast_inj, toInt_toInt16, Page.toNat_uint16,
    Int.shiftRight_eq_div_pow, NotBelowZero, UInt8.lt_iff_toNat_lt]
  simp only [UInt8.reduceToNat]
  split <;> omega

-- What is known of the reads of the page, from a guard counter `g`.
structure Reading (g : Nat) (calls : Ds2438History) (page : Option Page) (g' : Nat) : Prop where
  nonempty : calls ≠ []
  count    : (reads calls).length + g' = g
  last     : decoded calls = page
  idle     : ∀ p, page = some p → g' ≠ 0 → p ds2438ConfigRegOffset &&& ds2438TbIsBusy = 0

theorem Reading.again {read : Option Page} {p : Option Page} {g' : Nat} (h : Reading g calls p g') :
    Reading (g + 1) (⟨.readNVPageDS2438 ds2438ConfigPage, read⟩ :: calls) p g' where
  nonempty := List.cons_ne_nil _ _
  count    := by
    have hcount := h.count
    change (reads calls).length + 1 + g' = g + 1
    omega
  last     := by
    rw [← List.singleton_append, decoded_append h.nonempty]
    exact h.last
  idle     := h.idle

theorem readMeasured_traces : Traces m (readMeasured (g + 1)) fun calls r _ =>
    Reading (g + 1) calls r.1 r.2 := by
  induction g generalizing m
  case zero =>
    refine .bind <| .call fun read => ?_
    cases read
    case none => exact .pure ⟨nofun, rfl, rfl, nofun⟩
    case some buf =>
      refine .ite (fun h => absurd h.right (Nat.lt_irrefl 0)) fun _ => .pure ?_
      exact ⟨nofun, rfl, rfl, fun _ _ h => absurd rfl h⟩
  case succ g hi =>
    refine .bind <| .call fun read => ?_
    cases read
    case none => exact .pure ⟨nofun, Nat.add_comm .., rfl, nofun⟩
    case some buf =>
      refine .ite (fun _ => hi.mono fun calls _ _ h => h.again) fun hb => .pure ?_
      refine ⟨nofun, Nat.add_comm .., rfl, ?_⟩
      rintro p ⟨⟩ _
      by_contra hp
      exact hb ⟨hp, Nat.succ_pos g⟩

theorem reads_append : reads (calls ++ calls') = reads calls ++ reads calls' :=
  List.filterMap_append

theorem reads_of_direct (h : ∀ x ∈ calls, Direct x = true) : reads calls = [] := by
  refine List.filterMap_eq_nil_iff.mpr fun x hx => ?_
  have hd := h x hx
  have ⟨c, a⟩ := x
  cases c <;> first | rfl | cases hd

-- Reads of the page behind calls that are not made for a page.
theorem Reading.measured_iff {p : Option Page} {g' : Nat} (h : Reading guardCounter calls' p g')
    (hd : ∀ x ∈ calls, Direct x = true) :
    Measured (calls ++ calls') page ↔ p = some page ∧ g' ≠ 0 := by
  have hcount := h.count
  constructor
  case mp =>
    rintro ⟨hl, _, hg⟩
    rw [decoded_append h.nonempty, h.last] at hl
    rw [reads_append, reads_of_direct hd, List.nil_append] at hg
    exact ⟨hl, by omega⟩
  case mpr =>
    rintro ⟨rfl, hg⟩
    refine ⟨?_, h.idle page rfl hg, ?_⟩
    case refine_1 => rw [decoded_append h.nonempty, h.last]
    case refine_2 =>
      rw [reads_append, reads_of_direct hd, List.nil_append]
      omega

theorem not_measured_of_direct (hn : calls ≠ []) (hd : ∀ x ∈ calls, Direct x = true) :
    ¬Measured calls page := by
  intro h
  cases (decoded_of_direct hn hd).symm.trans h.decoded

-- What is returned for the page that is taken.
def Returned (calls : Ds2438History) (r : Bool × Option ℚ) : Prop :=
  (r.1 = true ↔ ∃ page, Measured calls page) ∧
    ∀ page, Measured calls page → r.2 = some (temperatureOf page)

theorem Returned.not_measured {temperature : Option ℚ} (h : ∀ page, ¬Measured calls page) :
    Returned calls (false, temperature) :=
  ⟨iff_of_false nofun fun ⟨page, hp⟩ => h page hp, fun page hp => absurd hp (h page)⟩

theorem Returned.measured (h : Measured calls page) :
    Returned calls (true, some (temperatureOf page)) := by
  refine ⟨iff_of_true rfl ⟨page, h⟩, fun page' h' => ?_⟩
  obtain rfl := Option.some.inj <| h.decoded.symm.trans h'.decoded
  rfl

theorem readTemperatureDS2438_traces :
    Traces m readTemperatureDS2438 fun calls r _ => Returned calls r := by
  refine .bind <| .call fun accessed => .ite (fun h => ?_) fun h => .pure ?_
  case refine_2 => exact .not_measured fun _ => not_measured_of_direct nofun (by simp)
  refine .bind <| .call fun issued => .bind <| awaitReading_traces.mono fun await g₁ _ hawait => ?_
  have hdirect : ∀ x ∈ (⟨.owAccess, accessed⟩ :: ⟨.owWriteByte ds2438CommandReadTemperature, issued⟩ ::
      await : Ds2438History), Direct x = true := by
    rw [List.forall_mem_cons, List.forall_mem_cons]
    exact ⟨rfl, rfl, fun x hx => direct_of_owReadByte (hawait x hx)⟩
  refine .ite (fun _ => ?_) fun _ => .pure ?_
  case refine_2 =>
    rw [List.append_nil]
    exact .not_measured fun _ => not_measured_of_direct nofun hdirect
  refine .bind <| readMeasured_traces.mono fun calls ⟨page, g'⟩ _ hr => ?_
  have hmeasured (p : Page) : Measured _ p ↔ page = some p ∧ g' ≠ 0 := hr.measured_iff hdirect
  cases page
  case none =>
    refine .pure <| .not_measured fun page hp => ?_
    rw [List.append_nil] at hp
    cases ((hmeasured page).mp hp).left
  case some page =>
    refine .ite (fun hg => .pure ?_) fun hg => .pure ?_
    case refine_1 =>
      rw [List.append_nil]
      exact .measured <| (hmeasured page).mpr ⟨rfl, hg⟩
    case refine_2 =>
      refine .not_measured fun page hp => ?_
      rw [List.append_nil] at hp
      exact hg ((hmeasured page).mp hp).right

-- The temperature is right if and only if it is not one below zero.
theorem temperature_decoded_iff (env : Ds2438Environment) (w : Ds2438World) :
    ∃ success temperature w' calls,
      readTemperatureDS2438 env w = some ((success, temperature), w') ∧
      w'.history = w.history ++ calls ∧
      ((success = true → ∃ page, TemperatureDecoded calls temperature page) ↔
        ∀ page, Measured calls page → NotBelowZero page) := by
  have ⟨calls, ⟨success, temperature⟩, m', hr, _, hs, ht⟩ :=
    @readTemperatureDS2438_traces () env w.history
  refine ⟨success, temperature, _, calls, hr, rfl, fun h page hp => ?_, fun h hsuccess => ?_⟩
  case refine_1 =>
    have ⟨page', hd⟩ := h (hs.mpr ⟨page, hp⟩)
    obtain rfl : page = page' := Option.some.inj <| hp.decoded.symm.trans hd.decoded
    exact temperatureOf_eq_iff.mp <| Option.some.inj <| (ht page hp).symm.trans hd.temperature
  case refine_2 =>
    have ⟨page, hp⟩ := hs.mp hsuccess
    refine ⟨page, hp.decoded, hp.idle, ?_⟩
    rw [← temperatureOf_eq_iff.mpr (h page hp)]
    exact ht page hp

-- A device at a quarter of a degree below zero.
def coldChip : Chip where
  scratchpad _ := Page.overlay (fun _ => 0) [0, 0xC0, 0xFF]
  memory _     := Page.overlay (fun _ => 0) [0, 0xC0, 0xFF]

theorem readTemperatureDS2438_coldChip :
    (readTemperatureDS2438 (behaviour Chip.respond coldChip) ⟨(), []⟩).map (fun r =>
      (r.1.1, (decoded r.2.history).map (· (ds2438TemperatureRegOffset + 1)))) =
        some (true, some 0xFF) :=
  rfl

theorem temperature_not_decoded : ¬∀ (env : Ds2438Environment) (w : Ds2438World),
    ∃ success temperature w' calls,
      readTemperatureDS2438 env w = some ((success, temperature), w') ∧
      w'.history = w.history ++ calls ∧
      (success = true → ∃ page, TemperatureDecoded calls temperature page) := by
  intro h
  have ⟨success, temperature, w', calls, hr, hh, hd⟩ := h (behaviour Chip.respond coldChip) ⟨(), []⟩
  have hrun := readTemperatureDS2438_coldChip
  rw [hr, Option.map_some, Option.some.injEq, Prod.mk.injEq, hh] at hrun
  have ⟨page, hp⟩ := hd hrun.left
  have ⟨_, hs, ht⟩ := readTemperatureDS2438_traces.result hr hh
  have ⟨page', hm⟩ := hs.mp hrun.left
  obtain rfl : page = page' := Option.some.inj <| hp.decoded.symm.trans hm.decoded
  have hzero : NotBelowZero page :=
    temperatureOf_eq_iff.mp <| Option.some.inj <| (ht page hm).symm.trans hp.temperature
  have hhi := hrun.right
  rw [List.nil_append, hp.decoded, Option.map_some, Option.some.injEq] at hhi
  rw [NotBelowZero, hhi] at hzero
  exact absurd hzero (by decide)

end RoboOne.OneWire
