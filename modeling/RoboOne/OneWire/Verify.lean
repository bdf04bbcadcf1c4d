import RoboOne.OneWire.Search

namespace RoboOne.OneWire.Link

open Interaction BitBuffer Search

-- The block of `owVerify`: all bits are ones, apart from those that answer the devices.
def verifyBlock (alarmOnly : Bool) (serialNum : SerialNum) : List UInt8 :=
  (if alarmOnly then 0xEC else 0xF0) ::
    ((List.range 64).foldl (fun buf i =>
      bitaccWrite (bitaccRead i serialNum.toList) ((i + 1) * 3 - 1) buf)
        (Vector.replicate 24 0xFF)).toList

-- The loop over the bits of the response.
def goodbits (sendpacket : List UInt8) (serialNum : SerialNum) : List Nat → Nat → Nat
  | [],      good => good
  | i :: is, good =>
    let tst := bitaccRead (i * 3) sendpacket <<< 1 ||| bitaccRead (i * 3 + 1) sendpacket
    let s   := bitaccRead i serialNum.toList
    if tst = 0x03 then 0
    else if s = 0x01 ∧ tst = 0x02 ∨ s = 0x00 ∧ tst = 0x01 then goodbits sendpacket serialNum is (good + 1)
    else goodbits sendpacket serialNum is good

def owVerify (alarmOnly : Bool) : LinkProgram Bool := do
  let serialNum := (← load).search.serialNum
  match ← owBlock true (verifyBlock alarmOnly serialNum) with
  | some sendpacket => return goodbits (sendpacket.toList.drop 1) serialNum (List.range 64) 0 ≥ 8
  | none            => return false

def oneWireAccessDevice (address : SerialNum) : LinkProgram Bool := do
  owSerialNumWrite address
  owVerify false

section

variable {n i : Nat} {σ : Type} [Circuit σ] {rom : SerialNum} {alarmOnly : Bool} {bus : Bus σ}
  {x : Bool} {xs : Word} {ws : List Word}

-- Two ones for the devices to answer to, and a bit of the number.
def triples : Word → List Bool :=
  List.flatMap fun x => [true, true, x]

@[simp]
theorem length_triples : (triples xs).length = 3 * xs.length := by
  induction xs
  case nil          => rfl
  case cons x xs hi =>
    rw [triples, List.flatMap_cons, ← triples, List.length_append, hi, List.length_cons (a := x)]
    exact Nat.mul_succ 3 xs.length ▸ Nat.add_comm 3 _

theorem getD_triples : (triples xs).getD (i * 3) false = decide (i < xs.length) ∧
    (triples xs).getD (i * 3 + 1) false = decide (i < xs.length) ∧
      (triples xs).getD (i * 3 + 2) false = xs.getD i false := by
  induction xs generalizing i
  case nil => simp [triples]
  case cons x xs hi =>
    cases i
    case zero   => simp [triples]
    case succ i =>
      have hi := hi (i := i)
      rw [Nat.succ_mul]
      simpa [triples] using hi

-- What has been written of the number.
def Tripled (xs : Word) (n : Nat) (buf : Vector UInt8 24) : Prop :=
  ∀ i < 64, (bits buf.toList).getD (i * 3) false = true ∧
    (bits buf.toList).getD (i * 3 + 1) false = true ∧
      (i < n → (bits buf.toList).getD (i * 3 + 2) false = xs.getD i false)

theorem tripled_zero : Tripled xs 0 (Vector.replicate 24 0xFF) := by
  have hone (i : Nat) (hi : i < 192) :
      (bits (Vector.replicate 24 (0xFF : UInt8)).toList).getD i false = true := by
    have hbyte : (Vector.replicate 24 (0xFF : UInt8)).toList.getD (i / 8) 0 = 0xFF := by
      rw [Vector.toList_replicate, List.getD_eq_getElem?_getD, List.getElem?_replicate, if_pos (by omega)]
      rfl
    have hbit : ∀ j < 8, Bits.bit 0xFF j = true := by decide
    rw [getD_bits, hbyte, hbit _ (by omega)]
  exact fun i hi => ⟨hone _ (by omega), hone _ (by omega), nofun⟩

theorem Tripled.step {buf : Vector UInt8 24} (h : Tripled (romBits rom) n buf) (hn : n < 64) :
    Tripled (romBits rom) (n + 1)
      (bitaccWrite (bitaccRead n rom.toList) ((n + 1) * 3 - 1) buf) := by
  intro i hi
  have ⟨hfirst, hsecond, hthird⟩ := h i hi
  have hloc : (n + 1) * 3 - 1 = n * 3 + 2 := by omega
  have hlen : n * 3 + 2 < (bits buf.toList).length := by
    rw [length_bits, Vector.length_toList]
    omega
  have hstate : decide (bitaccRead n rom.toList ≠ 0) = (romBits rom).getD n false := by
    rw [bitaccRead_eq, ← romBits]
    cases (romBits rom).getD n false <;> rfl
  rw [bits_bitaccWrite, hloc, hstate, getD_set hlen, getD_set hlen, getD_set hlen,
    if_neg (by omega), if_neg (by omega)]
  refine ⟨hfirst, hsecond, fun hin => ?_⟩
  by_cases he : n = i
  case pos => rw [if_pos (by omega), he]
  case neg => rw [if_neg (by omega), hthird (by omega)]

theorem bits_verifyBlock : bits ((verifyBlock alarmOnly rom).drop 1) = triples (romBits rom) := by
  have htripled : ∀ n ≤ 64, Tripled (romBits rom) n ((List.range n).foldl (fun buf i =>
      bitaccWrite (bitaccRead i rom.toList) ((i + 1) * 3 - 1) buf) (Vector.replicate 24 0xFF)) := by
    intro n hn
    induction n
    case zero      => exact tripled_zero
    case succ n hi =>
      rw [List.range_succ, List.foldl_append]
      exact (hi (by omega)).step hn
  have htripled := htripled 64 (Nat.le_refl _)
  have hdrop : (verifyBlock alarmOnly rom).drop 1 = ((List.range 64).foldl (fun buf i =>
      bitaccWrite (bitaccRead i rom.toList) ((i + 1) * 3 - 1) buf)
        (Vector.replicate 24 0xFF)).toList := rfl
  rw [hdrop]
  generalize (List.range 64).foldl (fun buf i =>
      bitaccWrite (bitaccRead i rom.toList) ((i + 1) * 3 - 1) buf) (Vector.replicate 24 0xFF) = buf
    at htripled ⊢
  refine ext_getD (by simp) fun j hj => ?_
  rw [length_bits, Vector.length_toList] at hj
  have ⟨hfirst, hsecond, hthird⟩ := htripled (j / 3) (by omega)
  have ⟨hfirst', hsecond', hthird'⟩ := @getD_triples (j / 3) (romBits rom)
  have hin : decide (j / 3 < (romBits rom).length) = true := by
    rw [length_romBits]
    exact decide_eq_true (by omega)
  have hj3 : j = j / 3 * 3 ∨ j = j / 3 * 3 + 1 ∨ j = j / 3 * 3 + 2 := by omega
  rcases hj3 with hj3 | hj3 | hj3
  case inl     => rw [hj3, hfirst, hfirst', hin]
  case inr.inl => rw [hj3, hsecond, hsecond', hin]
  case inr.inr => rw [hj3, hthird (by omega), hthird']

-- What comes back for the bits of a number: what there is at each of them, and the bit itself.
def seen : List Word → Word → List Bool
  | _,  []      => []
  | ws, x :: xs => (!goesOn ws false) :: (!goesOn ws true) :: x :: seen (behind x ws) xs

theorem touchBits_triples (h : ∀ d ∈ bus, d.Searches xs.length) :
    (slaves.touchBits bus (triples xs)).1 = seen bus.words xs := by
  induction xs generalizing bus
  case nil => rfl
  case cons x xs hi =>
    have ⟨hb, hc, hd⟩ := touch_search h
    have hcons : triples (x :: xs) = true :: true :: x :: triples xs := rfl
    rw [hcons, Wire.touchBits, Wire.touchBits, Wire.touchBits]
    simp only [hb, hc, hd, seen]
    congr 3
    rcases xs with _ | ⟨y, ys⟩
    case nil => rfl
    case cons =>
      have hnext : ∀ d ∈ bus.map (Slave.next x), d.Searches (ys.length + 1) := by
        simp only [List.mem_map]
        rintro _ ⟨d, hd, rfl⟩
        exact (h d hd).next
      rw [hi hnext, words_next h]

@[simp]
theorem length_seen : (seen ws xs).length = 3 * xs.length := by
  induction xs generalizing ws
  case nil          => rfl
  case cons x xs hi =>
    rw [seen, List.length_cons, List.length_cons, List.length_cons, hi, List.length_cons]
    omega

-- What is counted is how many bits no other device contests.
theorem goodbits_eq {buf : List UInt8} {pre pre' : List Bool} {good : Nat}
    (hb : bits buf = pre ++ seen ws xs) (hr : romBits rom = pre' ++ xs)
    (hp : pre.length = n * 3) (hp' : pre'.length = n) :
    goodbits buf rom (List.range' n xs.length) good = uncontested ws xs good := by
  induction xs generalizing ws n pre pre' good
  case nil => rfl
  case cons x xs hi =>
    have hfirst : bitaccRead (n * 3) buf = if !goesOn ws false then 1 else 0 := by
      rw [bitaccRead_eq, hb, ← Nat.add_zero (n * 3), getD_append hp]
      rfl
    have hsecond : bitaccRead (n * 3 + 1) buf = if !goesOn ws true then 1 else 0 := by
      rw [bitaccRead_eq, hb, getD_append hp]
      rfl
    have hbit : bitaccRead n rom.toList = if x then 1 else 0 := by
      rw [bitaccRead_eq, ← romBits, hr, ← Nat.add_zero n, getD_append hp']
      rfl
    have hb' : bits buf = (pre ++ [!goesOn ws false, !goesOn ws true, x]) ++ seen (behind x ws) xs := by
      rw [hb, List.append_assoc]
      rfl
    have hr' : romBits rom = (pre' ++ [x]) ++ xs := by
      rw [hr, List.append_assoc]
      rfl
    have hp₁ : (pre ++ [!goesOn ws false, !goesOn ws true, x]).length = (n + 1) * 3 := by
      rw [List.length_append, hp, Nat.succ_mul]
      rfl
    have hp₁' : (pre' ++ [x]).length = n + 1 := by
      rw [List.length_append, hp']
      rfl
    have hrest (good : Nat) : goodbits buf rom (List.range' (n + 1) xs.length) good =
        uncontested (behind x ws) xs good := hi hb' hr' hp₁ hp₁'
    rw [List.length_cons, List.range'_succ, goodbits, uncontested, hfirst, hsecond, hbit]
    simp only [hrest]
    cases x <;> simp only [Bool.not_false, Bool.not_true] <;>
      cases goesOn ws false <;> cases goesOn ws true <;> rfl

-- Behind a device that is there, at least its last byte is not contested. One that is not there is left
-- by all others before its last byte.
theorem eight_le_uncontested_iff (h : ∀ v ∈ ws, ∃ rom, Checked rom ∧ romBits rom = v)
    (hr : Checked rom) : 8 ≤ uncontested ws (romBits rom) 0 ↔ romBits rom ∈ ws := by
  have hsplit : (romBits rom).take 56 ++ (romBits rom).drop 56 = romBits rom :=
    List.take_append_drop 56 _
  have hlength : ((romBits rom).take 56).length = 56 := List.length_take_of_le (by simp)
  have hsame (u : Word) (hu : (romBits rom).take 56 ++ u ∈ ws) :
      (romBits rom).take 56 ++ u = romBits rom := by
    have ⟨rom', hrom', he⟩ := h _ hu
    have htake : (romBits rom').take 56 = (romBits rom).take 56 := by rw [he, List.take_left' hlength]
    rw [← he, hrom'.eq hr htake]
  constructor
  case mp =>
    intro hle
    by_contra hno
    have hnone (u : Word) (hu : u ∈ follow ws ((romBits rom).take 56)) : False :=
      hno <| hsame u (mem_follow.mp hu) ▸ mem_follow.mp hu
    rw [uncontested_eq_zero (by simp) hnone] at hle
    exact absurd hle (by decide)
  case mpr =>
    intro hmem
    rw [← hsplit] at hmem
    have hle := @length_le_uncontested _ _ _ 0 hmem fun u hu =>
      List.append_cancel_left <| (hsame u (mem_follow.mp hu)).trans hsplit.symm
    rwa [hsplit, List.length_drop, length_romBits] at hle

variable {s : SearchState}

theorem length_verifyBlock : (verifyBlock alarmOnly rom).length = 25 := by
  rw [verifyBlock, List.length_cons, Vector.length_toList]

theorem goodbits_verifyBlock :
    goodbits ((slaves.touchBytes (slaves.reset bus).2 (verifyBlock alarmOnly rom)).1.drop 1) rom
      (List.range 64) 0 = uncontested (bus.responding alarmOnly) (romBits rom) 0 := by
  have hcons : verifyBlock alarmOnly rom =
      searchCommand alarmOnly :: (verifyBlock alarmOnly rom).drop 1 := rfl
  have hbits : bits ((slaves.touchBytes (slaves.reset bus).2 (verifyBlock alarmOnly rom)).1.drop 1) =
      [] ++ seen (bus.responding alarmOnly) (romBits rom) := by
    rw [hcons, Wire.touchBytes, touchByte_reset]
    rw [List.drop_succ_cons, List.drop_zero, Wire.touchBytes_eq.left, bits_verifyBlock,
      touchBits_triples, words_start, List.nil_append]
    rw [length_romBits]
    exact searches_start
  have hrange : List.range 64 = List.range' 0 (romBits rom).length := by
    rw [length_romBits, List.range_eq_range']
  have hnil : romBits rom = [] ++ romBits rom := rfl
  rw [hrange]
  exact goodbits_eq hbits hnil rfl rfl

-- A device is verified if and only if it responds.
theorem owVerify_onBus (hv : bus.Checked) (hr : Checked s.serialNum) : ∃ bus',
    OnBus slaves (owVerify alarmOnly) s bus (decide (romBits s.serialNum ∈ bus.responding alarmOnly))
      s bus' ∧ bus'.devices = bus.devices := by
  have hfits : Fits (verifyBlock alarmOnly s.serialNum) :=
    fits_of_length_le (by rw [length_verifyBlock]; decide)
  rcases bus with _ | ⟨d, bus⟩
  case nil =>
    refine ⟨_, .load_bind fun p hp => ?_, rfl⟩
    rw [hp]
    exact .bind (owBlock_onBus_of_absent nofun hfits) .pure
  case cons =>
    refine ⟨(slaves.touchBytes (slaves.reset (d :: bus)).2 (verifyBlock alarmOnly s.serialNum)).2,
      .load_bind fun p hp => ?_, devices_touchBytes.trans devices_reset⟩
    rw [hp]
    refine .bind (owBlock_onBus_of_reset rfl hfits) ?_
    have hgood : (decide (goodbits ((touched slaves (slaves.reset (d :: bus)).2
        (verifyBlock alarmOnly s.serialNum)).toList.drop 1) s.serialNum (List.range 64) 0 ≥ 8)) =
          decide (romBits s.serialNum ∈ Bus.responding alarmOnly (d :: bus)) := by
      rw [touched, Vector.toList_mk, List.toList_toArray, goodbits_verifyBlock]
      exact decide_eq_decide.mpr <| eight_le_uncontested_iff (exists_of_mem_responding hv) hr
    dsimp only
    rw [hgood]
    exact .pure

-- So an access to a device succeeds if and only if it is on the bus.
theorem oneWireAccessDevice_iff_present (hv : bus.Checked) (hr : Checked rom) : ∃ bus',
    OnBus slaves (oneWireAccessDevice rom) s bus (decide (rom ∈ bus.map Slave.rom))
      { s with serialNum := rom } bus' ∧ bus'.devices = bus.devices := by
  have ⟨bus', h, hdevices⟩ := @owVerify_onBus σ _ false bus { s with serialNum := rom } hv hr
  refine ⟨bus', .bind setSearch_onBus ?_, hdevices⟩
  rwa [decide_eq_decide.mpr mem_responding] at h

theorem oneWireAccessDevice_iff_present_twoDevices : ∃ bus',
    OnBus slaves (oneWireAccessDevice #v[0x29, 1, 0, 0, 0, 0, 0, 20]) Port.initial.search twoDevices
      (decide (#v[0x29, 1, 0, 0, 0, 0, 0, 20] ∈ twoDevices.map Slave.rom))
      { Port.initial.search with serialNum := #v[0x29, 1, 0, 0, 0, 0, 0, 20] } bus' ∧
    bus'.devices = twoDevices.devices :=
  oneWireAccessDevice_iff_present registered_twoDevices.checked (by decide)

end

end RoboOne.OneWire.Link
