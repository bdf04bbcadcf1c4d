import RoboOne.OneWire.Slaves

namespace RoboOne.OneWire.Link

open Interaction BitBuffer Search

-- `bitacc` that reads.
def bitaccRead (loc : Nat) (buf : List UInt8) : UInt8 :=
  let nbyt := loc / 8
  let nbit := loc - nbyt * 8
  buf.getD nbyt 0 >>> .ofNat nbit &&& 0x01

-- `bitacc` that writes.
def bitaccWrite {n : Nat} (state : UInt8) (loc : Nat) (buf : Vector UInt8 n) : Vector UInt8 n :=
  let nbyt := loc / 8
  let nbit := loc - nbyt * 8
  let b    := buf.toList.getD nbyt 0
  buf.setIfInBounds nbyt (if state ≠ 0 then b ||| Bits.single nbit else b &&& ~~~Bits.single nbit)

-- The 16 bytes of a search, with the directions in them.
def searchData (s : SearchState) : Vector UInt8 16 :=
  if s.lastDiscrepancy ≠ 0 then
    (List.range 64).foldl (fun buf i =>
      if i < s.lastDiscrepancy - 1 then bitaccWrite (bitaccRead i s.serialNum.toList) (i * 2 + 1) buf
      else if i = s.lastDiscrepancy - 1 then bitaccWrite 1 (i * 2 + 1) buf
      else buf) (.replicate 16 0)
  else
    .replicate 16 0

-- What is made of the response, bit by bit.
structure Interpreted where
  tmpSerialNum          : SerialNum
  lastZero              : Nat
  lastFamilyDiscrepancy : Nat

def interpret (readbuffer : List UInt8) (r : Interpreted) (i : Nat) : Interpreted :=
  let r := { r with
    tmpSerialNum := bitaccWrite (bitaccRead (i * 2 + 1) readbuffer) i r.tmpSerialNum }
  if bitaccRead (i * 2) readbuffer = 1 ∧ bitaccRead (i * 2 + 1) readbuffer = 0 then
    { r with
      lastZero              := i + 1
      lastFamilyDiscrepancy := if i < 8 then i + 1 else r.lastFamilyDiscrepancy }
  else
    r

-- The second byte of some devices is not what their CRC is about.
def serialCrc8 (serialNum : SerialNum) : UInt8 :=
  crc8 (if serialNum[0] &&& 0x7F = 0x1C then (serialNum.set 1 0x7F).toList else serialNum.toList)

def SearchState.reset (s : SearchState) : SearchState :=
  { s with lastDiscrepancy := 0, lastDevice := false, lastFamilyDiscrepancy := 0 }

def setSearch (f : SearchState → SearchState) : LinkProgram Unit :=
  update fun p => { p with search := f p.search }

-- Nothing is left of what the number of the device was set to before.
def checkResponse (readbuffer : List UInt8) : LinkProgram Bool := do
  let s := (← load).search
  let r := (List.range 64).foldl (interpret (readbuffer.drop 1))
    { tmpSerialNum          := .replicate 8 0
      lastZero              := 0
      lastFamilyDiscrepancy := s.lastFamilyDiscrepancy }
  if serialCrc8 r.tmpSerialNum ≠ 0 ∨ s.lastDiscrepancy = 63 ∨ r.tmpSerialNum[0] = 0 then
    setSearch SearchState.reset
    return false
  else
    setSearch fun s =>
      { lastDiscrepancy       := r.lastZero
        lastFamilyDiscrepancy := r.lastFamilyDiscrepancy
        lastDevice            := if r.lastZero = 0 then true else s.lastDevice
        serialNum             := r.tmpSerialNum }
    return true

-- The part of `owNext` behind the reset.
def searchBus (alarmOnly : Bool) : LinkProgram Bool := do
  let sendpacket ← changeMode .modSelData modeData
  let p ← load
  let sendpacket := sendpacket ++
    ([if alarmOnly then 0xEC else 0xF0, modeCommand, cmdComm ||| functSelSearchOn ||| p.uSpeed, modeData] ++
      (searchData p.search).toList ++ [modeCommand, cmdComm ||| functSelSearchOff ||| p.uSpeed])
  update fun p => { p with uMode := .modSelCommand }
  match ← exchange sendpacket 17 with
  | some readbuffer => checkResponse readbuffer.toList
  | none            =>
    let _ ← ds2480Detect
    setSearch SearchState.reset
    return false

def owNext (doReset alarmOnly : Bool) : LinkProgram Bool := do
  if (← load).search.lastDevice then
    setSearch SearchState.reset
    return false
  else if doReset then
    if ← owTouchReset then
      searchBus alarmOnly
    else
      setSearch fun s => { s with lastDiscrepancy := 0, lastFamilyDiscrepancy := 0 }
      return false
  else
    searchBus alarmOnly

def owFirst (doReset alarmOnly : Bool) : LinkProgram Bool := do
  setSearch SearchState.reset
  owNext doReset alarmOnly

-- `owSerialNum` that reads.
def owSerialNumRead : LinkProgram SerialNum := do
  return (← load).search.serialNum

-- `owSerialNum` that writes.
def owSerialNumWrite (serialnumBuf : SerialNum) : LinkProgram Unit :=
  setSearch fun s => { s with serialNum := serialnumBuf }

-- The loop goes on for as many turns as `fuel` allows, and yields `none` if this is not to its end.
def findAllDevices (maxNumAddresses : UInt8) : Nat → Bool → UInt8 → List SerialNum →
    LinkProgram (Option (UInt8 × List SerialNum))
  | 0,        _,       _,     _         => return none
  | fuel + 1, success, count, addresses => do
    if success then
      let count := count + 1
      let address ← owSerialNumRead
      let addresses := if count ≤ maxNumAddresses then addresses ++ [address] else addresses
      let success ← owNext true false
      findAllDevices maxNumAddresses fuel success count addresses
    else
      return some (count, addresses)

def oneWireFindAllDevices (fuel : Nat) (maxNumAddresses : UInt8) :
    LinkProgram (Option (UInt8 × List SerialNum)) := do
  let success ← owFirst true false
  findAllDevices maxNumAddresses fuel success 0 []

section

variable {n loc i : Nat} {buf : List UInt8} {state : UInt8} {r : List (Bool × Bool)} {xs : Word}

theorem bitaccRead_eq : bitaccRead loc buf = if (bits buf).getD loc false then 1 else 0 := by
  have hmod : loc - loc / 8 * 8 = loc % 8 := by omega
  rw [bitaccRead, getD_bits, hmod]
  exact shiftRight_and_one (by omega)

theorem bits_bitaccWrite {buf : Vector UInt8 n} :
    bits (bitaccWrite state loc buf).toList = (bits buf.toList).set loc (state ≠ 0) := by
  have hloc : 8 * (loc / 8) + (loc - loc / 8 * 8) = loc := by omega
  have hset (c : UInt8) : (buf.setIfInBounds (loc / 8) c).toList = buf.toList.set (loc / 8) c := by
    simp
  rw [← hloc, ← bits_set (by omega), hloc, bitaccWrite, hset]
  simp only [decide_eq_true_eq]

@[simp]
theorem length_pairBits : (pairBits r).length = 2 * r.length := by
  induction r
  case nil          => rfl
  case cons x r hi =>
    rw [pairBits, List.flatMap_cons, ← pairBits, List.length_append, hi, List.length_cons]
    exact (Nat.mul_succ 2 r.length ▸ Nat.add_comm 2 _)

theorem getD_pairBits : (pairBits r).getD (i * 2) false = (r.getD i (false, false)).1 ∧
    (pairBits r).getD (i * 2 + 1) false = (r.getD i (false, false)).2 := by
  induction r generalizing i
  case nil => simp [pairBits]
  case cons x r hi =>
    cases i
    case zero   => simp [pairBits]
    case succ i =>
      have hi := hi (i := i)
      rw [Nat.succ_mul]
      simpa [pairBits] using hi

theorem secondBits_pairBits : secondBits (pairBits r) = word r := by
  induction r
  case nil          => rfl
  case cons x r hi => exact congrArg (x.2 :: ·) hi

-- What the response says of the first bits.
structure InterpretedAs (r : List (Bool × Bool)) (n : Nat) (t : Interpreted) : Prop where
  bits     : ∀ i < n, (romBits t.tmpSerialNum).getD i false = (r.getD i (false, false)).2
  lastZero : t.lastZero = lastZero (r.take n)

theorem InterpretedAs.step {t : Interpreted} (h : InterpretedAs r n t) (hn : n < r.length)
    (hr : r.length = 64) (hb : BitBuffer.bits buf = pairBits r) :
    InterpretedAs r (n + 1) (interpret buf t n) := by
  have hread (loc : Nat) := @bitaccRead_eq loc buf
  simp only [hb] at hread
  have hget : r.getD n (false, false) = r[n] := by simp [hn]
  have hfirst := hread (n * 2)
  have hsecond := hread (n * 2 + 1)
  rw [getD_pairBits.left, hget] at hfirst
  rw [getD_pairBits.right, hget] at hsecond
  have htmp : (interpret buf t n).tmpSerialNum =
      bitaccWrite (bitaccRead (n * 2 + 1) buf) n t.tmpSerialNum := by
    rw [interpret]
    dsimp only
    split <;> rfl
  constructor
  case bits =>
    intro i hi
    have hlen : n < (romBits t.tmpSerialNum).length := by
      rw [romBits, length_bits, Vector.length_toList]
      omega
    have hstate : decide (bitaccRead (n * 2 + 1) buf ≠ 0) = r[n].2 := by
      rw [hsecond]
      cases r[n].2 <;> rfl
    rw [htmp, romBits, bits_bitaccWrite, ← romBits, hstate, getD_set hlen]
    by_cases hin : n = i
    case pos => rw [if_pos hin, ← hin, hget]
    case neg =>
      rw [if_neg hin]
      exact h.bits i (by omega)
  case lastZero =>
    have htake : r.take (n + 1) = r.take n ++ [r[n]] := List.take_succ_eq_append_getElem hn
    have hlen : (r.take n).length = n := List.length_take_of_le hn.le
    rw [htake, lastZero_concat, hlen, interpret, hfirst, hsecond, ← h.lastZero]
    dsimp only
    cases r[n].1 <;> cases r[n].2 <;> rfl

theorem interpretedAs_foldl {t : Interpreted} (hz : t.lastZero = 0) (hr : r.length = 64)
    (hb : BitBuffer.bits buf = pairBits r) (hn : n ≤ 64) :
    InterpretedAs r n ((List.range n).foldl (interpret buf) t) := by
  induction n
  case zero      => exact ⟨nofun, hz⟩
  case succ n hi =>
    rw [List.range_succ, List.foldl_append]
    exact (hi (by omega)).step (by omega) hr hb

-- The response is taken for the number that the search has led to, and for its last discrepancy.
theorem interpret_eq {t : Interpreted} (hz : t.lastZero = 0) (hr : r.length = 64)
    (hb : BitBuffer.bits buf = pairBits r) :
    romBits ((List.range 64).foldl (interpret buf) t).tmpSerialNum = word r ∧
      ((List.range 64).foldl (interpret buf) t).lastZero = Search.lastZero r := by
  have h := interpretedAs_foldl hz hr hb (Nat.le_refl 64)
  refine ⟨ext_getD (by simp [romBits, word, hr]) fun i hi => ?_, ?_⟩
  case refine_1 =>
    have hi : i < 64 := by simpa [romBits] using hi
    rw [h.bits i hi]
    simp [word, hr, hi]
  case refine_2 => rw [h.lastZero, ← hr, List.take_length]

theorem getD_replicate_zero : (bits (Vector.replicate n (0 : UInt8)).toList).getD i false = false := by
  have hbyte : (Vector.replicate n (0 : UInt8)).toList.getD (i / 8) 0 = 0 := by
    rw [Vector.toList_replicate, List.getD_eq_getElem?_getD, List.getElem?_replicate]
    split <;> rfl
  rw [getD_bits, hbyte, Bits.bit_zero]

-- Of the bits that have been written the second ones are the directions.
def Directed (xs : Word) (n : Nat) (buf : Vector UInt8 16) : Prop :=
  ∀ i < 64, (bits buf.toList).getD (i * 2) false = false ∧
    (bits buf.toList).getD (i * 2 + 1) false = if i < n then xs.getD i false else false

theorem Directed.step {buf buf' : Vector UInt8 16} (h : Directed xs n buf) (hn : n < 64)
    (hs : (∃ state, buf' = bitaccWrite state (n * 2 + 1) buf ∧ (state ≠ 0 ↔ xs.getD n false = true)) ∨
      buf' = buf ∧ xs.getD n false = false) : Directed xs (n + 1) buf' := by
  intro i hi
  have ⟨hfirst, hsecond⟩ := h i hi
  rcases hs with ⟨state, rfl, hstate⟩ | ⟨rfl, hzero⟩
  case inl =>
    have hlen : n * 2 + 1 < (bits buf.toList).length := by
      rw [length_bits, Vector.length_toList]
      omega
    have hstate : decide (state ≠ 0) = xs.getD n false := by
      rw [Bool.eq_iff_iff, decide_eq_true_iff, hstate]
    rw [bits_bitaccWrite, getD_set hlen, getD_set hlen, hstate, if_neg (by omega)]
    refine ⟨hfirst, ?_⟩
    by_cases hin : i = n
    case pos => rw [hin, if_pos rfl, if_pos (by omega)]
    case neg =>
      rw [if_neg (by omega), hsecond]
      by_cases hlt : i < n
      case pos => rw [if_pos hlt, if_pos (by omega)]
      case neg => rw [if_neg hlt, if_neg (by omega)]
  case inr =>
    refine ⟨hfirst, hsecond.trans ?_⟩
    by_cases hin : i = n
    case pos => rw [hin, if_neg (by omega), if_pos (by omega), hzero]
    case neg =>
      by_cases hlt : i < n
      case pos => rw [if_pos hlt, if_pos (by omega)]
      case neg => rw [if_neg hlt, if_neg (by omega)]

theorem directed_searchData {s : SearchState} :
    Directed (directions s.lastDiscrepancy (romBits s.serialNum)) 64 (searchData s) := by
  have hlength : (romBits s.serialNum).length = 64 := by simp [romBits]
  have hstart (xs : Word) : Directed xs 0 (Vector.replicate 16 0) :=
    fun i _ => ⟨getD_replicate_zero, getD_replicate_zero⟩
  rw [searchData]
  by_cases hd : s.lastDiscrepancy ≠ 0
  case neg =>
    have hzeros (i : Nat) : (directions s.lastDiscrepancy (romBits s.serialNum)).getD i false = false := by
      rw [getD_directions, not_not.mp hd]
      simp
    rw [if_neg hd]
    intro i hi
    have hz := hstart (directions s.lastDiscrepancy (romBits s.serialNum)) i hi
    rwa [if_pos hi, hzeros]
  case pos =>
    rw [if_pos hd]
    suffices h : ∀ n ≤ 64, Directed (directions s.lastDiscrepancy (romBits s.serialNum)) n
        ((List.range n).foldl _ (.replicate 16 0)) from h 64 (Nat.le_refl _)
    intro n hn
    induction n
    case zero      => exact hstart _
    case succ n hi =>
      rw [List.range_succ, List.foldl_append, List.foldl_cons, List.foldl_nil]
      refine (hi (by omega)).step hn ?_
      rw [getD_directions, hlength, if_pos (show n < 64 from hn)]
      by_cases hlt : n < s.lastDiscrepancy - 1
      case pos =>
        refine .inl ⟨_, if_pos hlt, ?_⟩
        rw [if_pos (by omega), bitaccRead_eq, ← romBits]
        cases (romBits s.serialNum).getD n false <;> simp
      case neg =>
        rw [if_neg hlt, if_neg (show ¬n + 1 < s.lastDiscrepancy by omega)]
        by_cases heq : n = s.lastDiscrepancy - 1
        case pos =>
          refine .inl ⟨_, if_pos heq, ?_⟩
          rw [decide_eq_true (by omega)]
          decide
        case neg => exact .inr ⟨if_neg heq, decide_eq_false (by omega)⟩

-- The directions of the search, between bits that are zero.
theorem bits_searchData {s : SearchState} : bits (searchData s).toList =
    pairBits ((directions s.lastDiscrepancy (romBits s.serialNum)).map fun x => (false, x)) := by
  have hlength : (directions s.lastDiscrepancy (romBits s.serialNum)).length = 64 := by simp [romBits]
  refine ext_getD (by simp [hlength]) fun j hlt => ?_
  rw [length_bits, Vector.length_toList] at hlt
  obtain ⟨hfirst, hsecond⟩ := directed_searchData (s := s) (j / 2) (by omega)
  have hpair := getD_pairBits (i := j / 2)
    (r := (directions s.lastDiscrepancy (romBits s.serialNum)).map fun x => (false, x))
  have hmap : ((directions s.lastDiscrepancy (romBits s.serialNum)).map fun x => (false, x)).getD
      (j / 2) (false, false) = (false, (directions s.lastDiscrepancy (romBits s.serialNum)).getD
        (j / 2) false) := by
    simp [List.getD_eq_getElem?_getD, show j / 2 < 64 by omega, hlength]
  rw [hmap] at hpair
  have hj : j = j / 2 * 2 ∨ j = j / 2 * 2 + 1 := by omega
  rcases hj with hj | hj
  case inl => rw [hj, hfirst, hpair.left]
  case inr => rw [hj, hsecond, hpair.right, if_pos (by omega)]

end

-- So none of the bytes looks like a change of the mode.
theorem ne_modeCommand_of_mem_searchData {s : SearchState} {b : UInt8} (hb : b ∈ (searchData s).toList) :
    b ≠ modeCommand := by
  rintro rfl
  have ⟨q, hq, hget⟩ := List.getElem_of_mem hb
  have hq16 : q < 16 := by simpa using hq
  have hfirst := (directed_searchData (s := s) (q * 4) (by omega)).left
  have hdiv : q * 4 * 2 / 8 = q := by omega
  have hmod : q * 4 * 2 % 8 = 0 := by omega
  have hbyte : (searchData s).toList.getD q 0 = modeCommand := by
    rw [List.getD_eq_getElem?_getD, List.getElem?_eq_getElem hq, Option.getD_some, hget]
  rw [getD_bits, hdiv, hmod, hbyte] at hfirst
  exact absurd hfirst (by decide)

section

variable {β : Type} {wire : Wire β} {a : Adapter β} {p : Port} {pre bs : List UInt8}

-- The adapter collects the bytes of the search, and then makes it.
theorem feed_search (hm : a.mode = .data) (hs : a.search = some pre) (hl : pre.length + bs.length = 16)
    (hbs : bs ≠ []) (hb : ∀ b ∈ bs, b ≠ modeCommand) :
    bs.foldl (Adapter.receive wire) a = { a with
      search := some []
      bus    := (wire.accelerate a.bus (secondBits (bits (pre ++ bs)))).2
      out    := a.out ++ bytes 16 (pairBits (wire.accelerate a.bus (secondBits (bits (pre ++ bs)))).1) } := by
  induction bs generalizing a pre
  case nil => exact absurd rfl hbs
  case cons b bs hi =>
    have hreceive : a.receive wire b = a.transmit wire b := by
      rw [Adapter.receive, hm]
      exact if_neg (hb b (.head _))
    rw [List.foldl_cons, hreceive, Adapter.transmit, hs]
    dsimp only
    rw [List.length_cons] at hl
    rcases bs with _ | ⟨c, cs⟩
    case nil =>
      rw [List.length_nil] at hl
      rw [if_pos (by omega), List.foldl_nil]
    case cons =>
      rw [List.length_cons] at hl
      rw [if_neg (by omega)]
      have hrest := hi (a := { a with search := some (pre ++ [b]) }) hm rfl
        (by rw [List.length_append, List.length_singleton, List.length_cons]; omega)
        (List.cons_ne_nil _ _) fun b hb' => hb b (.tail _ hb')
      rwa [List.append_assoc, List.singleton_append] at hrest

theorem command_searchOn : Adapter.command wire a (cmdComm ||| functSelSearchOn ||| speedSelFlex) =
    { a with search := some [] } := by
  rw [Adapter.command, if_neg (by decide), if_neg (by decide), if_neg (by decide),
    if_pos (by decide), if_pos (by decide)]

theorem command_searchOff : Adapter.command wire a (cmdComm ||| functSelSearchOff ||| speedSelFlex) =
    { a with search := none } := by
  rw [Adapter.command, if_neg (by decide), if_neg (by decide), if_neg (by decide),
    if_pos (by decide), if_neg (by decide)]

-- What the packet of a search makes of the adapter.
theorem feed_searchPacket {c : UInt8} {s : SearchState} (hm : a.mode = .data) (hs : a.search = none)
    (hc : c ≠ modeCommand) :
    let r  := wire.touchByte a.bus c
    let rs := wire.accelerate r.2 (directions s.lastDiscrepancy (romBits s.serialNum))
    ([c, modeCommand, cmdComm ||| functSelSearchOn ||| speedSelFlex, modeData] ++
      (searchData s).toList ++ [modeCommand, cmdComm ||| functSelSearchOff ||| speedSelFlex]).foldl
        (Adapter.receive wire) a = { a with
          mode := .command
          out  := a.out ++ r.1 :: bytes 16 (pairBits rs.1)
          bus  := rs.2 } := by
  intro r rs
  have hon : cmdComm ||| functSelSearchOn ||| speedSelFlex ≠ modeCommand := by decide
  have hoff : cmdComm ||| functSelSearchOff ||| speedSelFlex ≠ modeCommand := by decide
  let started : Adapter β := { a with search := some [], out := a.out ++ [r.1], bus := r.2 }
  have hstart : [c, modeCommand, cmdComm ||| functSelSearchOn ||| speedSelFlex, modeData].foldl
      (Adapter.receive wire) a = started := by
    obtain ⟨mode, search, parameters, out, bus⟩ := a
    subst hm hs
    simp only [List.foldl_cons, List.foldl_nil, Adapter.receive, if_neg hc, if_neg hon, if_true,
      Adapter.transmit, Adapter.answer, command_searchOn]
    rw [Adapter.command, if_pos rfl]
  have hdata : (searchData s).toList.foldl (Adapter.receive wire) started = { started with
      bus := rs.2, out := started.out ++ bytes 16 (pairBits rs.1) } := by
    have hfeed := @feed_search _ wire started [] (searchData s).toList hm rfl (by simp)
      (List.ne_nil_of_length_pos (by simp)) fun b => ne_modeCommand_of_mem_searchData
    rw [List.nil_append, bits_searchData, secondBits_pairBits, word, List.map_map] at hfeed
    simpa [started, Function.comp_def, rs] using hfeed
  have hend : [modeCommand, cmdComm ||| functSelSearchOff ||| speedSelFlex].foldl (Adapter.receive wire)
      { started with bus := rs.2, out := started.out ++ bytes 16 (pairBits rs.1) } = { a with
        mode := .command
        out  := a.out ++ r.1 :: bytes 16 (pairBits rs.1)
        bus  := rs.2 } := by
    obtain ⟨mode, search, parameters, out, bus⟩ := a
    subst hm hs
    simp [started, Adapter.receive, hoff, command_searchOff]
  rw [List.foldl_append, List.foldl_append, hstart, hdata, hend]

end

variable {σ : Type} {bus bus' : Bus σ} {s s' : SearchState} {alarmOnly x : Bool} {rom : SerialNum}

def Bus.walk (alarmOnly : Bool) (bus : Bus σ) (s : SearchState) : List (Bool × Bool) :=
  Search.walk (bus.responding alarmOnly) (directions s.lastDiscrepancy (romBits s.serialNum))

-- The last byte of a number is the CRC8 of the others, as it is for its family.
def Checked (rom : SerialNum) : Prop :=
  serialCrc8 rom = 0

instance (rom : SerialNum) : Decidable (Checked rom) :=
  inferInstanceAs (Decidable (_ = _))

-- A number as devices have them.
structure Registered (rom : SerialNum) : Prop where
  crc    : Checked rom
  family : rom[0] ≠ 0

theorem eq_of_docrc8_eq_zero {crc b : UInt8} (h : docrc8 crc b = 0) : b = crc := by
  have htable : ∀ i : Fin 256, dscrcTable.get i = 0 → i = 0 := by decide +kernel
  have hxor : crc ^^^ b = 0 := UInt8.toNat_inj.mp <| congrArg Fin.val <| htable _ h
  exact (UInt8.xor_eq_zero_iff.mp hxor).symm

-- The bytes that the CRC8 is of: in one family, the second byte can be changed.
def checkedBytes (bs : List UInt8) : List UInt8 :=
  if bs.getD 0 0 &&& 0x7F = 0x1C then bs.set 1 0x7F else bs

theorem serialCrc8_eq : serialCrc8 rom = crc8 (checkedBytes rom.toList) := by
  have hhead : rom.toList.getD 0 0 = rom[0] := by
    simp [List.getD_eq_getElem?_getD]
  rw [serialCrc8, checkedBytes, hhead, Vector.toList_set]

theorem checkedBytes_append {bs : List UInt8} {b : UInt8} (h : 1 < bs.length) :
    checkedBytes (bs ++ [b]) = checkedBytes bs ++ [b] := by
  have hhead : (bs ++ [b]).getD 0 0 = bs.getD 0 0 := by
    cases bs
    case nil  => cases h
    case cons => rfl
  rw [checkedBytes, checkedBytes, hhead]
  split
  case isTrue  => rw [List.set_append_left _ _ h]
  case isFalse => rfl

-- The last byte follows from the others.
theorem Checked.eq {rom' : SerialNum} (h : Checked rom) (h' : Checked rom')
    (ht : (romBits rom).take 56 = (romBits rom').take 56) : rom = rom' := by
  have hsplit (rom : SerialNum) : rom.toList = rom.toList.take 7 ++ [rom[7]] := by
    have hlength : rom.toList.length = 8 := rom.length_toList
    have htake := List.take_succ_eq_append_getElem (l := rom.toList) (i := 7) (by omega)
    rw [List.take_of_length_le (by omega)] at htake
    rwa [Vector.getElem_toList] at htake
  have hlast (rom : SerialNum) (hcrc : Checked rom) :
      rom[7] = crc8 (checkedBytes (rom.toList.take 7)) := by
    rw [Checked, serialCrc8_eq, hsplit, checkedBytes_append (by simp), crc8, List.foldl_append] at hcrc
    exact eq_of_docrc8_eq_zero hcrc
  have hfirst : rom.toList.take 7 = rom'.toList.take 7 := by
    refine bits_inj.mp ?_
    rw [bits_take, bits_take]
    exact ht
  refine Vector.toList_inj.mp ?_
  rw [hsplit rom, hsplit rom', hlast rom h, hlast rom' h', hfirst]

-- So the numbers of two devices part before their last bytes.
theorem discrepancy_le {ws : List Word} {w : Word}
    (h : ∀ v ∈ ws, ∃ rom, Checked rom ∧ romBits rom = v) (hw : w ∈ ws) : discrepancy ws w ≤ 56 := by
  by_contra hd
  have ⟨v, hv, hne, htake⟩ := exists_of_discrepancy
    (Nat.sub_add_cancel (show 1 ≤ discrepancy ws w by omega)).symm
  obtain ⟨rom, hrom, rfl⟩ := h w hw
  obtain ⟨rom', hrom', rfl⟩ := h v hv
  refine hne <| congrArg romBits <| hrom'.eq hrom ?_
  have htake := congrArg (List.take 56) htake
  rwa [List.take_take, List.take_take, Nat.min_eq_left (by omega)] at htake

theorem romBits_inj {rom' : SerialNum} (h : romBits rom = romBits rom') : rom = rom' :=
  Vector.toList_inj.mp <| bits_inj.mp h

-- The state of a search that has found a device.
structure Found (s : SearchState) (rom : SerialNum) (d : Nat) : Prop where
  serialNum       : s.serialNum = rom
  lastDiscrepancy : s.lastDiscrepancy = d
  lastDevice      : s.lastDevice = decide (d = 0)

def Bus.Checked (bus : Bus σ) : Prop :=
  ∀ d ∈ bus.devices, Link.Checked d.1

def Bus.Registered (bus : Bus σ) : Prop :=
  ∀ d ∈ bus.devices, Link.Registered d.1

theorem Bus.Registered.checked (h : bus.Registered) : bus.Checked :=
  fun d hd => (h d hd).crc

-- What responds is the number of a device.
theorem exists_of_mem_responding {C : SerialNum → Prop} (h : ∀ d ∈ bus.devices, C d.1) :
    ∀ w ∈ bus.responding alarmOnly, ∃ rom, C rom ∧ romBits rom = w := by
  simp only [Bus.responding, List.mem_map, List.mem_filter]
  rintro _ ⟨d, ⟨hd, _⟩, rfl⟩
  exact ⟨d.1, h d hd, rfl⟩

theorem length_of_mem_responding : ∀ w ∈ bus.responding alarmOnly, w.length = 64 := by
  simp only [Bus.responding, List.mem_map]
  rintro _ ⟨d, _, rfl⟩
  exact length_romBits

theorem uniform_responding {w : Word} (hw : w ∈ bus.responding alarmOnly) :
    Uniform 64 (bus.responding alarmOnly) where
  nonempty := ⟨w, hw⟩
  length   := length_of_mem_responding

theorem responding_eq (h : bus'.devices = bus.devices) :
    bus'.responding alarmOnly = bus.responding alarmOnly := by
  rw [Bus.responding, h, Bus.responding]

theorem Bus.Registered.congr (h : bus.Registered) (he : bus'.devices = bus.devices) :
    bus'.Registered := by
  rwa [Registered, he]

theorem mem_responding : romBits rom ∈ bus.responding false ↔ rom ∈ bus.map Slave.rom := by
  simp only [Bus.responding, Bus.devices, Bool.not_false, Bool.true_or, List.filter_true, List.mem_map]
  constructor
  case mp  => rintro ⟨_, ⟨d, hd, rfl⟩, h⟩; exact ⟨d, hd, romBits_inj h⟩
  case mpr => rintro ⟨d, hd, rfl⟩; exact ⟨_, ⟨d, hd, rfl⟩, rfl⟩

-- The numbers of the devices in the order in which they are found.
structure InSearchOrder (bus : Bus σ) (found : List SerialNum) : Prop where
  perm   : found.Perm (bus.map Slave.rom)
  sorted : (found.map romBits).Pairwise Before

def romOf (w : Word) : SerialNum :=
  ⟨(bytes 8 w).toArray, length_bytes⟩

theorem romBits_romOf {w : Word} (h : w.length = 64) : romBits (romOf w) = w :=
  bits_bytes h

theorem exists_inSearchOrder (hn : (bus.map Slave.rom).Nodup) :
    ∃ found, InSearchOrder bus found ∧ found.map romBits = inOrder 64 (bus.responding false) := by
  have hmem (w : Word) : w ∈ inOrder 64 (bus.responding false) ↔ w ∈ bus.responding false :=
    mem_inOrder length_of_mem_responding
  have hpairwise : (inOrder 64 (bus.responding false)).Pairwise Before := pairwise_inOrder
  generalize inOrder 64 (bus.responding false) = ws at hmem hpairwise
  have hbits : (ws.map romOf).map romBits = ws := by
    rw [List.map_map]
    refine (List.map_congr_left fun w hw => ?_).trans (List.map_id ws)
    exact romBits_romOf <| length_of_mem_responding w <| (hmem w).mp hw
  have hsorted : ((ws.map romOf).map romBits).Pairwise Before := hbits.symm ▸ hpairwise
  have hnodup : (ws.map romOf).Nodup :=
    (List.pairwise_map.mp hsorted).imp fun h he => by rw [he] at h; exact h.irrefl
  refine ⟨_, ⟨(List.perm_ext_iff_of_nodup hnodup hn).mpr fun rom => ?_, hsorted⟩, hbits⟩
  rw [← mem_responding, ← hmem]
  constructor
  case mp  => exact fun h => hbits ▸ List.mem_map_of_mem h
  case mpr =>
    intro h
    rw [← hbits] at h
    have ⟨rom', h', he⟩ := List.mem_map.mp h
    exact romBits_inj he ▸ h'

variable [Circuit σ]

-- The response of the adapter is what the walk down the numbers of the devices shows.
theorem searchBus_onBus (h : ∀ bus' : Bus σ, OnBus slaves (checkResponse
      (searchCommand alarmOnly :: bytes 16 (pairBits (bus.walk alarmOnly s)))) s bus' x s' bus') :
    ∃ bus', OnBus slaves (searchBus alarmOnly) s (slaves.reset bus).2 x s' bus' ∧
      bus'.devices = bus.devices := by
  let started := bus.inPhase fun d => d.start (searchCommand alarmOnly)
  let rs := slaves.accelerate started (directions s.lastDiscrepancy (romBits s.serialNum))
  have hwalk : rs.1 = bus.walk alarmOnly s := by
    have hsearches : ∀ d ∈ started, d.Searches
        (directions s.lastDiscrepancy (romBits s.serialNum)).length := by
      rw [length_directions, length_romBits]
      exact searches_start
    rw [Bus.walk, ← words_start]
    exact accelerate_eq_walk hsearches
  refine ⟨rs.2, ?_, devices_accelerate.trans devices_inPhase⟩
  rintro p a hp rfl hb
  have hc : searchCommand alarmOnly ≠ modeCommand := by cases alarmOnly <;> decide
  have hfeed := (feed_data hp).trans <|
    @feed_searchPacket _ slaves { a with mode := .data, out := [] } _ p.search rfl hp.search hc
  dsimp only at hfeed
  rw [hb, touchByte_reset, ← hb, ← hp.speed] at hfeed
  have hout : (searchCommand alarmOnly :: bytes 16 (pairBits rs.1)).length = 17 := by simp
  let v : Vector UInt8 17 := ⟨(searchCommand alarmOnly :: bytes 16 (pairBits rs.1)).toArray, hout⟩
  have hv : v.toList = searchCommand alarmOnly :: bytes 16 (pairBits (bus.walk alarmOnly p.search)) := by
    rw [← hwalk]
    rfl
  have ⟨p', a', hr, hp', hs', hb'⟩ := h rs.2 { p with uMode := .modSelCommand }
    { a with mode := .command, out := [], bus := rs.2 } ⟨rfl, hp.search, hp.level, hp.speed⟩ rfl rfl
  rw [← hv] at hr
  exact ⟨p', a', .bind changeMode_runs <| .bind .load <| .bind .update <|
    .bind (exchange_runs (v := v) hfeed rfl) hr, hp', hs', hb'⟩

theorem setSearch_onBus {f : SearchState → SearchState} :
    OnBus slaves (setSearch f) s bus () (f s) bus := by
  rintro p a hp rfl hb
  exact ⟨_, a, .update, ⟨hp.mode, hp.search, hp.level, hp.speed⟩, rfl, hb⟩

theorem checkResponse_onBus {r : List (Bool × Bool)} {c : UInt8} (hr : r.length = 64)
    (hrom : word r = romBits rom) (h : Registered rom) (hd : s.lastDiscrepancy ≠ 63)
    (hl : s.lastDevice = false) : ∃ s', Found s' rom (lastZero r) ∧
      ∀ bus : Bus σ, OnBus slaves (checkResponse (c :: bytes 16 (pairBits r))) s bus true s' bus := by
  let t := (List.range 64).foldl (interpret (bytes 16 (pairBits r)))
    { tmpSerialNum          := .replicate 8 0
      lastZero              := 0
      lastFamilyDiscrepancy := s.lastFamilyDiscrepancy }
  have hbits : bits (bytes 16 (pairBits r)) = pairBits r := bits_bytes (by simp [hr])
  have ⟨hserial, hzero⟩ := @interpret_eq _ r ⟨.replicate 8 0, 0, s.lastFamilyDiscrepancy⟩ rfl hr hbits
  have htmp : t.tmpSerialNum = rom := romBits_inj <| hserial.trans hrom
  have hcrc : serialCrc8 rom = 0 := h.crc
  refine ⟨⟨t.lastZero, t.lastFamilyDiscrepancy, if t.lastZero = 0 then true else s.lastDevice,
    t.tmpSerialNum⟩, ⟨htmp, hzero, ?_⟩, fun bus => ?_⟩
  case refine_1 =>
    rw [hl, show t.lastZero = lastZero r from hzero]
    split <;> simp_all
  case refine_2 =>
    rintro p a hp rfl hb
    have hcheck : ¬(serialCrc8 t.tmpSerialNum ≠ 0 ∨ p.search.lastDiscrepancy = 63 ∨
        t.tmpSerialNum[0] = 0) := by
      rw [htmp, hcrc]
      simp [hd, h.family]
    refine ⟨_, a, .bind .load <| .ite_neg hcheck <| .bind .update .pure, ?_, rfl, hb⟩
    exact ⟨hp.mode, hp.search, hp.level, hp.speed⟩

-- The search has found the devices up to `rom`, and those behind it are left.
structure Reached (ws : List Word) (s : SearchState) (pre : List Word) (rom : SerialNum)
    (post : List Word) : Prop where
  inOrder : inOrder 64 ws = pre ++ romBits rom :: post
  found   : Found s rom (discrepancy ws (romBits rom))

-- A turn of the search finds the device that the walk leads to.
theorem searchBus_finds {w : Word} (hv : bus.Registered) (hw : w ∈ bus.responding alarmOnly)
    (hd : s.lastDiscrepancy ≠ 63) (hl : s.lastDevice = false) : ∃ s' bus' rom,
      OnBus slaves (searchBus alarmOnly) s (slaves.reset bus).2 true s' bus' ∧
        bus'.devices = bus.devices ∧ romBits rom = word (bus.walk alarmOnly s) ∧
        Found s' rom (discrepancy (bus.responding alarmOnly) (romBits rom)) := by
  have hlength : (directions s.lastDiscrepancy (romBits s.serialNum)).length = 64 := by simp
  have hu : Uniform (directions s.lastDiscrepancy (romBits s.serialNum)).length
      (bus.responding alarmOnly) := hlength ▸ uniform_responding hw
  have ⟨rom, hrom, hbits⟩ := exists_of_mem_responding hv _ (word_walk_mem hu)
  have ⟨s', hf, hcheck⟩ := @checkResponse_onBus σ _ _ _ _ (searchCommand alarmOnly)
    (length_walk.trans hlength) hbits.symm hrom hd hl
  have ⟨bus', hbus, hdevices⟩ := searchBus_onBus hcheck
  refine ⟨s', bus', rom, hbus, hdevices, hbits, ?_⟩
  rwa [lastZero_walk hu, ← hbits] at hf

theorem reset_of_mem_responding {w : Word} (hw : w ∈ bus.responding alarmOnly) :
    (slaves.reset bus).1 := by
  cases bus
  case nil  => cases hw
  case cons => rfl

theorem owNext_onBus {x : Bool} (hl : s.lastDevice = false) (hr : (slaves.reset bus).1)
    (h : OnBus slaves (searchBus alarmOnly) s (slaves.reset bus).2 x s' bus') :
    OnBus slaves (owNext true alarmOnly) s bus x s' bus' := by
  refine .load_bind fun p hp => .ite_neg ?_ <| .ite_pos rfl <| .bind (owTouchReset_onBus hr) <|
    .ite_pos rfl h
  rw [hp, hl]
  exact Bool.false_ne_true

theorem owNext_onBus_of_last (hl : s.lastDevice) :
    OnBus slaves (owNext true alarmOnly) s bus false s.reset bus := by
  refine .load_bind fun p hp => .ite_pos ?_ <| .bind setSearch_onBus .pure
  rwa [hp]

-- The first device that is found is the first one in order.
theorem owFirst_finds {v : Word} {post : List Word} (hv : bus.Registered)
    (hs : inOrder 64 (bus.responding alarmOnly) = v :: post) : ∃ s' bus' rom,
      OnBus slaves (owFirst true alarmOnly) s bus true s' bus' ∧ bus'.devices = bus.devices ∧
        Reached (bus.responding alarmOnly) s' [] rom post := by
  have hmem : v ∈ bus.responding alarmOnly :=
    (mem_inOrder length_of_mem_responding).mp <| hs ▸ .head _
  have ⟨s', bus', rom, h, hdevices, hbits, hf⟩ := searchBus_finds (s := s.reset) hv hmem
    (by decide : (0 : Nat) ≠ 63) rfl
  have hdirections : directions s.reset.lastDiscrepancy (romBits s.reset.serialNum) = zeros 64 := by
    rw [SearchState.reset, directions_zero, length_romBits]
  have hword : romBits rom = v := by
    rw [hbits, Bus.walk, hdirections]
    exact word_walk_zeros_eq_head (uniform_responding hmem) hs
  refine ⟨s', bus', rom, .bind setSearch_onBus <| owNext_onBus rfl (reset_of_mem_responding hmem) h,
    hdevices, ?_, hf⟩
  rw [hs, hword, List.nil_append]

theorem owFirst_onBus_of_absent :
    OnBus slaves (owFirst true alarmOnly) s ([] : Bus σ) false s.reset [] := by
  have habsent : OnBus slaves owTouchReset s.reset ([] : Bus σ) false s.reset [] :=
    owTouchReset_onBus_of_absent nofun
  refine .bind setSearch_onBus <| .load_bind fun p hp => .ite_neg ?_ <| .ite_pos rfl <|
    .bind habsent <| .ite_neg Bool.false_ne_true <| .bind setSearch_onBus .pure
  rw [hp]
  exact Bool.false_ne_true

-- Each of the others is found behind the one before it.
theorem owNext_finds {v : Word} {pre post : List Word} (hv : bus.Registered)
    (h : Reached (bus.responding alarmOnly) s pre rom (v :: post)) : ∃ s' bus' rom',
      OnBus slaves (owNext true alarmOnly) s bus true s' bus' ∧ bus'.devices = bus.devices ∧
        Reached (bus.responding alarmOnly) s' (pre ++ [romBits rom]) rom' post := by
  have hmem : romBits rom ∈ bus.responding alarmOnly :=
    (mem_inOrder length_of_mem_responding).mp <| by simp [h.inOrder]
  have hd := discrepancy_le (exists_of_mem_responding hv.checked) hmem
  rcases walk_in_order (uniform_responding hmem) h.inOrder with ⟨_, hnil⟩ | ⟨hne, post', hpost⟩
  case inl => cases hnil
  case inr =>
    have hl : s.lastDevice = false := by rw [h.found.lastDevice, decide_eq_false hne]
    have hne63 : s.lastDiscrepancy ≠ 63 := by
      rw [h.found.lastDiscrepancy]
      omega
    have ⟨s', bus', rom', hbus, hdevices, hbits, hf⟩ := searchBus_finds hv hmem hne63 hl
    rw [Bus.walk, h.found.lastDiscrepancy, h.found.serialNum] at hbits
    refine ⟨s', bus', rom', owNext_onBus hl (reset_of_mem_responding hmem) hbus, hdevices, ?_, hf⟩
    rw [h.inOrder, hpost, ← hbits, (List.cons.inj hpost).right, List.append_assoc,
      List.singleton_append]

theorem Reached.lastDevice {ws : List Word} {pre : List Word} (h : Reached ws s pre rom [])
    (hu : Uniform 64 ws) : s.lastDevice := by
  rcases walk_in_order hu h.inOrder with ⟨hd, _⟩ | ⟨_, post', hpost⟩
  case inl => rw [h.found.lastDevice, decide_eq_true hd]
  case inr => cases hpost

theorem owSerialNumRead_onBus : OnBus slaves owSerialNumRead s bus s.serialNum s bus :=
  .load_bind fun _ hp => hp ▸ .pure

theorem take_concat {α : Type} {l : List α} {x : α} {n : Nat} :
    (l ++ [x]).take n = if l.length + 1 ≤ n then l.take n ++ [x] else l.take n := by
  split
  case isTrue h =>
    rw [List.take_of_length_le (by rwa [List.length_append]), List.take_of_length_le (by omega)]
  case isFalse h => exact List.take_append_of_le_length (by omega)

-- A turn of the loop with a device that has been found.
theorem findAllDevices_onBus {maxNumAddresses : UInt8} {fuel n : Nat} {addresses : List SerialNum}
    {x : Bool} {r : Option (UInt8 × List SerialNum)} {s₁ : SearchState} {bus₁ : Bus σ}
    (hn : n + 1 < 256) (hnext : OnBus slaves (owNext true false) s bus x s₁ bus₁)
    (h : OnBus slaves (findAllDevices maxNumAddresses fuel x (.ofNat (n + 1))
      (if n + 1 ≤ maxNumAddresses.toNat then addresses ++ [s.serialNum] else addresses)) s₁ bus₁
        r s' bus') :
    OnBus slaves (findAllDevices maxNumAddresses (fuel + 1) true (.ofNat n) addresses) s bus r s' bus' := by
  have hcount : UInt8.ofNat n + 1 = .ofNat (n + 1) := by simp
  have hle : (UInt8.ofNat (n + 1) ≤ maxNumAddresses) = (n + 1 ≤ maxNumAddresses.toNat) := by
    rw [UInt8.le_iff_toNat_le, UInt8.toNat_ofNat', Nat.mod_eq_of_lt hn]
  rw [findAllDevices]
  refine .ite_pos rfl <| .bind owSerialNumRead_onBus <| .bind hnext ?_
  rw [hcount]
  simp only [hle]
  exact h

-- The rest of the search finds the rest of the devices.
theorem findAllDevices_finds {maxNumAddresses : UInt8} {pre post : List Word} {fuel : Nat}
    {addresses : List SerialNum} (hv : bus.Registered)
    (h : Reached (bus.responding false) s pre rom post) (hfuel : post.length + 1 < fuel)
    (hfew : pre.length + 1 + post.length < 256)
    (haddresses : addresses.map romBits = pre.take maxNumAddresses.toNat) :
    ∃ found s' bus', OnBus slaves
        (findAllDevices maxNumAddresses fuel true (.ofNat pre.length) addresses) s bus
        (some (.ofNat (pre.length + 1 + post.length), found)) s' bus' ∧
      found.map romBits = (pre ++ romBits rom :: post).take maxNumAddresses.toNat ∧
      bus'.devices = bus.devices := by
  have hconcat (pre : List Word) (rom : SerialNum) (addresses : List SerialNum)
      (h : addresses.map romBits = pre.take maxNumAddresses.toNat) :
      (if pre.length + 1 ≤ maxNumAddresses.toNat then addresses ++ [rom] else addresses).map romBits =
        (pre ++ [romBits rom]).take maxNumAddresses.toNat := by
    rw [take_concat, ← h]
    split <;> simp
  induction post generalizing s bus pre rom fuel addresses
  case nil =>
    obtain ⟨fuel, rfl⟩ : ∃ f, fuel = f + 2 := ⟨fuel - 2, by simp at hfuel; omega⟩
    have hmem : romBits rom ∈ bus.responding false :=
      (mem_inOrder length_of_mem_responding).mp <| by simp [h.inOrder]
    have hlast := h.lastDevice (uniform_responding hmem)
    refine ⟨_, _, _, findAllDevices_onBus (by omega) (owNext_onBus_of_last hlast)
      (.ite_neg Bool.false_ne_true .pure), ?_, rfl⟩
    rw [h.found.serialNum]
    exact hconcat _ _ _ haddresses
  case cons v post hi =>
    rw [List.length_cons] at hfuel hfew
    obtain ⟨fuel, rfl⟩ : ∃ f, fuel = f + 1 := ⟨fuel - 1, by omega⟩
    have ⟨s₁, bus₁, rom', hnext, hdevices, hreached⟩ := owNext_finds hv h
    have hsame := h.inOrder.symm.trans hreached.inOrder
    rw [← responding_eq hdevices] at hreached
    have hlength : (pre ++ [romBits rom]).length = pre.length + 1 := by simp
    have ⟨found, s', bus', hrest, hfound, hdevices'⟩ := hi (hv.congr hdevices) hreached
      (show post.length + 1 < fuel by omega) (by omega) (hconcat _ rom _ haddresses)
    rw [hlength, ← h.found.serialNum] at hrest
    refine ⟨found, s', bus', ?_, ?_, hdevices'.trans hdevices⟩
    case refine_1 =>
      have hcount : pre.length + 1 + (v :: post).length = pre.length + 1 + 1 + post.length := by
        rw [List.length_cons]
        omega
      rw [hcount]
      exact findAllDevices_onBus (by omega) hnext hrest
    case refine_2 => rw [hfound, hsame]

-- All devices are found once, and as many of them as there is place for are stored.
theorem oneWireFindAllDevices_finds {maxNumAddresses : UInt8} {fuel : Nat} (hv : bus.Registered)
    (hn : (bus.map Slave.rom).Nodup) (hfew : bus.length < 256) (hfuel : bus.length < fuel) :
    ∃ found s' bus', InSearchOrder bus found ∧ bus'.devices = bus.devices ∧
      OnBus slaves (oneWireFindAllDevices fuel maxNumAddresses) s bus
        (some (.ofNat bus.length, found.take maxNumAddresses.toNat)) s' bus' := by
  have ⟨found, hfound, hbits⟩ := exists_inSearchOrder hn
  have hlength : found.length = bus.length := by rw [hfound.perm.length_eq, List.length_map]
  rcases found with _ | ⟨rom, found⟩
  case nil =>
    obtain rfl : bus = [] := List.length_eq_zero_iff.mp hlength.symm
    obtain ⟨fuel, rfl⟩ : ∃ f, fuel = f + 1 := ⟨fuel - 1, by simp at hfuel; omega⟩
    refine ⟨[], s.reset, [], hfound, rfl, .bind owFirst_onBus_of_absent ?_⟩
    rw [List.take_nil]
    exact .ite_neg Bool.false_ne_true .pure
  case cons =>
    have ⟨s₁, bus₁, rom', hfirst, hdevices, hreached⟩ := owFirst_finds (s := s) hv hbits.symm
    have hsame := hbits.trans hreached.inOrder
    rw [← responding_eq hdevices] at hreached
    rw [List.length_cons] at hlength
    have hnil : ([] : List SerialNum).map romBits = List.take maxNumAddresses.toNat [] := by simp
    have hfuel : (found.map romBits).length + 1 < fuel := by rwa [List.length_map, hlength]
    have ⟨stored, s', bus', hrest, hstored, hdevices'⟩ := findAllDevices_finds (hv.congr hdevices)
      hreached hfuel (by rw [List.length_map, List.length_nil]; omega) hnil
    rw [← hsame, ← List.map_take] at hstored
    obtain rfl := List.map_injective_iff.mpr (fun _ _ => romBits_inj) hstored
    refine ⟨_, s', bus', hfound, hdevices'.trans hdevices, .bind hfirst ?_⟩
    have hcount : ([] : List Word).length + 1 + (found.map romBits).length = bus.length := by
      rw [List.length_map, List.length_nil]
      omega
    rw [hcount] at hrest
    exact hrest

-- A device that does nothing but listen.
instance recorder : Circuit (List Bool) where
  begins _         := []
  sends _          := true
  takes x received := received ++ [x]

def twoDevices : Bus (List Bool) := [
  ⟨#v[0x29, 2, 0, 0, 0, 0, 0, 77], false, .idle, []⟩,
  ⟨#v[0x29, 1, 0, 0, 0, 0, 0, 20], true, .idle, []⟩]

theorem registered_twoDevices : twoDevices.Registered := by
  intro d hd
  rcases List.mem_cons.mp hd with rfl | hd
  case inl => constructor <;> decide
  case inr =>
    obtain rfl := List.mem_singleton.mp hd
    constructor <;> decide

theorem oneWireFindAllDevices_finds_twoDevices :
    ∃ found s' bus', InSearchOrder twoDevices found ∧ bus'.devices = twoDevices.devices ∧
      OnBus slaves (oneWireFindAllDevices 3 1) Port.initial.search twoDevices
        (some (2, found.take 1)) s' bus' :=
  oneWireFindAllDevices_finds registered_twoDevices (by decide) (by decide) (by decide)

end RoboOne.OneWire.Link
