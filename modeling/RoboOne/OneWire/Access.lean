import RoboOne.OneWire.Session
import Mathlib.Data.List.Nodup

namespace RoboOne.OneWire.Link

open Interaction BitBuffer Search

def owAccess : LinkProgram Bool := do
  if ← owTouchReset then
    let serialNum := (← load).search.serialNum
    match ← owBlock false (0x55 :: serialNum.toList) with
    | some sendpacket => return sendpacket.toList = 0x55 :: serialNum.toList
    | none            => return false
  else
    return false

-- The calls of the functions for the devices, made over the line.
def busProgram : (c : BusCall) → LinkProgram c.Answer
  | .owAccess             => owAccess
  | .owBlock tranBuf      => owBlock false tranBuf
  | .owWriteByte sendbyte => owWriteByte sendbyte
  | .owReadByte           => owReadByte

variable {σ : Type} [Circuit σ] {bus : Bus σ} {d : Slave σ} {rom : SerialNum} {x : Bool} {xs : Word}
  {n : Nat} {s : SearchState} {content : σ}

-- A device compares its number with the one that is sent, or has found it to be another one.
def Slave.Matches (n : Nat) (d : Slave σ) : Prop :=
  d.phase = .idle ∨ ∃ w, d.phase = .matchRom w ∧ w.length = n

def Slave.compared (xs : Word) (d : Slave σ) : Slave σ :=
  match d.phase with
  | .matchRom w => if w = xs then d.select else { d with phase := .idle }
  | _           => d

theorem takes_matchRom {b c : Bool} {w : Word} (h : d.phase = .matchRom (b :: c :: w)) :
    d.takes x = { d with phase := if b = x then .matchRom (c :: w) else .idle } := by
  rw [Slave.takes, h]
  by_cases hb : b = x
  case pos => simp [hb]
  case neg => simp [hb]

theorem Slave.Matches.takes {y : Bool} {ys : Word} (h : d.Matches (ys.length + 2)) :
    (d.takes x).Matches (ys.length + 1) ∧
      (d.takes x).compared (y :: ys) = d.compared (x :: y :: ys) := by
  rcases h with hp | ⟨w, hp, hw⟩
  case inl =>
    have htakes : d.takes x = d := by rw [Slave.takes, hp]
    rw [htakes, Slave.compared, Slave.compared, hp]
    exact ⟨.inl hp, rfl⟩
  case inr =>
    obtain ⟨b, w', hcons⟩ := List.exists_cons_of_length_eq_add_one hw
    subst hcons
    obtain ⟨c, w'', hcons⟩ := List.exists_cons_of_length_eq_add_one <| Nat.succ.inj hw
    subst hcons
    rw [takes_matchRom hp, Slave.compared, Slave.compared, hp]
    by_cases hb : b = x
    case pos => exact ⟨.inr ⟨c :: w'', by simp [hb], Nat.succ.inj hw⟩, by simp [hb, Slave.select]⟩
    case neg => exact ⟨.inl <| by simp [hb], by simp [hb]⟩

theorem Slave.Matches.takes_last (h : d.Matches 1) : d.takes x = d.compared [x] := by
  rw [Slave.takes, Slave.compared]
  rcases h with hp | ⟨w, hp, hw⟩
  case inl => rw [hp]
  case inr =>
    obtain ⟨b, hb⟩ := List.length_eq_one_iff.mp hw
    subst hb
    rw [hp]
    by_cases he : b = x
    case pos => simp [he]
    case neg => simp [he]

theorem touchBits_matchRom (h : ∀ d ∈ bus, d.Matches xs.length) (hx : xs ≠ []) :
    slaves.touchBits bus xs = (xs, bus.map (Slave.compared xs)) := by
  induction xs generalizing bus
  case nil => exact absurd rfl hx
  case cons x xs hi =>
    have hsilent : ∀ d ∈ bus, d.sends := by
      intro d hd
      rw [Slave.sends]
      rcases h d hd with hp | ⟨w, hp, _⟩ <;> rw [hp]
    rw [Wire.touchBits, touch_of_silent hsilent]
    rcases xs with _ | ⟨y, ys⟩
    case nil =>
      exact congrArg ([x], ·) <| List.map_congr_left fun d hd => (h d hd).takes_last
    case cons =>
      have hnext : ∀ d ∈ bus.map (Slave.takes x), d.Matches (ys.length + 1) := by
        simp only [List.mem_map]
        rintro _ ⟨d, hd, rfl⟩
        exact ((h d hd).takes (y := y)).left
      dsimp only
      rw [hi hnext (List.cons_ne_nil _ _), List.map_map]
      exact congrArg (x :: y :: ys, ·) <| List.map_congr_left fun d hd => (h d hd).takes.right

-- What an access makes of the bus.
def Bus.accessed (rom : SerialNum) (bus : Bus σ) : Bus σ :=
  bus.map fun d => if d.rom = rom then d.select else { d with phase := .idle }

theorem touchBytes_access : slaves.touchBytes (slaves.reset bus).2 (matchCommand :: rom.toList) =
    (matchCommand :: rom.toList, bus.accessed rom) := by
  have hmatches : ∀ d ∈ bus.inPhase fun d => d.start matchCommand, d.Matches (romBits rom).length := by
    simp only [Bus.inPhase, List.mem_map]
    rintro _ ⟨d, _, rfl⟩
    exact .inr ⟨romBits d.rom, rfl, by rw [length_romBits, length_romBits]⟩
  have hne : romBits rom ≠ [] := List.ne_nil_of_length_pos (by rw [length_romBits]; decide)
  have hbits := touchBits_matchRom hmatches hne
  obtain ⟨hread, hbus⟩ := @Wire.touchBytes_eq _ slaves rom.toList (bus.inPhase fun d => d.start matchCommand)
  rw [← romBits, hbits] at hread hbus
  rw [Wire.touchBytes, touchByte_reset]
  dsimp only
  rw [hbus, bits_inj.mp hread, Bus.accessed, Bus.inPhase, List.map_map]
  refine congrArg (_, ·) <| List.map_congr_left fun d _ => ?_
  change (if romBits d.rom = romBits rom then _ else _) = _
  by_cases h : d.rom = rom
  case pos => rw [if_pos (congrArg romBits h), if_pos h]; rfl
  case neg => rw [if_neg fun he => h (romBits_inj he), if_neg h]

theorem owAccess_onBus (h : bus ≠ []) :
    OnBus slaves owAccess s bus true s (bus.accessed s.serialNum) := by
  have hfits : Fits (matchCommand :: s.serialNum.toList) :=
    fits_of_length_le (by rw [List.length_cons, Vector.length_toList]; decide)
  have hr : (slaves.reset bus).1 := by
    cases bus
    case nil  => exact absurd rfl h
    case cons => rfl
  have hblock := @owBlock_onBus _ slaves _ s (slaves.reset bus).2 hfits
  have hecho : decide ((touched slaves (slaves.reset bus).2 (matchCommand :: s.serialNum.toList)).toList =
      0x55 :: s.serialNum.toList) = true := by
    rw [touched, Vector.toList_mk, List.toList_toArray, touchBytes_access]
    exact decide_eq_true rfl
  rw [touchBytes_access] at hblock
  refine .bind (owTouchReset_onBus hr) <| .ite_pos rfl <| .load_bind fun p hp => ?_
  rw [hp]
  refine .bind hblock ?_
  dsimp only
  rw [hecho]
  exact .pure

section

variable {β γ : Type} {wire : Wire β} {wire' : Wire γ} {f : γ → β} {c : γ} {b : UInt8} {bs : List UInt8}

-- What is touched on one bus as on another one, is touched so for any number of bits.
theorem Wire.touchBits_map
    (h : ∀ c x, wire.touch (f c) x = ((wire'.touch c x).1, f (wire'.touch c x).2)) :
    wire.touchBits (f c) xs = ((wire'.touchBits c xs).1, f (wire'.touchBits c xs).2) := by
  induction xs generalizing c
  case nil          => rfl
  case cons x xs hi => simp only [touchBits, h, hi]

theorem Wire.touchByte_map
    (h : ∀ c x, wire.touch (f c) x = ((wire'.touch c x).1, f (wire'.touch c x).2)) :
    wire.touchByte (f c) b = ((wire'.touchByte c b).1, f (wire'.touchByte c b).2) := by
  simp only [touchByte, touchBits_map h]

theorem Wire.block_map
    (h : ∀ c x, wire.touch (f c) x = ((wire'.touch c x).1, f (wire'.touch c x).2)) :
    wire.block (f c) bs = ((wire'.block c bs).1, f (wire'.block c bs).2) := by
  have hbytes : wire.touchBytes (f c) bs = ((wire'.touchBytes c bs).1, f (wire'.touchBytes c bs).2) := by
    induction bs generalizing c
    case nil          => rfl
    case cons b bs hi => simp only [touchBytes, touchByte_map h, hi]
  simp only [block, touched, hbytes]

end

-- A device on its own, that has been selected.
def circuit : Wire σ where
  reset content   := (true, Circuit.begins content)
  touch content x :=
    let level := x && Circuit.sends content
    (level, Circuit.takes level content)

-- What it does with the calls.
def respondAlone (content : σ) : (c : BusCall) → c.Answer × σ
  | .owAccess             => circuit.reset content
  | .owBlock tranBuf      => circuit.block content tranBuf
  | .owWriteByte sendbyte => circuit.respond content (.owWriteByte sendbyte)
  | .owReadByte           => circuit.respond content .owReadByte

def Transferable : BusCall → Prop
  | .owBlock tranBuf => Fits tranBuf
  | _                => True

-- The device with a number is the only one that is selected.
def Bus.addressing (rom : SerialNum) (bus : Bus σ) (content : σ) : Bus σ :=
  bus.map fun d =>
    if d.rom = rom then { d with phase := .selected, content := content } else { d with phase := .idle }

theorem touch_addressing (h : rom ∈ bus.map Slave.rom) :
    slaves.touch (bus.addressing rom content) x =
      ((circuit.touch content x).1, bus.addressing rom (circuit.touch content x).2) := by
  have hall : (bus.addressing rom content).all Slave.sends = Circuit.sends content := by
    rw [Bool.eq_iff_iff, List.all_eq_true]
    simp only [Bus.addressing, List.mem_map, forall_exists_index, and_imp, forall_apply_eq_imp_iff₂]
    have ⟨d, hd, hrom⟩ := List.mem_map.mp h
    constructor
    case mp =>
      intro hall
      have hd := hall d hd
      rwa [if_pos hrom] at hd
    case mpr =>
      intro hs d _
      by_cases hr : d.rom = rom
      case pos => rwa [if_pos hr]
      case neg => rw [if_neg hr, Slave.sends]
  simp only [slaves, hall]
  refine congrArg (_, ·) ?_
  rw [Bus.addressing, List.map_map]
  refine List.map_congr_left fun d _ => ?_
  by_cases hr : d.rom = rom
  case pos => simp [hr, Slave.takes, circuit]
  case neg => simp [hr, Slave.takes]

theorem accessed_addressing :
    (bus.addressing rom content).accessed rom = bus.addressing rom (Circuit.begins content) := by
  rw [Bus.accessed, Bus.addressing, List.map_map]
  refine List.map_congr_left fun d _ => ?_
  by_cases hr : d.rom = rom
  case pos => simp [hr, Slave.select]
  case neg => simp [hr]

theorem accessed_of_nodup (hd : d ∈ bus) (hn : (bus.map Slave.rom).Nodup) :
    bus.accessed d.rom = bus.addressing d.rom (Circuit.begins d.content) := by
  refine List.map_congr_left fun d' hd' => ?_
  by_cases hr : d'.rom = d.rom
  case pos =>
    obtain rfl := List.inj_on_of_nodup_map hn hd' hd hr
    rw [if_pos rfl, if_pos rfl, Slave.select]
  case neg => rw [if_neg hr, if_neg hr]

-- Each call does to the bus what it does to the device on its own.
theorem busProgram_onBus {c : BusCall} (hr : s.serialNum ∈ bus.map Slave.rom) (hc : Transferable c) :
    OnBus slaves (busProgram c) s (bus.addressing s.serialNum content) (respondAlone content c).1 s
      (bus.addressing s.serialNum (respondAlone content c).2) := by
  have htouch (content : σ) (x : Bool) := @touch_addressing _ _ _ _ x content hr
  have hbyte (b : UInt8) : OnBus slaves (owTouchByte b) s (bus.addressing s.serialNum content)
      (circuit.touchByte content b).1 s
      (bus.addressing s.serialNum (circuit.touchByte content b).2) := by
    have hbyte := @owTouchByte_onBus _ slaves b s (bus.addressing s.serialNum content)
    rwa [Wire.touchByte_map htouch] at hbyte
  cases c
  case owAccess =>
    have hne : bus.addressing s.serialNum content ≠ [] := by
      have ⟨d, hd, _⟩ := List.mem_map.mp hr
      exact List.ne_nil_of_mem (List.mem_map_of_mem hd)
    have haccess := owAccess_onBus (s := s) hne
    rwa [accessed_addressing] at haccess
  case owBlock tranBuf =>
    have hblock : OnBus slaves (owBlock false tranBuf) s (bus.addressing s.serialNum content)
        (slaves.block (bus.addressing s.serialNum content) tranBuf).1 s
        (slaves.block (bus.addressing s.serialNum content) tranBuf).2 := owBlock_onBus hc
    rwa [Wire.block_map htouch] at hblock
  case owWriteByte sendbyte => exact .bind (hbyte sendbyte) .pure
  case owReadByte           => exact hbyte 0xFF

-- On a bus with other devices, a device that is accessed does with the calls what it would do on its own,
-- and the others take nothing of it.
theorem performAll_owAccess {cs : List BusCall} (hd : d ∈ bus) (hn : (bus.map Slave.rom).Nodup)
    (hc : ∀ c ∈ cs, Transferable c) :
    OnBus slaves (do owSerialNumWrite d.rom; performAll busProgram (.owAccess :: cs)) s bus
      (replies respondAlone d.content (.owAccess :: cs)) { s with serialNum := d.rom }
      (bus.addressing d.rom (after respondAlone d.content
        (replies respondAlone d.content (.owAccess :: cs)))) := by
  have haccess := owAccess_onBus (s := { s with serialNum := d.rom }) (List.ne_nil_of_mem hd)
  rw [accessed_of_nodup hd hn] at haccess
  have hcalls := OnBus.performAll (f := bus.addressing d.rom) (d := Circuit.begins d.content)
    (fun _ _ => @busProgram_onBus _ _ _ { s with serialNum := d.rom } _ _ (List.mem_map_of_mem hd)) hc
  exact .bind setSearch_onBus <| .bind haccess <| .bind hcalls .pure

theorem performAll_owAccess_twoDevices :
    OnBus slaves (do
        owSerialNumWrite #v[0x29, 1, 0, 0, 0, 0, 0, 20]
        performAll busProgram [.owAccess, .owBlock [0xE3, 0x00], .owReadByte])
      Port.initial.search twoDevices
      (replies respondAlone ([] : List Bool) [.owAccess, .owBlock [0xE3, 0x00], .owReadByte])
      { Port.initial.search with serialNum := #v[0x29, 1, 0, 0, 0, 0, 0, 20] }
      (twoDevices.addressing #v[0x29, 1, 0, 0, 0, 0, 0, 20] (after respondAlone ([] : List Bool)
        (replies respondAlone ([] : List Bool) [.owAccess, .owBlock [0xE3, 0x00], .owReadByte]))) :=
  performAll_owAccess (d := ⟨#v[0x29, 1, 0, 0, 0, 0, 0, 20], true, .idle, []⟩) (.tail _ (.head _))
    (by decide) (by simp [Transferable, fits_of_length_le])

-- What comes back if no device answers.
def echo : (c : BusCall) → c.Answer
  | .owAccess        => true
  | .owBlock tranBuf => some ⟨tranBuf.toArray, rfl⟩
  | .owWriteByte _   => true
  | .owReadByte      => (0xFF : UInt8)

theorem accessed_of_absent (h : rom ∉ bus.map Slave.rom) :
    bus.accessed rom = bus.inPhase fun _ => .idle := by
  refine List.map_congr_left fun d hd => if_neg fun hr => h ?_
  exact List.mem_map.mpr ⟨d, hd, hr⟩

theorem touchBits_idle : slaves.touchBits (bus.inPhase fun _ => .idle) xs =
    (xs, bus.inPhase fun _ => .idle) := by
  have hsilent : ∀ d ∈ bus.inPhase fun _ => .idle, d.sends := by
    simp only [Bus.inPhase, List.mem_map]
    rintro _ ⟨d, _, rfl⟩
    rfl
  induction xs
  case nil          => rfl
  case cons x xs hi =>
    have htakes : (bus.inPhase fun _ => .idle).map (Slave.takes x) = bus.inPhase fun _ => .idle := by
      rw [Bus.inPhase, List.map_map]
      rfl
    rw [Wire.touchBits, touch_of_silent hsilent, htakes, hi]

theorem touchByte_idle {b : UInt8} : slaves.touchByte (bus.inPhase fun _ => .idle) b =
    (b, bus.inPhase fun _ => .idle) := by
  have hbyte : bytes 1 (bits [b]) = [b] := @bytes_bits [b]
  rw [Wire.touchByte, touchBits_idle]
  exact congrArg (·, _) (List.singleton_injective hbyte)

theorem touchBytes_idle {bs : List UInt8} : slaves.touchBytes (bus.inPhase fun _ => .idle) bs =
    (bs, bus.inPhase fun _ => .idle) := by
  induction bs
  case nil          => rfl
  case cons b bs hi => rw [Wire.touchBytes, touchByte_idle, hi]

theorem busProgram_onBus_of_absent {c : BusCall} (hne : bus ≠ [])
    (hr : s.serialNum ∉ bus.map Slave.rom) (hc : Transferable c) :
    OnBus slaves (busProgram c) s (bus.inPhase fun _ => .idle) (echo c) s
      (bus.inPhase fun _ => .idle) := by
  have hbyte (b : UInt8) : OnBus slaves (owTouchByte b) s (bus.inPhase fun _ => .idle) b s
      (bus.inPhase fun _ => .idle) := by
    have hbyte := @owTouchByte_onBus _ slaves b s (bus.inPhase fun _ => .idle)
    rwa [touchByte_idle] at hbyte
  cases c
  case owAccess =>
    have hidle : bus.inPhase (fun _ => .idle) ≠ [] := by simpa [Bus.inPhase] using hne
    have habsent : s.serialNum ∉ (bus.inPhase fun _ => .idle).map Slave.rom := by
      rwa [Bus.inPhase, List.map_map]
    have hsame : (bus.inPhase fun _ => .idle).inPhase (fun _ => .idle) = bus.inPhase fun _ => .idle := by
      rw [Bus.inPhase, Bus.inPhase, List.map_map]
      rfl
    have haccess := owAccess_onBus (s := s) hidle
    rwa [accessed_of_absent habsent, hsame] at haccess
  case owBlock tranBuf =>
    have hblock := @owBlock_onBus _ slaves _ s (bus.inPhase fun _ => .idle) hc
    simp only [touched, touchBytes_idle] at hblock
    exact hblock
  case owWriteByte sendbyte =>
    have hwrite : decide (sendbyte = sendbyte) = true := decide_eq_true rfl
    refine .bind (hbyte sendbyte) ?_
    rw [hwrite]
    exact .pure
  case owReadByte => exact hbyte 0xFF

theorem replies_echo {cs : List BusCall} :
    replies (fun (_ : Unit) c => (echo c, ())) () cs = cs.map fun c => ⟨c, echo c⟩ := by
  induction cs
  case nil          => rfl
  case cons c cs hi => rw [replies, hi, List.map_cons]

-- An access to a device that is not there succeeds as well, as long as there is any device. None of them
-- takes anything then, and what is sent comes back.
theorem performAll_owAccess_of_absent {cs : List BusCall} (hne : bus ≠ [])
    (hr : rom ∉ bus.map Slave.rom) (hc : ∀ c ∈ cs, Transferable c) :
    OnBus slaves (do owSerialNumWrite rom; performAll busProgram (.owAccess :: cs)) s bus
      ((BusCall.owAccess :: cs).map fun c => ⟨c, echo c⟩) { s with serialNum := rom }
      (bus.inPhase fun _ => .idle) := by
  have haccess := owAccess_onBus (s := { s with serialNum := rom }) hne
  rw [accessed_of_absent hr] at haccess
  have hcalls : OnBus slaves (performAll busProgram cs) { s with serialNum := rom }
      (bus.inPhase fun _ => .idle) (replies (fun (_ : Unit) c => (echo c, ())) () cs) _ _ :=
    OnBus.performAll (f := fun _ => bus.inPhase fun _ => .idle)
      (fun _ _ => @busProgram_onBus_of_absent _ _ _ { s with serialNum := rom } _ hne hr) hc
  rw [replies_echo] at hcalls
  exact .bind setSearch_onBus <| .bind haccess <| .bind hcalls .pure

theorem performAll_owAccess_of_absent_twoDevices :
    OnBus slaves (do
        owSerialNumWrite #v[0x29, 3, 0, 0, 0, 0, 0, 0]
        performAll busProgram [.owAccess, .owBlock [0xE3, 0x00], .owReadByte])
      Port.initial.search twoDevices
      [⟨.owAccess, true⟩, ⟨.owBlock [0xE3, 0x00], some #v[0xE3, 0x00]⟩, ⟨.owReadByte, (0xFF : UInt8)⟩]
      { Port.initial.search with serialNum := #v[0x29, 3, 0, 0, 0, 0, 0, 0] }
      (twoDevices.inPhase fun _ => .idle) :=
  performAll_owAccess_of_absent (by decide) (by decide) (by simp [Transferable, fits_of_length_le])

end RoboOne.OneWire.Link
