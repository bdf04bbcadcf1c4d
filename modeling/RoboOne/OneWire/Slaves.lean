import RoboOne.OneWire.Adapter
import RoboOne.Library.Search

namespace RoboOne.OneWire.Link

open BitBuffer Search

-- What a device on the bus is at.
inductive Phase
  | idle
  | romCommand (received : List Bool)
  | sendBit (rest : Word)
  | sendComplement (rest : Word)
  | takeDirection (rest : Word)
  | matchRom (rest : Word)
  | selected
deriving DecidableEq

structure Slave (σ : Type) where
  rom     : SerialNum
  alarm   : Bool
  phase   : Phase
  content : σ
deriving DecidableEq

def romBits (rom : SerialNum) : Word :=
  bits rom.toList

def searchCommand (alarmOnly : Bool) : UInt8 :=
  if alarmOnly then 0xEC else 0xF0

def matchCommand : UInt8 := 0x55

variable {σ : Type}

-- What a device sees to behind a command.
def Slave.start (d : Slave σ) (command : UInt8) : Phase :=
  if command = searchCommand false then .sendBit (romBits d.rom)
  else if command = searchCommand true ∧ d.alarm then .sendBit (romBits d.rom)
  else if command = matchCommand then .matchRom (romBits d.rom)
  else .idle

abbrev Bus (σ : Type) :=
  List (Slave σ)

def Bus.inPhase (bus : Bus σ) (phase : Slave σ → Phase) : Bus σ :=
  bus.map fun d => { d with phase := phase d }

-- A device takes part in a search, of which some bits are left, or is out of it.
def Slave.Searches (n : Nat) (d : Slave σ) : Prop :=
  d.phase = .idle ∨ ∃ w, d.phase = .sendBit w ∧ w.length = n

-- The bits that are left of the devices that take part.
def Bus.words (bus : Bus σ) : List Word :=
  bus.filterMap fun d =>
    match d.phase with
    | .sendBit w => some w
    | _          => none

-- What stays the same of the devices.
def Bus.devices (bus : Bus σ) : List (SerialNum × Bool) :=
  bus.map fun d => (d.rom, d.alarm)

-- The numbers of the devices that a search is about.
def Bus.responding (alarmOnly : Bool) (bus : Bus σ) : List Word :=
  (bus.devices.filter fun d => !alarmOnly || d.2).map fun d => romBits d.1

variable {bus : Bus σ} {d : Slave σ} {x : Bool} {w xs : Word} {n : Nat} {alarmOnly : Bool}
  {command : UInt8}

theorem Bus.mem_words : w ∈ bus.words ↔ ∃ d ∈ bus, d.phase = .sendBit w := by
  rw [words, List.mem_filterMap]
  refine exists_congr fun d => and_congr_right fun _ => ?_
  cases d.phase <;> simp

theorem devices_inPhase {phase : Slave σ → Phase} : (bus.inPhase phase).devices = bus.devices := by
  simp [Bus.devices, Bus.inPhase, Function.comp_def]

theorem start_searchCommand : d.start (searchCommand alarmOnly) =
    if !alarmOnly || d.alarm then .sendBit (romBits d.rom) else .idle := by
  have ⟨rom, alarm, phase, content⟩ := d
  cases alarmOnly <;> cases alarm <;> rfl

theorem words_start : (bus.inPhase fun d => d.start (searchCommand alarmOnly)).words =
    bus.responding alarmOnly := by
  induction bus
  case nil => rfl
  case cons d bus hi =>
    simp only [Bus.inPhase, Bus.words, Bus.responding, Bus.devices, start_searchCommand,
      List.map_cons, List.filterMap_cons, List.filter_cons] at hi ⊢
    rw [hi]
    cases !alarmOnly || d.alarm <;> rfl

@[simp]
theorem length_romBits {rom : SerialNum} : (romBits rom).length = 64 := by
  simp [romBits]

theorem searches_start : ∀ d ∈ bus.inPhase fun d => d.start (searchCommand alarmOnly),
    d.Searches 64 := by
  simp only [Bus.inPhase, List.mem_map]
  rintro _ ⟨d, _, rfl⟩
  rw [Slave.Searches, start_searchCommand]
  cases !alarmOnly || d.alarm
  case false => exact .inl rfl
  case true  => exact .inr ⟨romBits d.rom, rfl, length_romBits⟩

-- What a device does once it has been selected, bit by bit.
class Circuit (σ : Type) where
  begins : σ → σ
  sends  : σ → Bool
  takes  : Bool → σ → σ

variable [Circuit σ]

namespace Slave

def select (d : Slave σ) : Slave σ :=
  { d with phase := .selected, content := Circuit.begins d.content }

-- A device keeps the bus low for a zero.
def sends (d : Slave σ) : Bool :=
  match d.phase with
  | .sendBit (b :: _)        => b
  | .sendComplement (b :: _) => !b
  | .selected                => Circuit.sends d.content
  | _                        => true

def takes (x : Bool) (d : Slave σ) : Slave σ :=
  match d.phase with
  | .idle                    => d
  | .romCommand received     =>
    if received.length < 7 then { d with phase := .romCommand (received ++ [x]) }
    else { d with phase := d.start (byte fun i => (received ++ [x]).getD i false) }
  | .sendBit rest            => { d with phase := .sendComplement rest }
  | .sendComplement rest     => { d with phase := .takeDirection rest }
  | .takeDirection (b :: w)  =>
    if b ≠ x then { d with phase := .idle }
    else if w.isEmpty then d.select
    else { d with phase := .sendBit w }
  | .matchRom (b :: w)       =>
    if b ≠ x then { d with phase := .idle }
    else if w.isEmpty then d.select
    else { d with phase := .matchRom w }
  | .takeDirection []        => { d with phase := .idle }
  | .matchRom []             => { d with phase := .idle }
  | .selected                => { d with content := Circuit.takes x d.content }

end Slave

-- The bus is low if anyone keeps it low.
def slaves : Wire (Bus σ) where
  reset bus   := (!bus.isEmpty, bus.map fun d => { d with phase := .romCommand [] })
  touch bus x :=
    let level := x && bus.all Slave.sends
    (level, bus.map (Slave.takes level))

-- As long as no device sends anything, what is sent is what is read.
theorem touch_of_silent (h : ∀ d ∈ bus, d.sends) :
    slaves.touch bus x = (x, bus.map (Slave.takes x)) := by
  have hall : bus.all Slave.sends := List.all_eq_true.mpr h
  simp [slaves, hall]

theorem touchBits_romCommand {received : List Bool} (hr : received.length + xs.length = 8)
    (hx : xs ≠ []) :
    slaves.touchBits (bus.inPhase fun _ => .romCommand received) xs =
      (xs, bus.inPhase fun d => d.start (byte fun i => (received ++ xs).getD i false)) := by
  induction xs generalizing received
  case nil => exact absurd rfl hx
  case cons x xs hi =>
    have hsilent : ∀ d ∈ bus.inPhase fun _ => .romCommand received, d.sends := by
      simp only [Bus.inPhase, List.mem_map]
      rintro _ ⟨d, _, rfl⟩
      rfl
    rw [List.length_cons] at hr
    rw [Wire.touchBits, touch_of_silent hsilent]
    rcases xs with _ | ⟨y, ys⟩
    case nil =>
      have hlen : ¬received.length < 7 := by simp at hr; omega
      simp [Wire.touchBits, Bus.inPhase, Slave.takes, hlen, Slave.start, Function.comp_def]
    case cons =>
      have hlen : received.length < 7 := by rw [List.length_cons] at hr; omega
      have hnext : (bus.inPhase fun _ => .romCommand received).map (Slave.takes x) =
          bus.inPhase fun _ => .romCommand (received ++ [x]) := by
        simp [Bus.inPhase, Slave.takes, hlen, Function.comp_def]
      rw [hnext, hi (by rw [List.length_append, List.length_singleton, ← hr, List.length_cons]; omega)
        (List.cons_ne_nil _ _), List.append_assoc, List.singleton_append]

-- Behind a reset all devices take the first byte for a command.
theorem touchByte_reset : slaves.touchByte (slaves.reset bus).2 command =
    (command, bus.inPhase fun d => d.start command) := by
  have hbits : bits [command] = (List.range 8).map (Bits.bit command) := by simp [bits]
  have hbyte : (byte fun i => ([] ++ bits [command]).getD i false) = command := by
    have hb := @bytes_bits [command]
    rw [List.length_singleton, bytes, bytes] at hb
    exact List.singleton_injective hb
  have hreset : (slaves.reset bus).2 = bus.inPhase fun _ => .romCommand [] := rfl
  have htouch := @touchBits_romCommand _ bus (bits [command]) _ []
    (by simp) (by simp [hbits, List.range_succ])
  rw [Wire.touchByte, hreset, htouch, hbyte]
  exact congrArg (·, _) hbyte

-- The three turns of a device in the search of a bit.
theorem takes_takes_takes {y z : Bool} (h : d.Searches (n + 1)) :
    ((d.takes y).takes z).takes x = match d.phase with
    | .sendBit (b :: w) =>
      if b ≠ x then { d with phase := .idle }
      else if w.isEmpty then d.select
      else { d with phase := .sendBit w }
    | _                 => d := by
  have ⟨rom, alarm, phase, content⟩ := d
  rcases h with rfl | ⟨w, rfl, hw⟩
  case inl => rfl
  case inr =>
    have ⟨b, w', hcons⟩ := List.exists_cons_of_length_eq_add_one hw
    subst hcons
    rfl

def Slave.next (x : Bool) (d : Slave σ) : Slave σ :=
  ((d.takes true).takes true).takes x

theorem Slave.Searches.takes_takes_takes (h : d.Searches (n + 1)) {y z : Bool} :
    ((d.takes y).takes z).takes x = d.next x := by
  rw [Slave.next, Link.takes_takes_takes h, Link.takes_takes_takes h]

theorem Slave.Searches.next (h : d.Searches (n + 2)) : (d.next x).Searches (n + 1) := by
  have ⟨rom, alarm, phase, content⟩ := d
  rw [Slave.next, Link.takes_takes_takes h]
  rcases h with rfl | ⟨w, rfl, hw⟩
  case inl => exact .inl rfl
  case inr =>
    have ⟨b, w', hcons⟩ := List.exists_cons_of_length_eq_add_one hw
    subst hcons
    have ⟨c, w'', hcons⟩ := List.exists_cons_of_length_eq_add_one <| Nat.succ.inj hw
    subst hcons
    by_cases hb : b = x
    case pos => exact .inr ⟨c :: w'', by simp [hb], Nat.succ.inj hw⟩
    case neg => exact .inl <| by simp [hb]

theorem all_sends (h : ∀ d ∈ bus, d.Searches (n + 1)) :
    bus.all Slave.sends = !goesOn bus.words false := by
  rw [Bool.eq_iff_iff, List.all_eq_true, Bool.not_eq_true', ← Bool.not_eq_true, goesOn_iff]
  simp only [Bus.mem_words]
  constructor
  case mp =>
    rintro hall ⟨w, d, hd, hp⟩
    have hs := hall d hd
    rw [Slave.sends, hp] at hs
    cases hs
  case mpr =>
    intro hno d hd
    rcases h d hd with hp | ⟨w, hp, hw⟩
    case inl => rw [Slave.sends, hp]
    case inr =>
      have ⟨b, w', hcons⟩ := List.exists_cons_of_length_eq_add_one hw
      subst hcons
      rw [Slave.sends, hp]
      cases b
      case true  => rfl
      case false => exact absurd ⟨w', d, hd, hp⟩ hno

theorem all_sends_complement {y : Bool} (h : ∀ d ∈ bus, d.Searches (n + 1)) :
    (bus.map (Slave.takes y)).all Slave.sends = !goesOn bus.words true := by
  rw [Bool.eq_iff_iff, List.all_eq_true, Bool.not_eq_true', ← Bool.not_eq_true, goesOn_iff]
  simp only [Bus.mem_words, List.mem_map, forall_exists_index, and_imp, forall_apply_eq_imp_iff₂]
  constructor
  case mp =>
    rintro hall ⟨w, d, hd, hp⟩
    have hs := hall d hd
    rw [Slave.takes, hp, Slave.sends] at hs
    cases hs
  case mpr =>
    intro hno d hd
    rcases h d hd with hp | ⟨w, hp, hw⟩
    case inl => rw [Slave.takes, hp, Slave.sends, hp]
    case inr =>
      have ⟨b, w', hcons⟩ := List.exists_cons_of_length_eq_add_one hw
      subst hcons
      rw [Slave.takes, hp, Slave.sends]
      cases b
      case false => rfl
      case true  => exact absurd ⟨w', d, hd, hp⟩ hno

theorem sends_direction {y z : Bool} (h : d.Searches (n + 1)) : ((d.takes y).takes z).sends := by
  have ⟨rom, alarm, phase, content⟩ := d
  rcases h with rfl | ⟨w, rfl, _⟩ <;> rfl

-- What is seen of the devices at a bit is how their numbers go on, and with the bit that is sent then go
-- on those whose numbers do.
theorem touch_search (h : ∀ d ∈ bus, d.Searches (n + 1)) :
    (slaves.touch bus true).1 = !goesOn bus.words false ∧
      (slaves.touch (slaves.touch bus true).2 true).1 = !goesOn bus.words true ∧
        ∀ x, slaves.touch (slaves.touch (slaves.touch bus true).2 true).2 x =
          (x, bus.map (Slave.next x)) := by
  have hb : slaves.touch bus true = (!goesOn bus.words false,
      bus.map (Slave.takes (!goesOn bus.words false))) := by
    simp [slaves, all_sends h]
  have hc : slaves.touch (bus.map (Slave.takes (!goesOn bus.words false))) true =
      (!goesOn bus.words true, (bus.map (Slave.takes (!goesOn bus.words false))).map
        (Slave.takes (!goesOn bus.words true))) := by
    simp only [slaves, all_sends_complement h, Bool.true_and]
  rw [hb]
  dsimp only
  rw [hc]
  refine ⟨rfl, rfl, fun x => ?_⟩
  have hsilent : ∀ d ∈ (bus.map (Slave.takes (!goesOn bus.words false))).map
      (Slave.takes (!goesOn bus.words true)), d.sends := by
    simp only [List.map_map, List.mem_map]
    rintro _ ⟨d, hd, rfl⟩
    exact sends_direction (h d hd)
  rw [touch_of_silent hsilent, List.map_map, List.map_map]
  exact congrArg (x, ·) <| List.map_congr_left fun d hd => (h d hd).takes_takes_takes

theorem accelerate_cons (h : ∀ d ∈ bus, d.Searches (n + 1)) : slaves.accelerate bus (x :: xs) =
    ((goesOn bus.words false == goesOn bus.words true, taken bus.words x) ::
      (slaves.accelerate (bus.map (Slave.next (taken bus.words x))) xs).1,
      (slaves.accelerate (bus.map (Slave.next (taken bus.words x))) xs).2) := by
  have ⟨hb, hc, hd⟩ := touch_search h
  have htaken : (if !(!goesOn bus.words false) && !(!goesOn bus.words true) then x
      else !goesOn bus.words false) = taken bus.words x := by
    rw [taken, Bool.not_not, Bool.not_not]
  simp only [Wire.accelerate, hb, hc, htaken, hd]
  cases goesOn bus.words false <;> cases goesOn bus.words true <;> rfl

theorem words_next (h : ∀ d ∈ bus, d.Searches (n + 2)) :
    Bus.words (bus.map (Slave.next x)) = behind x bus.words := by
  induction bus
  case nil => rfl
  case cons d bus hi =>
    have hi := hi fun d' hd' => h d' (.tail _ hd')
    have ⟨rom, alarm, phase, content⟩ := d
    have hd := h _ (.head _)
    have hnext : Slave.next x ⟨rom, alarm, phase, content⟩ = _ := takes_takes_takes hd
    rcases hd with rfl | ⟨w, rfl, hw⟩
    case inl =>
      rw [List.map_cons, hnext]
      exact hi
    case inr =>
      have ⟨b, w', hcons⟩ := List.exists_cons_of_length_eq_add_one hw
      subst hcons
      have ⟨c, w'', hcons⟩ := List.exists_cons_of_length_eq_add_one <| Nat.succ.inj hw
      subst hcons
      rw [List.map_cons, hnext]
      by_cases hb : b = x
      case pos =>
        subst hb
        simpa [Bus.words, behind] using hi
      case neg => simpa [Bus.words, behind, hb] using hi

-- So the adapter walks down the tree of the numbers.
theorem accelerate_eq_walk (h : ∀ d ∈ bus, d.Searches xs.length) :
    (slaves.accelerate bus xs).1 = walk bus.words xs := by
  induction xs generalizing bus
  case nil => rfl
  case cons x xs hi =>
    rw [accelerate_cons h, walk]
    rcases xs with _ | ⟨y, ys⟩
    case nil => rfl
    case cons =>
      have hnext : ∀ d ∈ bus.map (Slave.next (taken bus.words x)), d.Searches (ys.length + 1) := by
        simp only [List.mem_map]
        rintro _ ⟨d, hd, rfl⟩
        exact (h d hd).next
      rw [hi hnext, words_next h]

theorem rom_takes : (d.takes x).rom = d.rom := by
  rw [Slave.takes]
  repeat (first | rfl | split)

theorem alarm_takes : (d.takes x).alarm = d.alarm := by
  rw [Slave.takes]
  repeat (first | rfl | split)

theorem devices_reset : Bus.devices (slaves.reset bus).2 = bus.devices := by
  simp [Bus.devices, slaves, Function.comp_def]

theorem devices_touch : Bus.devices (slaves.touch bus x).2 = bus.devices := by
  simp [Bus.devices, slaves, Function.comp_def, rom_takes, alarm_takes]

theorem devices_accelerate : Bus.devices (slaves.accelerate bus xs).2 = bus.devices := by
  induction xs generalizing bus
  case nil          => rfl
  case cons x xs hi =>
    rw [Wire.accelerate]
    dsimp only
    rw [hi, devices_touch, devices_touch, devices_touch]

theorem devices_touchBits : Bus.devices (slaves.touchBits bus xs).2 = bus.devices := by
  induction xs generalizing bus
  case nil          => rfl
  case cons x xs hi =>
    rw [Wire.touchBits]
    exact hi.trans devices_touch

theorem devices_touchBytes {bs : List UInt8} :
    Bus.devices (slaves.touchBytes bus bs).2 = bus.devices := by
  rw [Wire.touchBytes_eq.right, devices_touchBits]

end RoboOne.OneWire.Link
