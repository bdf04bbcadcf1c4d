import RoboOne.Library.Device
import RoboOne.OneWire.Server

namespace RoboOne.OneWire

open Interaction

-- The bits of the configuration register.
def ds2438AdbIsBusy : UInt8 := 0x40

def ds2438TbIsBusy : UInt8 := 0x10

def ds2438AdIsVdd : UInt8 := 0x08

def ds2438IadIsEnabled : UInt8 := 0x01

def ds2438CommandReadAd : UInt8 := 0xB4

def ds2438CommandReadTemperature : UInt8 := 0x44

-- To protect against deadlocks when looping for HW responses
def guardCounter : Nat := 255

-- Block until the device is no longer busy. What is left of the guard counter is returned.
def awaitReady {κ : Type} {A : κ → Type} (owReadByte : Interaction.Program A Unit UInt8) :
    Nat → Interaction.Program A Unit Nat
  | 0                => return 0
  | guardCounter + 1 => do
    let busyByte ← owReadByte
    if busyByte = 0 then awaitReady owReadByte guardCounter else return guardCounter

-- It makes no other calls than those for the bytes.
theorem awaitReady_traces {κ : Type} {A : κ → Type} {owReadByte : Interaction.Program A Unit UInt8}
    {P : (c : κ) × A c → Prop} {g : Nat} {m : Unit}
    (h : ∀ m, Traces m owReadByte fun calls _ _ => ∀ x ∈ calls, P x) :
    Traces m (awaitReady owReadByte g) fun calls _ _ => ∀ x ∈ calls, P x := by
  induction g generalizing m
  case zero => exact .pure nofun
  case succ g hi =>
    refine .bind <| (h m).mono fun calls busyByte _ hc => .ite (fun _ => ?_) fun _ => .pure ?_
    case refine_1 => exact hi.mono fun calls' _ _ hc' => List.forall_mem_append.mpr ⟨hc, hc'⟩
    case refine_2 => rwa [List.append_nil]

abbrev PageNumber := { page : UInt8 // page < ds2438NumPages }

abbrev Page := Fin ds2438NumBytesInPage → UInt8

-- What can be written to the start of a page.
abbrev PageData := { mem : List UInt8 // mem.length ≤ ds2438NumBytesInPage }

-- A write of the first byte.
def PageData.byte (b : UInt8) : PageData :=
  ⟨[b], (by decide : 1 ≤ ds2438NumBytesInPage)⟩

def ds2438ConfigPage : PageNumber := ⟨0, by decide⟩

def ds2438EtmIcaOffsetPage : PageNumber := ⟨1, by decide⟩

instance : NeZero ds2438NumBytesInPage :=
  ⟨by decide⟩

-- Where the registers are in their pages.
def ds2438ConfigRegOffset : Fin ds2438NumBytesInPage := 0

def ds2438TemperatureRegOffset : Fin ds2438NumBytesInPage := 1

def ds2438VoltageRegOffset : Fin ds2438NumBytesInPage := 3

def ds2438CurrentRegOffset : Fin ds2438NumBytesInPage := 5

def ds2438ThresholdRegOffset : Fin ds2438NumBytesInPage := 7

def ds2438EtmRegOffset : Fin ds2438NumBytesInPage := 0

def ds2438IcaRegOffset : Fin ds2438NumBytesInPage := 4

def ds2438CalRegOffset : Fin ds2438NumBytesInPage := 5

namespace Page

-- What the page is after a write to its start.
def overlay (p : Page) (mem : List UInt8) : Page :=
  fun i => mem.getD i (p i)

-- A write of the whole page.
def data (p : Page) : PageData :=
  ⟨List.ofFn p, Nat.le_of_eq List.length_ofFn⟩

-- Two bytes as a number, the low one first.
def uint16 (p : Page) (offset : Fin ds2438NumBytesInPage) : UInt16 :=
  (p offset).toUInt16 ||| (p (offset + 1)).toUInt16 <<< 8

theorem toNat_uint16 {p : Page} {offset : Fin ds2438NumBytesInPage} :
    (p.uint16 offset).toNat = (p offset).toNat + 256 * (p (offset + 1)).toNat := by
  have hlo := (p offset).toNat_lt
  have hhi := (p (offset + 1)).toNat_lt
  have hshift : (p (offset + 1)).toNat <<< ((8 : UInt16).toNat % 16) % 2 ^ 16 =
      (p (offset + 1)).toNat <<< 8 := by
    change (p (offset + 1)).toNat <<< 8 % 2 ^ 16 = _
    rw [Nat.shiftLeft_eq]
    omega
  rw [uint16, UInt16.toNat_or, UInt16.toNat_shiftLeft, UInt8.toNat_toUInt16, UInt8.toNat_toUInt16,
    hshift, Nat.or_comm, ← Nat.shiftLeft_add_eq_or_of_lt (by omega), Nat.shiftLeft_eq]
  omega

@[simp]
theorem overlay_data {p p' : Page} : p'.overlay p.data = p := by
  funext i
  simp [overlay, data]

-- A write of the first byte leaves the others as they are.
@[simp]
theorem overlay_byte {p : Page} {b : UInt8} {i : Fin ds2438NumBytesInPage} :
    p.overlay (PageData.byte b) i = if i = 0 then b else p i := by
  cases i using Fin.cases
  case zero   => rfl
  case succ i => rfl

end Page

-- The functions for the pages of one device, and those that talk to it directly.
inductive Ds2438Call
  | readSPPageDS2438 (page : PageNumber)
  | writeSPPageDS2438 (page : PageNumber) (pMem : PageData)
  | readNVPageDS2438 (page : PageNumber)
  | writeNVPageDS2438 (page : PageNumber) (pMem : PageData)
  | owAccess
  | owWriteByte (sendbyte : UInt8)
  | owReadByte
deriving DecidableEq

namespace Ds2438Call

-- The page that is read if the operation succeeds, or the success.
abbrev Answer : Ds2438Call → Type
  | readSPPageDS2438 _    => Option Page
  | writeSPPageDS2438 _ _ => Bool
  | readNVPageDS2438 _    => Option Page
  | writeNVPageDS2438 _ _ => Bool
  | owAccess              => Bool
  | owWriteByte _         => Bool
  | owReadByte            => UInt8

def succeeded : (c : Ds2438Call) → c.Answer → Bool
  | readSPPageDS2438 _, read       => Option.isSome read
  | writeSPPageDS2438 _ _, success => success
  | readNVPageDS2438 _, read       => Option.isSome read
  | writeNVPageDS2438 _ _, success => success
  | owAccess, success              => success
  | owWriteByte _, success         => success
  | owReadByte, _                  => true

end Ds2438Call

abbrev Ds2438History :=
  History Ds2438Call.Answer

abbrev Ds2438Environment :=
  Environment Ds2438Call.Answer

abbrev Ds2438World :=
  World Ds2438Call.Answer Unit

abbrev Ds2438Program :=
  Interaction.Program Ds2438Call.Answer Unit

section

variable (page : PageNumber) (pMem : PageData)

def readSPPageDS2438 : Ds2438Program (Option Page) :=
  call (Ds2438Call.readSPPageDS2438 page)

def writeSPPageDS2438 : Ds2438Program Bool :=
  call (Ds2438Call.writeSPPageDS2438 page pMem)

def readNVPageDS2438 : Ds2438Program (Option Page) :=
  call (Ds2438Call.readNVPageDS2438 page)

def writeNVPageDS2438 : Ds2438Program Bool :=
  call (Ds2438Call.writeNVPageDS2438 page pMem)

def owAccess : Ds2438Program Bool :=
  call Ds2438Call.owAccess

def owWriteByte (sendbyte : UInt8) : Ds2438Program Bool :=
  call (Ds2438Call.owWriteByte sendbyte)

def owReadByte : Ds2438Program UInt8 :=
  call Ds2438Call.owReadByte

end

-- The content of a device.
structure Chip where
  scratchpad : PageNumber → Page
  memory     : PageNumber → Page

namespace Chip

def AgreesBut (page : PageNumber) (d d' : Chip) : Prop :=
  ∀ page', page' ≠ page → d'.scratchpad page' = d.scratchpad page' ∧ d'.memory page' = d.memory page'

-- A write that succeeds stores the bytes given, and a read that succeeds returns the stored bytes. If
-- they fail, then they may have done anything to their page of the scratchpad, and a write to that of
-- the memory as well.
def Acts (d : Chip) : (c : Ds2438Call) → c.Answer → Chip → Prop
  | .readSPPageDS2438 page, read, d'           =>
    d' = d ∧ ∀ mem, read = some mem → mem = d.scratchpad page
  | .writeSPPageDS2438 page pMem, success, d' =>
    d.AgreesBut page d' ∧ d'.memory page = d.memory page ∧
      (success = true → d'.scratchpad page = (d.scratchpad page).overlay pMem)
  | .readNVPageDS2438 page, read, d'           =>
    d.AgreesBut page d' ∧ d'.memory page = d.memory page ∧
      ∀ mem, read = some mem → mem = d.memory page ∧ d'.scratchpad page = mem
  | .writeNVPageDS2438 page pMem, success, d' =>
    d.AgreesBut page d' ∧ (success = true →
      d'.scratchpad page = (d.scratchpad page).overlay pMem ∧ d'.memory page = d'.scratchpad page)
  | .owAccess, _, d'                           => d' = d
  -- A measurement is started.
  | .owWriteByte _, _, d'                      => d.AgreesBut ds2438ConfigPage d'
  | .owReadByte, _, d'                         => d' = d

section

variable (d : Chip) (page : PageNumber)

-- The device on which everything succeeds.
def write (pMem : List UInt8) : Chip :=
  { d with scratchpad := Function.update d.scratchpad page ((d.scratchpad page).overlay pMem) }

def recallPage : Chip :=
  { d with scratchpad := Function.update d.scratchpad page (d.memory page) }

def copy : Chip :=
  { d with memory := Function.update d.memory page (d.scratchpad page) }

def respond : (c : Ds2438Call) → c.Answer × Chip
  | .readSPPageDS2438 page       => (some (d.scratchpad page), d)
  | .writeSPPageDS2438 page pMem => (true, d.write page pMem.1)
  | .readNVPageDS2438 page       => (some (d.memory page), d.recallPage page)
  | .writeNVPageDS2438 page pMem => (true, (d.write page pMem.1).copy page)
  | .owAccess                    => (true, d)
  | .owWriteByte _               => (true, d)
  | .owReadByte                  => ((0xFF : UInt8), d)

end

variable {d d' : Chip} {page page' : PageNumber} {pMem : PageData}

theorem respond_acts (d : Chip) (c : Ds2438Call) : d.Acts c (d.respond c).1 (d.respond c).2 := by
  cases c
  case readSPPageDS2438 page => exact ⟨rfl, fun _ h => (Option.some.inj h).symm⟩
  case writeSPPageDS2438 page pMem =>
    refine ⟨fun page' hp => ?_, rfl, fun _ => ?_⟩
    case refine_1 => simp [respond, write, hp]
    case refine_2 => simp [respond, write]
  case readNVPageDS2438 page =>
    refine ⟨fun page' hp => ?_, rfl, fun _ h => ?_⟩
    case refine_1 => simp [respond, recallPage, hp]
    case refine_2 =>
      cases h
      simp [respond, recallPage]
  case writeNVPageDS2438 page pMem =>
    refine ⟨fun page' hp => ?_, fun _ => ?_⟩
    case refine_1 => simp [respond, write, copy, hp]
    case refine_2 => simp [respond, write, copy]
  case owAccess => rfl
  case owWriteByte => exact fun _ _ => ⟨rfl, rfl⟩
  case owReadByte => rfl

@[refl]
theorem AgreesBut.refl : d.AgreesBut page d :=
  fun _ _ => ⟨rfl, rfl⟩

theorem Acts.readNVPage_memory {read : Option Page} (h : d.Acts (.readNVPageDS2438 page) read d') :
    d'.memory = d.memory := by
  funext page'
  by_cases hp : page' = page
  case pos => exact hp ▸ h.right.left
  case neg => exact (h.left page' hp).right

theorem Acts.writeNVPage_other {success : Bool}
    (h : d.Acts (.writeNVPageDS2438 page pMem) success d') (hp : page' ≠ page) :
    d'.memory page' = d.memory page' :=
  (h.left page' hp).right

-- The calls that may change a page of the memory.
def MayWrite (page : PageNumber) : Ds2438Call → Prop
  | .writeNVPageDS2438 page' _ => page' = page
  | .owWriteByte _             => page = ds2438ConfigPage
  | _                          => False

theorem Acts.memory_of_not_mayWrite {c : Ds2438Call} {a : c.Answer} (h : d.Acts c a d')
    (hc : ¬MayWrite page c) : d'.memory page = d.memory page := by
  cases c
  case readSPPageDS2438 => rw [h.left]
  case writeSPPageDS2438 page' _ =>
    by_cases hp : page = page'
    case pos => exact hp ▸ h.right.left
    case neg => exact (h.left page hp).right
  case readNVPageDS2438 => exact congrFun h.readNVPage_memory page
  case writeNVPageDS2438 => exact h.writeNVPage_other (Ne.symm hc)
  case owAccess => rw [show d' = d from h]
  case owWriteByte => exact (h page hc).right
  case owReadByte => rw [show d' = d from h]

theorem memory_kept {calls : Ds2438History} (hd : Evolves Acts d calls d')
    (hc : ∀ x ∈ calls, ¬MayWrite page x.1) : d'.memory page = d.memory page :=
  hd.keeps (I := fun d₁ => d₁.memory page = d.memory page)
    (fun _ _ _ _ hm hr h => (hr.memory_of_not_mayWrite <| hc _ hm).trans h) rfl

theorem Acts.writeNVPage_memory (h : d.Acts (.writeNVPageDS2438 page pMem) true d') :
    d'.memory page = (d.scratchpad page).overlay pMem :=
  (h.right rfl).right.trans (h.right rfl).left

theorem Acts.writeNVPage_scratchpad (h : d.Acts (.writeNVPageDS2438 page pMem) true d') :
    d'.scratchpad page = (d.scratchpad page).overlay pMem :=
  (h.right rfl).left

end Chip

-- The success of each write to a page of the memory, and what it was to write.
def pageWrites (page : PageNumber) (h : Ds2438History) : List (PageData × Bool) :=
  h.filterMap fun
    | ⟨.writeNVPageDS2438 page' pMem, success⟩ => if page' = page then some (pMem, success) else none
    | _                                        => none

-- What came of each write to the memory.
def writes (h : Ds2438History) : List Bool :=
  h.filterMap fun
    | ⟨.writeNVPageDS2438 _ _, success⟩ => some success
    | _                                 => none

-- What came of each read of the memory.
def reads (h : Ds2438History) : List (Option Page) :=
  h.filterMap fun
    | ⟨.readNVPageDS2438 _, read⟩ => some read
    | _                           => none

end RoboOne.OneWire
