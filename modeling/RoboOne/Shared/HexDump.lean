import RoboOne.Library.Loop
import RoboOne.Messaging.Msg

namespace RoboOne.Shared

open Loop

-- What the debug prints depend on. A stream is `none` where the pointer to it is `PNULL`.
structure DebugPrints where
  gDebugPrintsAreOn      : Bool
  gSuspendDebug          : Bool
  pgDefaultStream        : Option Nat
  pgDebugPrintsStream    : Option Nat
  gHexDumpsToSyslogAreOn : Bool

namespace DebugPrints

def Printing (g : DebugPrints) : Prop :=
  g.gDebugPrintsAreOn && !g.gSuspendDebug

instance (g : DebugPrints) : Decidable g.Printing :=
  inferInstanceAs (Decidable (_ = true))

def pStream (g : DebugPrints) : Option Nat :=
  if g.pgDebugPrintsStream.isSome then g.pgDebugPrintsStream else g.pgDefaultStream

end DebugPrints

-- `heading` is "Printing at least %d bytes:\n". A line has the address and the eight bytes from there.
inductive Printed
  | heading (pStream : Nat) (time : UInt32) (size : UInt16)
  | line    (pStream : Nat) (time : UInt32) (pPrint : Nat) (bytes : List UInt8)
  | syslog  (time : UInt32) (pPrint : Nat) (bytes : List UInt8)
  | fflush  (pStream : Nat)
deriving DecidableEq

structure HexDump where
  i       : UInt8
  pPrint  : Nat
  printed : List Printed

-- `if (pStream != PNULL)`.
def DebugPrints.onStream (g : DebugPrints) (print : Nat → Printed) : List Printed :=
  (g.pStream.map print).toList

namespace HexDump

def bytesAt (memory : Nat → UInt8) (pPrint : Nat) : List UInt8 :=
  (List.range 8).map fun i => memory (pPrint + i)

def printBytes (g : DebugPrints) (time : UInt32) (memory : Nat → UInt8) (pPrint : Nat) :
    List Printed :=
  g.onStream (.line · time pPrint (bytesAt memory pPrint)) ++
    if g.gHexDumpsToSyslogAreOn then [.syslog time pPrint (bytesAt memory pPrint)] else []

def again (size : UInt16) (d : HexDump) : Bool :=
  d.i.toNat < size.toNat

-- `i` has eight bits, so that `i +=8` goes back to zero after 248.
def turn (g : DebugPrints) (time : UInt32) (memory : Nat → UInt8) (d : HexDump) : HexDump where
  i       := d.i + 8
  pPrint  := d.pPrint + 8
  printed := d.printed ++ printBytes g time memory d.pPrint

def init (g : DebugPrints) (time : UInt32) (pMemory : Nat) (size : UInt16) : HexDump where
  i       := 0
  pPrint  := pMemory
  printed := g.onStream (.heading · time size)

def flushed (g : DebugPrints) (d : HexDump) : List Printed :=
  d.printed ++ g.onStream .fflush

end HexDump

open HexDump

-- What is printed, if the loop has come to its end within the given number of turns.
def printHexDump (g : DebugPrints) (time : UInt32) (memory : Nat → UInt8) (turns pMemory : Nat)
    (size : UInt16) : Option (List Printed) :=
  if g.Printing then
    (whileDo (turn g time memory) (again size) turns (init g time pMemory size)).map (flushed g)
  else
    some []

namespace HexDump

variable {g : DebugPrints} {time : UInt32} {memory : Nat → UInt8} {pMemory : Nat} {size : UInt16}

-- The number of lines that cover `size` bytes.
def lines (size : UInt16) : Nat :=
  (size.toNat + 7) / 8

theorem iterate_turn_pPrint (k : Nat) (d : HexDump) :
    ((turn g time memory)^[k] d).pPrint = d.pPrint + 8 * k := by
  induction k generalizing d
  case zero => rfl
  case succ k hi =>
    rw [Function.iterate_succ_apply, hi]
    simp only [turn]
    omega

theorem iterate_turn_i {k : Nat} {d : HexDump} (h : d.i.toNat + 8 * k < 256) :
    ((turn g time memory)^[k] d).i.toNat = d.i.toNat + 8 * k := by
  induction k generalizing d
  case zero => rfl
  case succ k hi =>
    have hd : (turn g time memory d).i.toNat = d.i.toNat + 8 := by
      simp only [turn, UInt8.toNat_add, UInt8.toNat_ofNat]
      omega
    rw [Function.iterate_succ_apply, hi (by omega), hd]
    omega

theorem iterate_turn_printed (k : Nat) (d : HexDump) :
    ((turn g time memory)^[k] d).printed =
      d.printed ++ (List.range k).flatMap fun j => printBytes g time memory (d.pPrint + 8 * j) := by
  induction k
  case zero => simp
  case succ k hi =>
    rw [Function.iterate_succ_apply', turn, hi, iterate_turn_pPrint, List.range_succ]
    simp

-- Up to 248 bytes the counter stays below 256, and the loop makes one turn for each line.
theorem whileDo_turn (h : size.toNat ≤ 248) :
    whileDo (turn g time memory) (again size) (lines size + 1) (init g time pMemory size) =
      some ((turn g time memory)^[lines size] (init g time pMemory size)) := by
  have hl : 8 * lines size < 256 := by simp only [lines]; omega
  have hi {j : Nat} (hj : j ≤ lines size) :
      ((turn g time memory)^[j] (init g time pMemory size)).i.toNat = 8 * j :=
    (iterate_turn_i (by simp [init]; omega)).trans (Nat.zero_add _)
  apply whileDo_iterate
  case h =>
    intro j hj
    rw [again, hi (Nat.le_of_lt hj), decide_eq_true_iff]
    simp only [lines] at hj
    omega
  case he =>
    rw [again, hi (Nat.le_refl _), decide_eq_true_iff]
    simp only [lines]
    omega

-- The counter is a multiple of eight at all times, so it does not get beyond 248.
theorem whileDo_turn_eq_none {turns : Nat} (h : 248 < size.toNat) :
    whileDo (turn g time memory) (again size) turns (init g time pMemory size) = none := by
  apply whileDo_eq_none_of_invariant (I := fun d => d.i.toNat % 8 = 0)
  case hI =>
    intro d hd
    simp only [turn, UInt8.toNat_add, UInt8.toNat_ofNat]
    omega
  case ha =>
    intro d hd
    have := d.i.toNat_lt
    rw [again, decide_eq_true_iff]
    omega
  case h => rfl

end HexDump

variable {g : DebugPrints} {time : UInt32} {memory : Nat → UInt8} {pMemory : Nat} {size : UInt16}

-- `printHexDump` returns.
def Terminates (g : DebugPrints) (time : UInt32) (memory : Nat → UInt8) (pMemory : Nat)
    (size : UInt16) : Prop :=
  ∃ turns printed, printHexDump g time memory turns pMemory size = some printed

-- A dump that ends has printed the memory in order, eight bytes at a time.
theorem printHexDump_eq_some (hg : g.Printing) (h : size.toNat ≤ 248) :
    printHexDump g time memory (lines size + 1) pMemory size =
      some (g.onStream (.heading · time size) ++
        (List.range (lines size)).flatMap (fun j => printBytes g time memory (pMemory + 8 * j)) ++
        g.onStream .fflush) := by
  rw [printHexDump, if_pos hg, whileDo_turn h, Option.map_some, flushed, iterate_turn_printed, init]

theorem terminates_iff : Terminates g time memory pMemory size ↔ (g.Printing → size.toNat ≤ 248) := by
  constructor
  case mp =>
    rintro ⟨turns, printed, h⟩ hg
    by_contra hs
    rw [printHexDump, if_pos hg, whileDo_turn_eq_none (Nat.lt_of_not_le hs)] at h
    cases h
  case mpr =>
    intro h
    by_cases hg : g.Printing
    case pos => exact ⟨_, _, printHexDump_eq_some hg (h hg)⟩
    case neg => exact ⟨0, [], if_neg hg⟩

-- Whatever the bytes of the message, `msgLength + 1` fits into the parameter of `printHexDump`.
theorem size_msg (m : Messaging.Msg) : (m.msgLength.toUInt16 + 1).toNat = m.msgLength.toNat + 1 := by
  have := m.msgLength.toNat_lt
  simp only [UInt16.toNat_add, UInt8.toNat_toUInt16, UInt16.toNat_one]
  omega

-- With the debug prints on, the dump ends for up to 248 bytes, which are the messages of up to 247.
theorem printHexDump_terminates_iff (g : DebugPrints) (time : UInt32) (memory : Nat → UInt8)
    (pMemory : Nat) :
    (∀ size, Terminates g time memory pMemory size ↔ (g.Printing → size.toNat ≤ 248)) ∧
      (∀ pReceivedMsg : Messaging.Msg,
        Terminates g time memory pMemory (pReceivedMsg.msgLength.toUInt16 + 1) ↔
          (g.Printing → pReceivedMsg.msgLength.toNat ≤ 247)) := by
  refine ⟨fun size => terminates_iff, fun pReceivedMsg => ?_⟩
  rw [terminates_iff, size_msg, Nat.add_le_add_iff_right (n := 1) (k := 247)]

-- Debug prints to a file.
def debugPrintsToFile : DebugPrints where
  gDebugPrintsAreOn      := true
  gSuspendDebug          := false
  pgDefaultStream        := none
  pgDebugPrintsStream    := some 0
  gHexDumpsToSyslogAreOn := false

theorem printHexDump_does_not_terminate :
    ¬∀ size, Terminates debugPrintsToFile 0 (fun _ => 0) 0 size :=
  fun h => absurd (terminates_iff.mp (h 249) (by decide)) (by decide)

end RoboOne.Shared
