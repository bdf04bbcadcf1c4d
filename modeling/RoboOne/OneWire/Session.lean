import RoboOne.OneWire.Search

namespace RoboOne.OneWire.Link

open Interaction

-- What is asked of the link.
inductive LinkCall
  | owTouchReset
  | owTouchByte (sendbyte : UInt8)
  | owWriteByte (sendbyte : UInt8)
  | owReadByte
  | owBlock (doReset : Bool) (tranBuf : List UInt8)
deriving DecidableEq

namespace LinkCall

abbrev Answer : LinkCall → Type
  | owTouchReset      => Bool
  | owTouchByte _     => UInt8
  | owWriteByte _     => Bool
  | owReadByte        => UInt8
  | owBlock _ tranBuf => Option (Vector UInt8 tranBuf.length)

def program : (c : LinkCall) → LinkProgram c.Answer
  | .owTouchReset            => Link.owTouchReset
  | .owTouchByte sendbyte    => Link.owTouchByte sendbyte
  | .owWriteByte sendbyte    => Link.owWriteByte sendbyte
  | .owReadByte              => Link.owReadByte
  | .owBlock doReset tranBuf => Link.owBlock doReset tranBuf

-- A block that is not too long goes into a packet even if some of its bytes are sent twice.
def Fits : LinkCall → Prop
  | owBlock _ tranBuf => tranBuf.length ≤ 160 → (tranBuf.flatMap Packet.escaped).length ≤ 254
  | _                 => True

end LinkCall

variable {β : Type}

namespace Wire

variable (wire : Wire β)

-- A bus without any device is touched once more, by the detection of the adapter.
def resetAll (bus : β) : Bool × β :=
  let r := wire.reset bus
  if r.1 then (true, r.2) else (false, (wire.touch r.2 true).2)

def block (bus : β) (tranBuf : List UInt8) : Option (Vector UInt8 tranBuf.length) × β :=
  (some (touched wire bus tranBuf), (wire.touchBytes bus tranBuf).2)

-- What the bus itself does with a call.
def respond (bus : β) : (c : LinkCall) → c.Answer × β
  | .owTouchReset            => wire.resetAll bus
  | .owTouchByte sendbyte    => wire.touchByte bus sendbyte
  | .owWriteByte sendbyte    =>
    let r := wire.touchByte bus sendbyte
    (decide (r.1 = sendbyte), r.2)
  | .owReadByte              => wire.touchByte bus 0xFF
  | .owBlock doReset tranBuf =>
    if tranBuf.length > 160 then (none, bus)
    else if doReset then
      let r := wire.resetAll bus
      if r.1 then wire.block r.2 tranBuf else (none, r.2)
    else wire.block bus tranBuf

end Wire

variable {wire : Wire β} {s : SearchState} {bus : β} {p : Port} {a : Adapter β}

theorem owTouchReset_onBus_resetAll :
    OnBus wire owTouchReset s bus (wire.resetAll bus).1 s (wire.resetAll bus).2 := by
  rw [Wire.resetAll]
  by_cases hr : (wire.reset bus).1
  case pos =>
    rw [if_pos hr]
    exact owTouchReset_onBus hr
  case neg =>
    rw [if_neg hr]
    exact owTouchReset_onBus_of_absent hr

-- One call over the line does to the bus what it does there directly.
theorem program_onBus {c : LinkCall} (hc : c.Fits) :
    OnBus wire c.program s bus (wire.respond bus c).1 s (wire.respond bus c).2 := by
  cases c
  case owTouchReset => exact owTouchReset_onBus_resetAll
  case owTouchByte  => exact owTouchByte_onBus
  case owWriteByte  => exact .bind owTouchByte_onBus .pure
  case owReadByte   => exact owTouchByte_onBus
  case owBlock doReset tranBuf =>
    rw [Wire.respond]
    by_cases hlong : tranBuf.length > 160
    case pos =>
      rw [if_pos hlong]
      exact .ite_pos hlong .pure
    case neg =>
      have hfits : Link.Fits tranBuf := ⟨by omega, hc (by omega)⟩
      rw [if_neg hlong]
      cases doReset
      case false => exact owBlock_onBus hfits
      case true  =>
        refine .ite_neg hlong <| .ite_pos rfl <| .bind owTouchReset_onBus_resetAll ?_
        dsimp only
        rw [if_pos rfl]
        cases (wire.resetAll bus).1
        case true  => exact transferBlock_onBus hfits
        case false => exact .pure

-- What holds for each of some calls on a bus, holds for all of them one after the other.
theorem OnBus.performAll {κ δ : Type} {A : κ → Type} {perform : (c : κ) → LinkProgram (A c)}
    {respond : δ → (c : κ) → A c × δ} {f : δ → β} {C : κ → Prop} {cs : List κ} {d : δ}
    (h : ∀ d c, C c →
      OnBus wire (perform c) s (f d) (respond d c).1 s (f (respond d c).2))
    (hc : ∀ c ∈ cs, C c) : OnBus wire (performAll perform cs) s (f d) (replies respond d cs) s
      (f (after respond d (replies respond d cs))) := by
  induction cs generalizing d
  case nil          => exact .pure
  case cons c cs hi =>
    have hrest := hi (d := (respond d c).2) fun c' hc' => hc c' (.tail _ hc')
    exact .bind (h d c (hc c (.head _))) <| .bind hrest .pure

-- From the detection of the adapter on, whatever has been left in it, all calls over the line have the
-- answers of the bus, and do to it what they do there directly.
theorem performAll_of_detected {cs : List LinkCall} (hp : p.uLevel = modeNormal)
    (hc : ∀ c ∈ cs, c.Fits) : ∃ a' p',
      Runs (Adapter.respond wire) (do
        if ← ds2480Detect then performAll LinkCall.program cs else return []) a p
          (replies wire.respond (wire.touch a.bus true).2 cs) a' p' ∧
      a'.bus = after wire.respond (wire.touch a.bus true).2
        (replies wire.respond (wire.touch a.bus true).2 cs) := by
  have ⟨p₁, a₁, hd, hdetect⟩ := @ds2480Detect_runs _ wire a p
  have hcalls : OnBus wire (performAll LinkCall.program cs) p.search (wire.touch a.bus true).2 _ _ _ :=
    OnBus.performAll (f := id) (fun _ _ => program_onBus) hc
  have hsearch : p₁.search = p.search := by rw [hd.port]
  have ⟨p', a', hr, _, _, hbus⟩ := hcalls p₁ a₁ (hd.inSync hp) hsearch hd.bus
  exact ⟨a', p', .bind hdetect <| .ite_pos rfl hr, hbus⟩

-- The adapter may have been left in the middle of a search.
def leftAdapter : Adapter (Bus (List Bool)) where
  mode         := .data
  search       := some [0x00]
  parameters _ := 0
  out          := [0xCD]
  bus          := twoDevices

theorem performAll_of_detected_leftAdapter : ∃ a' p',
    Runs (Adapter.respond slaves) (do
      if ← ds2480Detect then
        performAll LinkCall.program [.owTouchReset, .owBlock true [0xCC, 0xE3], .owReadByte]
      else return []) leftAdapter Port.initial
      (replies slaves.respond (slaves.touch twoDevices true).2
        [.owTouchReset, .owBlock true [0xCC, 0xE3], .owReadByte]) a' p' ∧
    a'.bus = after slaves.respond (slaves.touch twoDevices true).2
      (replies slaves.respond (slaves.touch twoDevices true).2
        [.owTouchReset, .owBlock true [0xCC, 0xE3], .owReadByte]) :=
  performAll_of_detected rfl <| List.forall_mem_cons.mpr
    ⟨trivial, List.forall_mem_cons.mpr ⟨fun _ => by decide, List.forall_mem_singleton.mpr trivial⟩⟩

end RoboOne.OneWire.Link
