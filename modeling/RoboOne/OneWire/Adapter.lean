import RoboOne.OneWire.Link
import RoboOne.Library.BitBuffer

namespace RoboOne.OneWire.Link

open Interaction BitBuffer

-- A bus that can be reset, which shows whether any device is present, and on which a bit can be sent
-- while another one is read.
structure Wire (β : Type) where
  reset : β → Bool × β
  touch : β → Bool → Bool × β

variable {β : Type}

namespace Wire

variable (wire : Wire β)

def touchBits : β → List Bool → List Bool × β
  | bus, []      => ([], bus)
  | bus, x :: xs =>
    let r  := wire.touch bus x
    let rs := touchBits r.2 xs
    (r.1 :: rs.1, rs.2)

def touchByte (bus : β) (b : UInt8) : UInt8 × β :=
  let r := wire.touchBits bus (bits [b])
  (byte fun i => r.1.getD i false, r.2)

def touchBytes : β → List UInt8 → List UInt8 × β
  | bus, []      => ([], bus)
  | bus, b :: bs =>
    let r  := wire.touchByte bus b
    let rs := touchBytes r.2 bs
    (r.1 :: rs.1, rs.2)

-- The adapter searches on its own: two bits are read, which show where the devices go on, and the one is
-- sent with which the search goes on. There is a choice only if there are devices for both.
def accelerate : β → List Bool → List (Bool × Bool) × β
  | bus, []      => ([], bus)
  | bus, x :: xs =>
    let b         := wire.touch bus true
    let c         := wire.touch b.2 true
    let direction := if !b.1 && !c.1 then x else b.1
    let d         := wire.touch c.2 direction
    let rs        := accelerate d.2 xs
    ((b.1 == c.1, direction) :: rs.1, rs.2)

end Wire

inductive AdapterMode
  | timing
  | command
  | data
  | check
deriving DecidableEq

-- The adapter between the serial line and the bus.
structure Adapter (β : Type) where
  mode       : AdapterMode
  search     : Option (List UInt8)
  parameters : UInt8 → UInt8
  out        : List UInt8
  bus        : β

-- Of the bits that come in pairs, the second ones.
def secondBits : List Bool → List Bool
  | _ :: y :: l => y :: secondBits l
  | _           => []

def pairBits : List (Bool × Bool) → List Bool :=
  List.flatMap fun p => [p.1, p.2]

namespace Adapter

variable (wire : Wire β)

def answer (a : Adapter β) (b : UInt8) : Adapter β :=
  { a with out := a.out ++ [b] }

-- A byte for the bus.
def transmit (a : Adapter β) (b : UInt8) : Adapter β :=
  match a.search with
  | none    =>
    let r := wire.touchByte a.bus b
    { a with bus := r.2 }.answer r.1
  | some bs =>
    if bs.length = 15 then
      let r := wire.accelerate a.bus (secondBits (bits (bs ++ [b])))
      { a with search := some [], bus := r.2, out := a.out ++ bytes 16 (pairBits r.1) }
    else
      { a with search := some (bs ++ [b]) }

def configure (a : Adapter β) (b : UInt8) : Adapter β :=
  let parameter := b >>> 4 &&& 0x07
  if parameter = 0 then
    a.answer (a.parameters (b >>> 1 &&& 0x07))
  else
    let parameters i := if i = parameter then b &&& 0x0E else a.parameters i
    { a with parameters := parameters }.answer (b &&& 0xFE)

def command (a : Adapter β) (b : UInt8) : Adapter β :=
  if b = modeData then
    { a with mode := .data }
  else if b &&& 0x80 = 0 then
    a.configure b
  else if b &&& 0x60 = functSelReset then
    let r := wire.reset a.bus
    { a with bus := r.2 }.answer (if r.1 then 0xCD else 0xCF)
  else if b &&& 0x60 = functSelSearchOff then
    { a with search := if b &&& 0x10 ≠ 0 then some [] else none }
  else if b &&& 0x60 = functSelBit then
    let r := wire.touch a.bus (b &&& bitPolOne ≠ 0)
    { a with bus := r.2 }.answer (b &&& 0xFC ||| if r.1 then 0x03 else 0x00)
  else
    a

def receive (a : Adapter β) (b : UInt8) : Adapter β :=
  match a.mode with
  | .timing  => { a with mode := .command }
  | .command => a.command wire b
  | .data    => if b = modeCommand then { a with mode := .check } else a.transmit wire b
  | .check   =>
    if b = modeCommand then { a with mode := .data }.transmit wire b
    else { a with mode := .command }.command wire b

def reset (a : Adapter β) : Adapter β where
  mode         := .timing
  search       := none
  parameters _ := 0
  out          := []
  bus          := a.bus

def respond (a : Adapter β) : (c : ComCall) → c.Answer × Adapter β
  | .flushCOM        => ((), { a with out := [] })
  | .writeCOM outbuf => (true, outbuf.foldl (receive wire) a)
  | .readCOM inlen   =>
    if h : inlen ≤ a.out.length then
      (some ⟨(a.out.take inlen).toArray, by simp [h]⟩, { a with out := a.out.drop inlen })
    else
      (none, { a with out := [] })
  | .setBaudCOM _    => ((), a)
  | .breakCOM        => ((), a.reset)
  | .msDelay _       => ((), a)

end Adapter

-- The adapter does what the port takes it to do.
structure InSync (p : Port) (a : Adapter β) : Prop where
  mode   : a.mode = if p.uMode = .modSelData then .data else .command
  search : a.search = none
  level  : p.uLevel = modeNormal
  speed  : p.uSpeed = speedSelFlex

-- What a program makes of the bus, whatever has gone over the line before.
def OnBus {α : Type} (wire : Wire β) (program : LinkProgram α) (s : SearchState) (bus : β) (r : α)
    (s' : SearchState) (bus' : β) : Prop :=
  ∀ p a, InSync p a → p.search = s → a.bus = bus → ∃ p' a',
    Runs (Adapter.respond wire) program a p r a' p' ∧
      InSync p' a' ∧ p'.search = s' ∧ a'.bus = bus'

variable {α γ : Type} {wire : Wire β} {a a' : Adapter β} {p p' : Port} {bs bs' : List UInt8}
  {b : UInt8} {n : Nat} {s s' s₁ : SearchState} {bus bus' bus₁ : β} {r : α}

namespace OnBus

theorem pure : OnBus wire (pure r) s bus r s bus :=
  fun p a h hs hb => ⟨p, a, .pure, h, hs, hb⟩

theorem bind {program : LinkProgram α} {f : α → LinkProgram γ} {r' : γ}
    (h : OnBus wire program s bus r s₁ bus₁) (hf : OnBus wire (f r) s₁ bus₁ r' s' bus') :
    OnBus wire (program >>= f) s bus r' s' bus' := by
  intro p a hp hs hb
  have ⟨p₁, a₁, hr, hp₁, hs₁, hb₁⟩ := h p a hp hs hb
  have ⟨p', a', hr', hp', hs', hb'⟩ := hf p₁ a₁ hp₁ hs₁ hb₁
  exact ⟨p', a', hr.bind hr', hp', hs', hb'⟩

theorem ite_pos {program program' : LinkProgram α} {c : Prop} [Decidable c] (hc : c)
    (h : OnBus wire program s bus r s' bus') :
    OnBus wire (if c then program else program') s bus r s' bus' :=
  (if_pos hc).symm ▸ h

theorem ite_neg {program program' : LinkProgram α} {c : Prop} [Decidable c] (hc : ¬c)
    (h : OnBus wire program' s bus r s' bus') :
    OnBus wire (if c then program else program') s bus r s' bus' :=
  (if_neg hc).symm ▸ h

-- Of its variables, a program sees only the search.
theorem load_bind {f : Port → LinkProgram γ} {r' : γ}
    (h : ∀ p, p.search = s → OnBus wire (f p) s bus r' s' bus') :
    OnBus wire (load >>= f) s bus r' s' bus' := by
  intro p a hp hs hb
  have ⟨p', a', hr, hp', hs', hb'⟩ := h p hs p a hp hs hb
  exact ⟨p', a', .bind .load hr, hp', hs', hb'⟩

end OnBus

theorem exchange_runs {v : Vector UInt8 n}
    (h : bs.foldl (Adapter.receive wire) { a with out := [] } = a') (hv : a'.out = v.toList) :
    Runs (Adapter.respond wire) (exchange bs n) a p (some v) { a' with out := [] } p := by
  refine .bind (.call _) <| .bind (.call _) <| .ite_pos rfl ?_
  have hn : a'.out.length = n := by rw [hv]; simp
  have htake : (⟨(a'.out.take n).toArray, by simp [hn]⟩ : Vector UInt8 n) = v := by
    refine Vector.toList_inj.mp ?_
    rw [← hv]
    exact List.take_of_length_le hn.le
  have hread : a'.respond wire (.readCOM n) = (some v, { a' with out := [] }) := by
    rw [Adapter.respond, dif_pos hn.ge, htake, List.drop_of_length_le hn.le]
  have hcall : Runs (Adapter.respond wire) (readCOM n) a' p (a'.respond wire (.readCOM n)).1
      (a'.respond wire (.readCOM n)).2 p := .call _
  rw [hread] at hcall
  subst h
  exact hcall

theorem changeMode_runs {mode : UMode} : Runs (Adapter.respond wire) (changeMode mode b) a p
    (if p.uMode = mode then [] else [b]) a { p with uMode := mode } := by
  refine .bind .load ?_
  by_cases h : p.uMode = mode
  case pos =>
    rw [if_pos h]
    refine .ite_neg (by simpa using h) ?_
    subst h
    exact .pure
  case neg =>
    rw [if_neg h]
    exact .ite_pos h <| .bind .update .pure

theorem owLevelNormal_runs (h : p.uLevel = modeNormal) :
    Runs (Adapter.respond wire) owLevelNormal a p () a p :=
  .bind .load <| .ite_neg (by simpa using h) .pure

-- The byte that changes the mode comes first if it has to.
theorem feed_command (h : InSync p a) (hb : b ≠ modeCommand) :
    ((if p.uMode = .modSelCommand then [] else [modeCommand]) ++ [b]).foldl (Adapter.receive wire)
      { a with out := [] } = Adapter.command wire { a with mode := .command, out := [] } b := by
  have hmode := h.mode
  cases hm : p.uMode
  case modSelCommand =>
    rw [hm, if_neg (by simp)] at hmode
    simp [Adapter.receive, hmode]
  case modSelData =>
    rw [hm, if_pos rfl] at hmode
    simp [Adapter.receive, hmode, hb]

theorem feed_data (h : InSync p a) :
    ((if p.uMode = .modSelData then [] else [modeData]) ++ bs).foldl (Adapter.receive wire)
      { a with out := [] } =
        bs.foldl (Adapter.receive wire) { a with mode := .data, out := [] } := by
  have hmode := h.mode
  cases hm : p.uMode
  case modSelData =>
    rw [hm, if_pos rfl] at hmode
    simp [hmode]
  case modSelCommand =>
    rw [hm, if_neg (by simp)] at hmode
    simp [Adapter.receive, hmode, Adapter.command]

namespace Adapter

theorem receive_command (h : a.mode = .command) : a.receive wire b = a.command wire b := by
  rw [receive, h]

theorem command_set (hd : b ≠ modeData) (hc : b &&& 0x80 = 0) (hp : b >>> 4 &&& 0x07 ≠ 0) :
    a.command wire b = { a with
      parameters := fun i => if i = b >>> 4 &&& 0x07 then b &&& 0x0E else a.parameters i
      out        := a.out ++ [b &&& 0xFE] } := by
  rw [command, if_neg hd, if_pos hc, configure, if_neg hp]
  rfl

theorem command_get (hd : b ≠ modeData) (hc : b &&& 0x80 = 0) (hp : b >>> 4 &&& 0x07 = 0) :
    a.command wire b = { a with out := a.out ++ [a.parameters (b >>> 1 &&& 0x07)] } := by
  rw [command, if_neg hd, if_pos hc, configure, if_pos hp]
  rfl

end Adapter

-- The adapter is found in whatever state it is, and is in step from then on.
structure Detected (wire : Wire β) (p : Port) (a : Adapter β) (p' : Port) (a' : Adapter β) : Prop where
  port   : p' = { p with uMode := .modSelCommand, uBaud := parmSet9600, uSpeed := speedSelFlex }
  mode   : a'.mode = .command
  search : a'.search = none
  bus    : a'.bus = (wire.touch a.bus true).2

theorem Detected.inSync (h : Detected wire p a p' a') (hp : p.uLevel = modeNormal) :
    InSync p' a' := by
  obtain rfl := h.port
  exact ⟨h.mode, h.search, hp, rfl⟩

theorem feed_detectPacket (hm : a.mode = .command) (hs : a.search = none) (ho : a.out = [])
    (hp : a.parameters 7 = parmSet9600) : ∃ a', ∃ x : Bool,
      (detectPacket parmSet9600).foldl (Adapter.receive wire) a = a' ∧
      a'.out = [0x16, 0x44, 0x5A, 0x00, 0x91 &&& 0xFC ||| if x then 0x03 else 0x00] ∧
      a'.mode = .command ∧ a'.search = none ∧ a'.bus = (wire.touch a.bus true).2 := by
  have hpacket : detectPacket parmSet9600 = [0x17, 0x45, 0x5B, 0x0F, 0x91] := by decide
  have hbit (a : Adapter β) : a.command wire 0x91 =
      { a with bus := (wire.touch a.bus true).2 }.answer
        (0x91 &&& 0xFC ||| if (wire.touch a.bus true).1 then 0x03 else 0x00) := by
    rw [Adapter.command, if_neg (by decide), if_neg (by decide), if_neg (by decide),
      if_neg (by decide), if_pos (by decide)]
    rfl
  refine ⟨_, (wire.touch a.bus true).1, rfl, ?_⟩
  rw [hpacket]
  obtain ⟨mode, search, parameters, out, bus⟩ := a
  subst hm hs ho
  simp (disch := first | rfl | decide) only [List.foldl_cons, List.foldl_nil,
    Adapter.receive_command, Adapter.command_set, Adapter.command_get]
  rw [hbit]
  refine ⟨?_, rfl, rfl, rfl⟩
  simp only [Adapter.answer, List.nil_append, List.cons_append, List.cons.injEq, and_true]
  refine ⟨by decide, by decide, by decide, ?_⟩
  rw [if_neg (by decide), if_neg (by decide), if_neg (by decide)]
  exact hp

theorem ds2480Detect_runs : ∃ p' a', Detected wire p a p' a' ∧
    Runs (Adapter.respond wire) ds2480Detect a p true a' p' := by
  have ⟨a', x, hfeed, hout, hmode, hsearch, hbus⟩ :=
    @feed_detectPacket _ wire { a.reset with mode := .command } rfl rfl rfl rfl
  let v : Vector UInt8 5 := #v[0x16, 0x44, 0x5A, 0x00, 0x91 &&& 0xFC ||| if x then 0x03 else 0x00]
  refine ⟨_, { a' with out := [] }, ⟨rfl, hmode, hsearch, hbus⟩, ?_⟩
  refine .bind .update <| .bind .load <| .bind (.call _) <| .bind (.call _) <| .bind (.call _) <|
    .bind (.call _) <| .bind (.call _) <| .ite_pos rfl <| .bind (.call _) <|
      .bind (exchange_runs (v := v) hfeed hout) ?_
  have hcheck : (v[3] &&& 0xF1 == 0x00 && v[3] &&& 0x0E == parmSet9600 &&
      v[4] &&& 0xF0 == 0x90 && v[4] &&& 0x0C == parmSet9600) = true := by
    cases x <;> decide
  simp only [hcheck]
  exact .pure

-- The reset of the bus shows whether any device is present. If none is, the adapter is detected anew.
theorem owTouchReset_onBus (h : (wire.reset bus).1) :
    OnBus wire owTouchReset s bus true s (wire.reset bus).2 := by
  rintro p a hp rfl rfl
  have hcommand : Adapter.command wire { a with mode := .command, out := [] }
      (cmdComm ||| functSelReset ||| p.uSpeed) =
        { a with mode := .command, out := [0xCD], bus := (wire.reset a.bus).2 } := by
    rw [hp.speed, Adapter.command, if_neg (by decide), if_neg (by decide), if_pos (by decide)]
    simp [Adapter.answer, h]
  have hb : cmdComm ||| functSelReset ||| p.uSpeed ≠ modeCommand := by
    rw [hp.speed]
    decide
  refine ⟨_, _, .bind (owLevelNormal_runs hp.level) <| .bind changeMode_runs <| .bind .load <|
    .bind (exchange_runs (v := #v[0xCD]) ((feed_command hp hb).trans hcommand) rfl) <|
      .ite_pos (by decide) .pure, ⟨rfl, hp.search, hp.level, hp.speed⟩, rfl, rfl⟩

theorem owTouchReset_onBus_of_absent (h : ¬(wire.reset bus).1) :
    OnBus wire owTouchReset s bus false s (wire.touch (wire.reset bus).2 true).2 := by
  rintro p a hp rfl rfl
  have hcommand : Adapter.command wire { a with mode := .command, out := [] }
      (cmdComm ||| functSelReset ||| p.uSpeed) =
        { a with mode := .command, out := [0xCF], bus := (wire.reset a.bus).2 } := by
    rw [hp.speed, Adapter.command, if_neg (by decide), if_neg (by decide), if_pos (by decide)]
    simp [Adapter.answer, h]
  have hb : cmdComm ||| functSelReset ||| p.uSpeed ≠ modeCommand := by
    rw [hp.speed]
    decide
  have ⟨p', a', hd, hdetect⟩ := @ds2480Detect_runs _ wire
    { a with mode := .command, out := [], bus := (wire.reset a.bus).2 }
    { p with uMode := .modSelCommand }
  refine ⟨p', a', .bind (owLevelNormal_runs hp.level) <| .bind changeMode_runs <| .bind .load <|
    .bind (exchange_runs (v := #v[0xCF]) ((feed_command hp hb).trans hcommand) rfl) <|
      .ite_neg (by decide) <| .bind hdetect .pure, hd.inSync hp.level, ?_, hd.bus⟩
  rw [hd.port]

@[simp]
theorem Wire.length_touchBytes : (wire.touchBytes bus bs).1.length = bs.length := by
  induction bs generalizing bus
  case nil          => rfl
  case cons b bs hi => rw [touchBytes, List.length_cons, hi, List.length_cons]

theorem Wire.touchBits_append {xs ys : List Bool} : wire.touchBits bus (xs ++ ys) =
    ((wire.touchBits bus xs).1 ++ (wire.touchBits (wire.touchBits bus xs).2 ys).1,
      (wire.touchBits (wire.touchBits bus xs).2 ys).2) := by
  induction xs generalizing bus
  case nil          => rfl
  case cons x xs hi => simp only [List.cons_append, touchBits, hi]

@[simp]
theorem Wire.length_touchBits {xs : List Bool} : (wire.touchBits bus xs).1.length = xs.length := by
  induction xs generalizing bus
  case nil          => rfl
  case cons x xs hi => rw [touchBits, List.length_cons, hi, List.length_cons]

-- Bytes on the bus are their bits one after the other.
theorem Wire.touchBytes_eq : bits (wire.touchBytes bus bs).1 = (wire.touchBits bus (bits bs)).1 ∧
    (wire.touchBytes bus bs).2 = (wire.touchBits bus (bits bs)).2 := by
  induction bs generalizing bus
  case nil => exact ⟨rfl, rfl⟩
  case cons b bs hi =>
    have hsplit (b : UInt8) (bs : List UInt8) : bits (b :: bs) = bits [b] ++ bits bs :=
      @bits_append [b] bs
    have hbyte : bits [(wire.touchByte bus b).1] = (wire.touchBits bus (bits [b])).1 :=
      bits_bytes (n := 1) (by simp)
    have hi := @hi (wire.touchByte bus b).2
    rw [touchBytes, hsplit, hsplit b, touchBits_append, hbyte, hi.left]
    exact ⟨rfl, hi.right⟩

namespace Packet

variable {packet : Packet}

@[simp]
theorem length_bytes : packet.bytes.length = packet.sendlen.toNat := by
  simp [bytes]

theorem bytes_push (h : packet.bytes.length < 255) : (packet.push b).bytes = packet.bytes ++ [b] := by
  rw [length_bytes] at h
  have hlen : (packet.sendlen + 1).toNat = packet.sendlen.toNat + 1 := by
    rw [UInt8.toNat_add]
    exact Nat.mod_eq_of_lt (Nat.succ_lt_succ h)
  rw [bytes, push, hlen, List.range_succ, List.map_append, bytes, List.map_singleton]
  congr 1
  case e_a =>
    refine List.map_congr_left fun i hi => if_neg fun he => ?_
    have hi := List.mem_range.mp hi
    rw [← he, UInt8.toNat_ofNat'] at hi
    omega
  case e_a => simp

-- What goes over the line for a byte of the bus.
def escaped (b : UInt8) : List UInt8 :=
  if b = modeCommand then [b, b] else [b]

theorem bytes_pushData (h : packet.bytes.length + (escaped b).length ≤ 255) :
    (packet.pushData b).bytes = packet.bytes ++ escaped b := by
  rw [escaped] at h
  rw [pushData, escaped]
  split at h
  case isTrue hb =>
    rw [if_pos hb, if_pos hb]
    rw [List.length_cons, List.length_singleton] at h
    have hfirst : (packet.push b).bytes = packet.bytes ++ [b] := bytes_push (by omega)
    rw [bytes_push (by rw [hfirst, List.length_append, List.length_singleton]; omega), hfirst,
      List.append_assoc, List.singleton_append]
  case isFalse hb =>
    rw [if_neg hb, if_neg hb]
    rw [List.length_singleton] at h
    exact bytes_push (by omega)

theorem bytes_foldl_pushData (h : packet.bytes.length + (bs.flatMap escaped).length ≤ 255) :
    (bs.foldl pushData packet).bytes = packet.bytes ++ bs.flatMap escaped := by
  induction bs generalizing packet
  case nil => exact (List.append_nil _).symm
  case cons b bs hi =>
    rw [List.flatMap_cons, List.length_append] at h
    have hb : (packet.pushData b).bytes = packet.bytes ++ escaped b := bytes_pushData (by omega)
    rw [List.foldl_cons, hi (by rw [hb, List.length_append]; omega), hb, List.flatMap_cons,
      List.append_assoc]

end Packet

-- What comes over the line goes over the bus, and back.
theorem receive_escaped (hm : a.mode = .data) (hs : a.search = none) :
    (Packet.escaped b).foldl (Adapter.receive wire) a = { a with
      out := a.out ++ [(wire.touchByte a.bus b).1]
      bus := (wire.touchByte a.bus b).2 } := by
  obtain ⟨mode, search, parameters, out, bus⟩ := a
  subst hm hs
  rw [Packet.escaped]
  split
  case isTrue hb  => simp [Adapter.receive, hb, Adapter.transmit, Adapter.answer]
  case isFalse hb => simp [Adapter.receive, hb, Adapter.transmit, Adapter.answer]

theorem feed_escaped (hm : a.mode = .data) (hs : a.search = none) :
    (bs.flatMap Packet.escaped).foldl (Adapter.receive wire) a = { a with
      out := a.out ++ (wire.touchBytes a.bus bs).1
      bus := (wire.touchBytes a.bus bs).2 } := by
  induction bs generalizing a
  case nil => simp [Wire.touchBytes]
  case cons b bs hi =>
    rw [List.flatMap_cons, List.foldl_append, receive_escaped hm hs]
    let a₁ : Adapter β := { a with
      out := a.out ++ [(wire.touchByte a.bus b).1]
      bus := (wire.touchByte a.bus b).2 }
    exact (@hi a₁ hm hs).trans <| by simp [a₁, Wire.touchBytes]

-- The first byte, if there is one, is the one that changes the mode.
theorem bytes_changeMode {c : Prop} [Decidable c] :
    ((if c then [] else [b]).foldl Packet.push Packet.empty).bytes = if c then [] else [b] := by
  split
  case isTrue  => rfl
  case isFalse => exact Packet.bytes_push (by decide)

-- A block as long as fits a packet goes to the bus as it is, whatever bytes it is made of.
structure Fits (tranBuf : List UInt8) : Prop where
  block  : tranBuf.length ≤ 160
  packet : (tranBuf.flatMap Packet.escaped).length ≤ 254

theorem Fits.bytes_eq (h : Fits bs) {c : Prop} [Decidable c] :
    (bs.foldl Packet.pushData ((if c then [] else [b]).foldl .push Packet.empty)).bytes =
      (if c then [] else [b]) ++ bs.flatMap Packet.escaped := by
  have hp := h.packet
  rw [Packet.bytes_foldl_pushData, bytes_changeMode]
  rw [bytes_changeMode]
  split
  case isTrue  => rw [List.length_nil]; omega
  case isFalse => rw [List.length_singleton]; omega

theorem fits_of_length_le (h : bs.length ≤ 127) : Fits bs where
  block  := by omega
  packet := by
    suffices h : (bs.flatMap Packet.escaped).length ≤ 2 * bs.length by omega
    clear h
    induction bs
    case nil => exact Nat.le_refl _
    case cons b bs hi =>
      have hb : (Packet.escaped b).length ≤ 2 := by
        rw [Packet.escaped]
        split <;> simp
      rw [List.flatMap_cons, List.length_append, List.length_cons]
      omega

def touched (wire : Wire β) (bus : β) (bs : List UInt8) : Vector UInt8 bs.length :=
  ⟨(wire.touchBytes bus bs).1.toArray, Wire.length_touchBytes⟩

theorem transferBlock_onBus (h : Fits bs) :
    OnBus wire (transferBlock bs) s bus (some (touched wire bus bs)) s (wire.touchBytes bus bs).2 := by
  rintro p a hp rfl rfl
  have hfeed := (@feed_data _ wire _ _ (bs.flatMap Packet.escaped) hp).trans <|
    feed_escaped rfl hp.search
  rw [← h.bytes_eq (b := modeData)] at hfeed
  refine ⟨_, _, .bind changeMode_runs <|
    .bind (exchange_runs hfeed (v := touched wire a.bus bs) ?_) .pure,
      ⟨rfl, hp.search, hp.level, hp.speed⟩, rfl, rfl⟩
  simp [touched]

theorem owBlock_onBus (h : Fits bs) :
    OnBus wire (owBlock false bs) s bus (some (touched wire bus bs)) s (wire.touchBytes bus bs).2 :=
  .ite_neg (by simpa using h.block) <| .ite_neg Bool.false_ne_true <| transferBlock_onBus h

theorem owBlock_onBus_of_reset (hr : (wire.reset bus).1) (h : Fits bs) :
    OnBus wire (owBlock true bs) s bus (some (touched wire (wire.reset bus).2 bs)) s
      (wire.touchBytes (wire.reset bus).2 bs).2 :=
  .ite_neg (by simpa using h.block) <| .ite_pos rfl <| .bind (owTouchReset_onBus hr) <|
    .ite_pos rfl <| transferBlock_onBus h

theorem owBlock_onBus_of_absent (hr : ¬(wire.reset bus).1) (h : Fits bs) :
    OnBus wire (owBlock true bs) s bus none s (wire.touch (wire.reset bus).2 true).2 :=
  .ite_neg (by simpa using h.block) <| .ite_pos rfl <| .bind (owTouchReset_onBus_of_absent hr) <|
    .ite_neg Bool.false_ne_true .pure

theorem owTouchByte_onBus :
    OnBus wire (owTouchByte b) s bus (wire.touchByte bus b).1 s (wire.touchByte bus b).2 := by
  rintro p a hp rfl rfl
  have hfeed := (@feed_data _ wire _ _ (Packet.escaped b) hp).trans <|
    receive_escaped rfl hp.search
  have hpacket : (((if p.uMode = .modSelData then [] else [modeData]).foldl Packet.push
      Packet.empty).pushData b).bytes =
        (if p.uMode = .modSelData then [] else [modeData]) ++ Packet.escaped b := by
    rw [Packet.bytes_pushData, bytes_changeMode]
    rw [bytes_changeMode, Packet.escaped]
    split <;> split <;> simp
  rw [← hpacket] at hfeed
  exact ⟨_, _, .bind (owLevelNormal_runs hp.level) <| .bind changeMode_runs <|
    .bind (exchange_runs hfeed (v := #v[(wire.touchByte a.bus b).1]) rfl) .pure,
      ⟨rfl, hp.search, hp.level, hp.speed⟩, rfl, rfl⟩

end RoboOne.OneWire.Link
