import RoboOne.Hardware.Server

namespace RoboOne.Hardware

open Messaging Bytes Shared

variable {bus : OwBus} {t : HardwareMsgType} {body bs : List UInt8} {m m' : Msg}

-- The room for a response, if one is wanted.
def room (waitForResponse : Bool) : Option Nat :=
  if waitForResponse then some maxOStringLength else none

-- What comes of the string in the body of a request.
def OwBus.sent (bus : OwBus) (body : List UInt8) : Bool × Option (List UInt8) :=
  bus.orangutan.sendStringToOrangutan (body.drop sizeOfBool) (room (body.headD 0 ≠ 0))

-- The success of the operation that a message type names.
def OwBus.success (bus : OwBus) (body : List UInt8) : HardwareMsgType → Bool
  | .serverStart                        =>
    bus.startOneWireBus && bus.setupDevices (body.headD 0 ≠ 0)
  | .serverStop                         => true
  | .readMains12V                       => (bus.readBool .readMains12VPin).1
  | .readChargerStatePins               => bus.readChargerStatePins.1
  | .readChargerState                   => bus.readChargerState.1
  | .toggleOPwr                         => bus.set .toggleOPwr
  | .readOPwr                           => (bus.readBool .readOPwr).1
  | .toggleORst                         => bus.set .toggleORst
  | .readORst                           => (bus.readBool .readORst).1
  | .togglePiRst                        => bus.set .togglePiRst
  | .setRioPwr12VOn                     => bus.set .setRioPwr12VOn
  | .setRioPwr12VOff                    => bus.set .setRioPwr12VOff
  | .readRioPwr12V                      => (bus.readBool .readRioPwr12V).1
  | .setRioPwrBattOn                    => bus.set .setRioPwrBattOn
  | .setRioPwrBattOff                   => bus.set .setRioPwrBattOff
  | .readRioPwrBatt                     => (bus.readBool .readRioPwrBatt).1
  | .setOPwr12VOn                       => bus.set .setOPwr12VOn
  | .setOPwr12VOff                      => bus.set .setOPwr12VOff
  | .readOPwr12V                        => (bus.readBool .readOPwr12V).1
  | .setOPwrBattOn                      => bus.set .setOPwrBattOn
  | .setOPwrBattOff                     => bus.set .setOPwrBattOff
  | .readOPwrBatt                       => (bus.readBool .readOPwrBatt).1
  | .setRioBatteryChargerOn             => bus.set .setRioBatteryChargerOn
  | .setRioBatteryChargerOff            => bus.set .setRioBatteryChargerOff
  | .readRioBatteryCharger              => (bus.readBool .readRioBatteryCharger).1
  | .setO1BatteryChargerOn              => bus.set .setO1BatteryChargerOn
  | .setO1BatteryChargerOff             => bus.set .setO1BatteryChargerOff
  | .readO1BatteryCharger               => (bus.readBool .readO1BatteryCharger).1
  | .setO2BatteryChargerOn              => bus.set .setO2BatteryChargerOn
  | .setO2BatteryChargerOff             => bus.set .setO2BatteryChargerOff
  | .readO2BatteryCharger               => (bus.readBool .readO2BatteryCharger).1
  | .setO3BatteryChargerOn              => bus.set .setO3BatteryChargerOn
  | .setO3BatteryChargerOff             => bus.set .setO3BatteryChargerOff
  | .readO3BatteryCharger               => (bus.readBool .readO3BatteryCharger).1
  | .setAllBatteryChargersOn            => bus.set .setAllBatteryChargersOn
  | .setAllBatteryChargersOff           => bus.set .setAllBatteryChargersOff
  | .setAllOBatteryChargersOn           => bus.set .setAllOChargersOn
  | .setAllOBatteryChargersOff          => bus.set .setAllOChargersOff
  | .disableOnPCBRelays                 => bus.set .disableOnPCBRelays
  | .enableOnPCBRelays                  => bus.set .enableOnPCBRelays
  | .disableExternalRelays              => bus.set .disableExternalRelays
  | .enableExternalRelays               => bus.set .enableExternalRelays
  | .readExternalRelaysEnabled          => (bus.readBool .readExternalRelaysEnabled).1
  | .readOnPCBRelaysEnabled             => (bus.readBool .readOnPCBRelaysEnabled).1
  | .readGeneralPurposeIOs              => bus.readGeneralPurposeIOs.1
  | .readRioBattCurrent                 => (bus.readBattCurrent .rio).1
  | .readO1BattCurrent                  => (bus.readBattCurrent .o1).1
  | .readO2BattCurrent                  => (bus.readBattCurrent .o2).1
  | .readO3BattCurrent                  => (bus.readBattCurrent .o3).1
  | .readRioBattVoltage                 => (bus.readBattVoltage .rio).1
  | .readO1BattVoltage                  => (bus.readBattVoltage .o1).1
  | .readO2BattVoltage                  => (bus.readBattVoltage .o2).1
  | .readO3BattVoltage                  => (bus.readBattVoltage .o3).1
  | .readRioRemainingCapacity           => (bus.readRemainingCapacity .rio).1
  | .readO1RemainingCapacity            => (bus.readRemainingCapacity .o1).1
  | .readO2RemainingCapacity            => (bus.readRemainingCapacity .o2).1
  | .readO3RemainingCapacity            => (bus.readRemainingCapacity .o3).1
  | .readRioBattLifetimeChargeDischarge => (bus.readBattLifetimeChargeDischarge .rio).1
  | .readO1BattLifetimeChargeDischarge  => (bus.readBattLifetimeChargeDischarge .o1).1
  | .readO2BattLifetimeChargeDischarge  => (bus.readBattLifetimeChargeDischarge .o2).1
  | .readO3BattLifetimeChargeDischarge  => (bus.readBattLifetimeChargeDischarge .o3).1
  | .performCalAllBatteryMonitors       => bus.set .performCalAllBatteryMonitors
  | .performCalRioBatteryMonitor        => bus.set .performCalRioBatteryMonitor
  | .performCalO1BatteryMonitor         => bus.set .performCalO1BatteryMonitor
  | .performCalO2BatteryMonitor         => bus.set .performCalO2BatteryMonitor
  | .performCalO3BatteryMonitor         => bus.set .performCalO3BatteryMonitor
  | .swapRioBattery                     => swap .rio
  | .swapO1Battery                      => swap .o1
  | .swapO2Battery                      => swap .o2
  | .swapO3Battery                      => swap .o3
  | .readRioBattTemperature             => (bus.readBattTemperature .rio).1
  | .readO1BattTemperature              => (bus.readBattTemperature .o1).1
  | .readO2BattTemperature              => (bus.readBattTemperature .o2).1
  | .readO3BattTemperature              => (bus.readBattTemperature .o3).1
  | .sendOString                        => (bus.sent body).1
where
  swap (charger : Charger) : Bool :=
    bus.swapBattery charger (.ofNat (leValue (body.take 4))) (.ofNat (leValue ((body.drop 4).take 2)))

-- The message types that the switches have no case for, or no `break`.
def HardwareMsgType.Unhandled (t : HardwareMsgType) : Prop :=
  t = .setAllOBatteryChargersOn ∨ t = .setAllOBatteryChargersOff ∨ t = .performCalO3BatteryMonitor

instance (t : HardwareMsgType) : Decidable t.Unhandled :=
  inferInstanceAs (Decidable (_ ∨ _ ∨ _))

-- The messages that the server gets through: its switches handle them, and what is to be displayed of a
-- string fits into the buffer for it.
def HardwareMsgType.Answerable (t : HardwareMsgType) (body : List UInt8) : Prop :=
  ¬t.Unhandled ∧ (t = .sendOString → Displayable maxOStringLength (body.drop sizeOfBool))

instance (t : HardwareMsgType) (body : List UInt8) : Decidable (t.Answerable body) :=
  inferInstanceAs (Decidable (_ ∧ _))

-- A confirmation of the same type, which begins with the success of the operation.
structure Confirms (bus : OwBus) (t : HardwareMsgType) (body : List UInt8) (m : Msg) : Prop where
  msgType   : m.msgType = t.toUInt8
  msgLength : sizeOfMsgType + sizeOfBool ≤ m.msgLength.toNat
  success   : m.msgBody.head? = some (bus.success body t).toUInt8

-- The server stops with the response to the message that asks for it.
def HardwareMsgType.returnCode (t : HardwareMsgType) : ServerReturnCode :=
  if t = .serverStop then .exitNormally else .successKeepRunning

-- What most actions put into the body: success, and a value of at most so many bytes.
theorem exists_cnf (bus : OwBus) (body : List UInt8) (m : Msg) (hn : ¬t.Unhandled)
    (hs : t ≠ .sendOString) : ∃ bs, bs.length < 20 ∧
    doAction bus t body m =
      some (t.returnCode, putCnf (m.begin t.toUInt8) ((bus.success body t).toUInt8 :: bs)) := by
  cases t
  case setAllOBatteryChargersOn  => exact absurd (.inl rfl) hn
  case setAllOBatteryChargersOff => exact absurd (.inr (.inl rfl)) hn
  case performCalO3BatteryMonitor => exact absurd (.inr (.inr rfl)) hn
  case sendOString => exact absurd rfl hs
  all_goals
    refine ⟨_, ?_, rfl⟩
    simp [HardwareChargeState.bytes, HardwareChargeDischarge.bytes]

theorem putCnf_bytes {type : UInt8} (h : bs.length ≤ maxMsgBodyLength) :
    (putCnf (m.begin type) bs).bytes =
      (1 + UInt8.ofNat bs.length) :: type :: bs ++ m.msgBody.drop bs.length := by
  have ⟨hb, hl⟩ := m.begin_bytes type
  have hb : (m.begin type).bytes = [1, type] ++ m.msgBody := hb
  have hw : ((m.begin type).writeAt offsetToMsgBody bs).bytes =
      1 :: type :: bs ++ m.msgBody.drop bs.length :=
    Msg.writeAt_bytes hb rfl (by rw [hl]; exact h)
  exact Msg.addLength_bytes hw

-- The memory of a message that has a `HardwareSendOStringCnf` in its body.
structure SendOStringCnf (m : Msg) (length type success : UInt8)
    (string stringLength rest : List UInt8) : Prop where
  bytes        : m.bytes = length :: type :: success :: (string ++ (stringLength ++ rest))
  string       : string.length = maxOStringLength
  stringLength : stringLength.length = 4

namespace SendOStringCnf

variable {length type success : UInt8} {string stringLength rest response : List UInt8}

theorem begin (m : Msg) (type : UInt8) :
    ∃ success string stringLength rest, SendOStringCnf (m.begin type) 1 type success string
      stringLength rest := by
  have ⟨hb, hl⟩ := m.begin_bytes type
  have ⟨b, bs, hbody⟩ := List.exists_cons_of_length_eq_add_one (n := 256) hl
  rw [hbody] at hb hl
  have hlen : bs.length = 256 := Nat.succ.inj hl
  refine ⟨b, bs.take 80, (bs.drop 80).take 4, (bs.drop 80).drop 4, ?bytes, ?string, ?stringLength⟩
  case bytes        => rw [List.take_append_drop, List.take_append_drop, hb]
  case string       => rw [List.length_take, hlen]; rfl
  case stringLength => rw [List.length_take, List.length_drop, hlen]; rfl

theorem setStringLength (h : SendOStringCnf m length type success string stringLength rest) (n : Nat) :
    SendOStringCnf (m.writeAt offsetToStringLength (leBytes 4 n)) length type success string
      (leBytes 4 n) rest := by
  have hb : m.bytes = (length :: type :: success :: string) ++ (stringLength ++ rest) := h.bytes
  have hl : (leBytes 4 n).length = stringLength.length := by rw [length_leBytes, h.stringLength]
  refine ⟨?bytes, h.string, length_leBytes 4 n⟩
  rw [Msg.writeAt_bytes hb (by simp [h.string]; rfl) (by simp [hl]), hl, List.drop_left]
  simp

theorem setString (h : SendOStringCnf m length type success string stringLength rest)
    (hr : response.length ≤ maxOStringLength) :
    SendOStringCnf (m.writeAt offsetToString response) length type success
      (response ++ string.drop response.length) stringLength rest := by
  have hb : m.bytes = [length, type, success] ++ (string ++ (stringLength ++ rest)) := h.bytes
  have hl : response.length ≤ string.length := by rw [h.string]; exact hr
  refine ⟨?bytes, ?string, h.stringLength⟩
  case bytes =>
    have hw : (m.writeAt offsetToString response).bytes =
        [length, type, success] ++ response ++ (string ++ (stringLength ++ rest)).drop response.length :=
      Msg.writeAt_bytes hb rfl (by rw [List.length_append]; omega)
    rw [hw, List.drop_append_of_le_length hl]
    simp
  case string =>
    rw [List.length_append, List.length_drop, h.string]
    omega

theorem setSuccess (h : SendOStringCnf m length type success string stringLength rest) (b : UInt8) :
    SendOStringCnf (m.writeAt offsetToMsgBody [b]) length type b string stringLength rest := by
  have hb : m.bytes = [length, type] ++ (success :: (string ++ (stringLength ++ rest))) := h.bytes
  exact ⟨Msg.writeAt_bytes hb rfl (by simp), h.string, h.stringLength⟩

theorem addLength (h : SendOStringCnf m length type success string stringLength rest) (n : Nat) :
    SendOStringCnf (m.addLength n) (length + UInt8.ofNat n) type success string stringLength rest :=
  ⟨Msg.addLength_bytes h.bytes, h.string, h.stringLength⟩

end SendOStringCnf

-- The length that is in the confirmation in the end.
def responseLength (waitForResponse : Bool) (response : Option (List UInt8)) : Nat :=
  match response with
  | none          => if waitForResponse then maxOStringLength else 0
  | some response => response.length

section

variable {o : Orangutan} {pString response : List UInt8} {wait : Bool}
  {length type success : UInt8} {string stringLength rest : List UInt8}

-- A response is terminated, and fits into the string array.
theorem response_of_sent (h : (o.sendStringToOrangutan pString (room wait)).2 = some response) :
    wait = true ∧ (∃ s, response = s ++ [0]) ∧ response.length ≤ maxOStringLength := by
  cases wait
  case false => exact absurd (Orangutan.sendStringToOrangutan_none.symm.trans h) (by simp)
  case true  =>
    have ⟨s, hs, hl⟩ := Orangutan.sendStringToOrangutan_response (by decide) h
    exact ⟨rfl, ⟨s, hs⟩, hl⟩

-- There is one behind each success, if one is wanted.
theorem not_sent_of_none (h : (o.sendStringToOrangutan pString (room wait)).2 = none) :
    ((o.sendStringToOrangutan pString (room wait)).1 && wait) = false := by
  cases wait
  case false => rw [Bool.and_false]
  case true  =>
    rw [Bool.and_true, ← Bool.not_eq_true]
    intro hs
    have hr := Orangutan.sendStringToOrangutan_isSome (by decide) hs
    exact absurd (h ▸ hr) (by simp)

theorem responseLength_le :
    responseLength wait (o.sendStringToOrangutan pString (room wait)).2 ≤ maxOStringLength := by
  cases h : (o.sendStringToOrangutan pString (room wait)).2
  case none =>
    cases wait
    case false => exact Nat.zero_le _
    case true  => exact Nat.le_refl _
  case some response => exact (response_of_sent h).right.right

-- The bytes of a response are terminated within the string array, so that they can be displayed.
theorem displayable_response {m : Msg} {n : Nat} (hn : response.length = n)
    (h : SendOStringCnf m length type success string stringLength rest)
    (hs : string.take n = response) (hr : ∃ s, response = s ++ [0]) :
    Displayable maxOStringLength (m.msgBody.drop sizeOfBool) := by
  have ⟨s, hr⟩ := hr
  have hl : n ≤ maxOStringLength := by
    rw [← hn, ← hs, List.length_take, h.string]
    exact Nat.min_le_right _ _
  have hstring : string = s ++ 0 :: string.drop n := by
    nth_rewrite 1 [← List.take_append_drop n string]
    rw [hs, hr, List.append_assoc]
    rfl
  have hbody : m.msgBody.drop sizeOfBool = s ++ 0 :: (string.drop n ++ (stringLength ++ rest)) := by
    rw [Msg.msgBody, h.bytes]
    change string ++ (stringLength ++ rest) = _
    nth_rewrite 1 [hstring]
    rw [List.append_assoc]
    rfl
  rw [hbody]
  refine displayable_append ?_
  rw [← hn, hr, List.length_append] at hl
  exact hl

-- The confirmation: success, the response in the string array, and its length.
theorem actionSendOString_spec (o : Orangutan) (wait : Bool)
    (hd : Displayable maxOStringLength pString)
    (h : SendOStringCnf m length type success string stringLength rest) :
    let sent := o.sendStringToOrangutan pString (room wait)
    let n := responseLength wait sent.2
    ∃ m' string, actionSendOString o pString wait m = some (sizeOfBool + n + 4, m') ∧
      SendOStringCnf m' length type sent.1.toUInt8 string (leBytes 4 n) rest ∧
      ∀ response, sent.2 = some response → string.take n = response := by
  have hroom : (if wait then some (if wait then maxOStringLength else 0) else none) = room wait := by
    cases wait <;> rfl
  simp only [actionSendOString, removeCtrlCharacters_eq_if, if_pos hd, hroom]
  have hnone := @not_sent_of_none o pString wait
  have hsome (r : List UInt8) := @response_of_sent o pString r wait
  generalize o.sendStringToOrangutan pString (room wait) = sent at hnone hsome
  obtain ⟨sent, _ | response⟩ := sent
  case none =>
    refine ⟨_, string, ?_, (h.setStringLength _).setSuccess _, by simp⟩
    simp only [hnone rfl]
    rfl
  case some =>
    have ⟨_, hterminated, hl⟩ := hsome _ rfl
    have h' := (((h.setStringLength (if wait then maxOStringLength else 0)).setString hl).setStringLength
      response.length).setSuccess sent.toUInt8
    have hd' := displayable_response rfl h' List.take_left hterminated
    refine ⟨_, _, ?_, h', ?_⟩
    case refine_1 =>
      simp only [if_pos hd']
      cases sent && wait <;> rfl
    case refine_2 =>
      rintro _ ⟨rfl⟩
      exact List.take_left

theorem actionSendOString_of_not_displayable (hd : ¬Displayable maxOStringLength pString) :
    actionSendOString o pString wait m = none := by
  simp only [actionSendOString, removeCtrlCharacters_eq_if, if_neg hd]
  rfl

end

theorem confirms_of_bytes {length : UInt8} (hb : m.bytes = length :: t.toUInt8 ::
    (bus.success body t).toUInt8 :: bs) (hl : 2 ≤ length.toNat) : Confirms bus t body m where
  msgType   := by rw [Msg.msgType, hb]; rfl
  msgLength := by rw [Msg.msgLength_of_bytes hb]; exact hl
  success   := by rw [Msg.msgBody, hb]; rfl

-- The length of a confirmation stays far below what its byte can hold.
theorem two_le_toNat {n : Nat} (h₁ : 0 < n) (h₂ : n < 255) : 2 ≤ (1 + UInt8.ofNat n).toNat := by
  simp only [UInt8.toNat_add, UInt8.toNat_one, UInt8.toNat_ofNat']
  omega

-- The length in the confirmation of a string.
def OwBus.stringLength (bus : OwBus) (body : List UInt8) : Nat :=
  responseLength (body.headD 0 ≠ 0) (bus.sent body).2

theorem stringLength_le : bus.stringLength body ≤ maxOStringLength :=
  responseLength_le

-- The response to a string is counted as `sizeOfMsgType + sizeOfBool + 4` bytes and the string.
theorem doAction_sendOString (bus : OwBus) (m : Msg)
    (hd : Displayable maxOStringLength (body.drop sizeOfBool)) : ∃ m' string rest,
    doAction bus .sendOString body m = some (.successKeepRunning, m') ∧
      SendOStringCnf m' (1 + UInt8.ofNat (sizeOfBool + bus.stringLength body + 4))
        HardwareMsgType.sendOString.toUInt8 (bus.sent body).1.toUInt8 string
        (leBytes 4 (bus.stringLength body)) rest ∧
      ∀ response, (bus.sent body).2 = some response →
        string.take (bus.stringLength body) = response := by
  have ⟨success, string, stringLength, rest, h⟩ := SendOStringCnf.begin m
    HardwareMsgType.sendOString.toUInt8
  have ⟨m', string, hs, hc, hresponse⟩ := actionSendOString_spec bus.orangutan (body.headD 0 ≠ 0) hd h
  have hc := hc.addLength (sizeOfBool + bus.stringLength body + 4)
  refine ⟨_, string, rest, ?eq, hc, hresponse⟩
  case eq =>
    exact congrArg (Option.map _) hs

theorem doAction_of_not_answerable (h : ¬t.Answerable body) : doAction bus t body m = none := by
  by_cases hn : t.Unhandled
  case pos => rcases hn with rfl | rfl | rfl <;> rfl
  case neg =>
    have ⟨hs, hd⟩ := Classical.not_imp.mp fun hd => h ⟨hn, hd⟩
    subst hs
    exact congrArg (Option.map _) (actionSendOString_of_not_displayable hd)

-- The server responds to each message that it gets through.
theorem confirms_doAction (bus : OwBus) (m : Msg) (h : t.Answerable body) :
    ∃ m', doAction bus t body m = some (t.returnCode, m') ∧ Confirms bus t body m' := by
  by_cases hs : t = .sendOString
  case pos =>
    subst hs
    obtain ⟨m', string, rest, h, hc, _⟩ := doAction_sendOString bus m (h.right rfl)
    have hl : bus.stringLength body ≤ 80 := stringLength_le
    exact ⟨m', h, confirms_of_bytes hc.bytes (two_le_toNat (by omega) (by rw [sizeOfBool]; omega))⟩
  case neg =>
    obtain ⟨bs, hl, h⟩ := exists_cnf bus body m h.left hs
    have hlen : ((bus.success body t).toUInt8 :: bs).length < 21 := Nat.succ_lt_succ hl
    have hle : ((bus.success body t).toUInt8 :: bs).length ≤ maxMsgBodyLength :=
      Nat.le_trans (Nat.le_of_lt hlen) (by decide)
    exact ⟨_, h, confirms_of_bytes (putCnf_bytes hle)
      (two_le_toNat (Nat.succ_pos _) (Nat.lt_trans hlen (by decide)))⟩

-- A message for the server, what the functions come to that it calls for it, and the memory that it
-- gets for the response.
structure Request where
  msgType  : HardwareMsgType
  body     : List UInt8
  bus      : OwBus
  pSendMsg : Msg

-- The responses to messages that come one after the other, up to the one that stops the server. The
-- result is `none` if an ASSERT ends the process before.
def serve : List Request → Option (List (Request × Msg))
  | []      => some []
  | r :: rs => do
    let (returnCode, response) ← doAction r.bus r.msgType r.body r.pSendMsg
    if returnCode = .exitNormally then
      return [(r, response)]
    else
      return (r, response) :: (← serve rs)

-- The messages that get to the server while it runs.
def received : List Request → List Request
  | []      => []
  | r :: rs => if r.msgType = .serverStop then [r] else r :: received rs

variable {r : Request} {rs : List Request}

-- All of them are answered.
def AlwaysAnswers (rs : List Request) : Prop :=
  ∃ answers, serve rs = some answers ∧ answers.map Prod.fst = received rs ∧
    ∀ a ∈ answers, Confirms a.1.bus a.1.msgType a.1.body a.2

theorem serve_cons (rs : List Request) (hn : r.msgType.Answerable r.body) : ∃ response,
    Confirms r.bus r.msgType r.body response ∧
      serve (r :: rs) = if r.msgType = .serverStop then some [(r, response)]
        else (serve rs).map ((r, response) :: ·) := by
  have ⟨response, hr, hc⟩ := confirms_doAction r.bus r.pSendMsg hn
  refine ⟨response, hc, ?_⟩
  rw [serve, hr]
  by_cases ht : r.msgType = .serverStop
  case pos => simp [HardwareMsgType.returnCode, ht]
  case neg =>
    simp only [HardwareMsgType.returnCode, ht, ↓reduceIte]
    cases serve rs <;> rfl

theorem alwaysAnswers_cons : AlwaysAnswers (r :: rs) ↔
    r.msgType.Answerable r.body ∧ (r.msgType ≠ .serverStop → AlwaysAnswers rs) := by
  by_cases hn : r.msgType.Answerable r.body
  case neg =>
    refine ⟨?_, fun h => absurd h.left hn⟩
    rintro ⟨answers, hs, _⟩
    rw [serve, doAction_of_not_answerable hn] at hs
    cases hs
  case pos =>
    have ⟨response, hc, hs⟩ := serve_cons rs hn
    simp only [AlwaysAnswers, hs, received]
    by_cases ht : r.msgType = .serverStop
    case pos =>
      simp only [if_pos ht]
      exact ⟨fun _ => ⟨hn, fun h => absurd ht h⟩, fun _ => ⟨_, rfl, rfl, by simpa using hc⟩⟩
    case neg =>
      simp only [if_neg ht]
      constructor
      case mp =>
        rintro ⟨_, hm, hf, ha⟩
        obtain ⟨answers, hs, rfl⟩ := Option.map_eq_some_iff.mp hm
        exact ⟨hn, fun _ => ⟨answers, hs, (List.cons.inj hf).right,
          fun a h => ha a (List.mem_cons_of_mem _ h)⟩⟩
      case mpr =>
        rintro ⟨_, h⟩
        have ⟨answers, hs, hf, ha⟩ := h ht
        exact ⟨(r, response) :: answers, by rw [hs]; rfl, congrArg (r :: ·) hf,
          List.forall_mem_cons.mpr ⟨hc, ha⟩⟩

-- All messages that come in while the server runs are answered if and only if none of them is one of
-- the three that it has no case or no `break` for, and no string overruns the buffer for its display.
theorem hardware_server_answers_iff (rs : List Request) :
    AlwaysAnswers rs ↔ ∀ r ∈ received rs, r.msgType.Answerable r.body := by
  induction rs
  case nil => exact ⟨fun _ _ h => absurd h List.not_mem_nil, fun _ => ⟨[], rfl, rfl, by simp⟩⟩
  case cons r rs hi =>
    rw [alwaysAnswers_cons, received]
    by_cases ht : r.msgType = .serverStop
    case pos => simp [ht]
    case neg => simp [ht, hi]

-- A bus on which every operation succeeds, with an Orangutan that says nothing.
def goodBus : OwBus where
  startOneWireBus                   := true
  setupDevices _                    := true
  readChargerStatePins              := (true, 0)
  readChargerState                  := (true, ⟨false, fun _ => 0⟩)
  set _                             := true
  readBool _                        := (true, false)
  readGeneralPurposeIOs             := (true, 0)
  readBattCurrent _                 := (true, 0)
  readBattVoltage _                 := (true, 0)
  readRemainingCapacity _           := (true, 0)
  readBattLifetimeChargeDischarge _ := (true, ⟨0, 0⟩)
  swapBattery _ _ _                 := true
  readBattTemperature _             := (true, 0)
  orangutan                         := { gFd := 3, write := fun bs => bs.length, reads := [] }

-- The chargers of the Orangutan batteries are to be switched off.
theorem hardware_server_does_not_answer : ¬∀ rs, AlwaysAnswers rs := by
  intro h
  have ha := h [⟨.setAllOBatteryChargersOff, [], goodBus, .zero⟩]
  exact (alwaysAnswers_cons.mp ha).left.left (.inr (.inl rfl))

end RoboOne.Hardware
