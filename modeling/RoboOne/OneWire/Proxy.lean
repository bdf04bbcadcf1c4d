import RoboOne.OneWire.Server

namespace RoboOne.OneWire

open Bytes Interaction

-- The members of the requests behind the header.
inductive WriteReq
  | writeControlRegisterDS2408 (data : UInt8)
  | channelAccessWriteDS2408 (data : Vector UInt8 ds2408MaxBytesInChannelAccess)
  | writeCSChannelSelectionMaskRegisterDS2408 (data : UInt8)
  | writeCSChannelPolaritySelectionRegisterDS2408 (data : UInt8)
  | writeNVPageDS2438 (page memLength : UInt8) (mem : Vector UInt8 ds2438NumBytesInPage)
  | writeNVConfigThresholdDS2438 (config : UInt8) (thresholdPresent : Bool) (threshold : UInt8)
  | writeTimeCapacityDS2438 (elapsedTime : UInt32) (remainingCapacityPresent : Bool)
    (remainingCapacity : UInt16)
  | writeNVChargeDischargeDS2438 (charge : UInt32) (dischargePresent : Bool) (discharge : UInt32)
  | writeNVUserDataDS2438 (block memLength : UInt8) (mem : Vector UInt8 ds2438NumBytesInPage)
deriving DecidableEq

-- The memory of the header and of the members, which are packed.
def OneWireMsgHeader.bytes (h : OneWireMsgHeader) : List UInt8 :=
  leBytes 4 h.portNumber.toUInt32.toNat ++ h.serialNumber.toList

namespace WriteReq

def msgType : WriteReq → OneWireMsgType
  | writeControlRegisterDS2408 ..                    => .writeControlRegisterDS2408
  | channelAccessWriteDS2408 ..                      => .channelAccessWriteDS2408
  | writeCSChannelSelectionMaskRegisterDS2408 ..     => .writeCSChannelSelectionMaskRegisterDS2408
  | writeCSChannelPolaritySelectionRegisterDS2408 .. => .writeCSChannelPolaritySelectionRegisterDS2408
  | writeNVPageDS2438 ..                             => .writeNVPageDS2438
  | writeNVConfigThresholdDS2438 ..                  => .writeNVConfigThresholdDS2438
  | writeTimeCapacityDS2438 ..                       => .writeTimeCapacityDS2438
  | writeNVChargeDischargeDS2438 ..                  => .writeNVChargeDischargeDS2438
  | writeNVUserDataDS2438 ..                         => .writeNVUserDataDS2438

def bytes : WriteReq → List UInt8
  | writeControlRegisterDS2408 data                    => [data]
  | channelAccessWriteDS2408 data                      => data.toList
  | writeCSChannelSelectionMaskRegisterDS2408 data     => [data]
  | writeCSChannelPolaritySelectionRegisterDS2408 data => [data]
  | writeNVPageDS2438 page memLength mem               => page :: memLength :: mem.toList
  | writeNVConfigThresholdDS2438 config thresholdPresent threshold =>
    [config, thresholdPresent.toUInt8, threshold]
  | writeTimeCapacityDS2438 elapsedTime remainingCapacityPresent remainingCapacity =>
    leBytes 4 elapsedTime.toNat ++ remainingCapacityPresent.toUInt8 ::
      leBytes 2 remainingCapacity.toNat
  | writeNVChargeDischargeDS2438 charge dischargePresent discharge =>
    leBytes 4 charge.toNat ++ dischargePresent.toUInt8 :: leBytes 4 discharge.toNat
  | writeNVUserDataDS2438 block memLength mem          => block :: memLength :: mem.toList

-- The function that the request stands for, with what is in the request. An optional member that is
-- not present is `PNULL`. No request has a member for `writeShadow`.
def function (writeShadow : Bool) : WriteReq → DriverFunction
  | writeControlRegisterDS2408 data                    => .writeControlRegisterDS2408 data
  | channelAccessWriteDS2408 data                      => .channelAccessWriteDS2408 data.toList
  | writeCSChannelSelectionMaskRegisterDS2408 data     => .writeCSChannelSelectionMaskRegisterDS2408 data
  | writeCSChannelPolaritySelectionRegisterDS2408 data =>
    .writeCSChannelPolaritySelectionRegisterDS2408 data
  | writeNVPageDS2438 page memLength mem               => .writeNVPageDS2438 page mem.toList memLength
  | writeNVConfigThresholdDS2438 config thresholdPresent threshold =>
    .writeNVConfigThresholdDS2438 config (if thresholdPresent then some threshold else none)
  | writeTimeCapacityDS2438 elapsedTime remainingCapacityPresent remainingCapacity =>
    .writeTimeCapacityDS2438 elapsedTime
      (if remainingCapacityPresent then some remainingCapacity else none) writeShadow
  | writeNVChargeDischargeDS2438 charge dischargePresent discharge =>
    .writeNVChargeDischargeDS2438 charge (if dischargePresent then some discharge else none)
  | writeNVUserDataDS2438 block memLength mem          => .writeNVUserDataDS2438 block mem.toList memLength

-- The ASSERTs of the driver on the members, which are those of the server as well.
def Admissible : WriteReq → Prop
  | writeNVPageDS2438 page memLength _ =>
    page < ds2438NumPages ∧ memLength.toNat ≤ ds2438NumBytesInPage
  | writeNVUserDataDS2438 block memLength _ =>
    block < ds2438NumUserDataPages ∧ memLength.toNat ≤ ds2438NumBytesInPage
  | _ => True

instance : DecidablePred Admissible
  | writeControlRegisterDS2408 _                    => inferInstanceAs (Decidable True)
  | channelAccessWriteDS2408 _                      => inferInstanceAs (Decidable True)
  | writeCSChannelSelectionMaskRegisterDS2408 _     => inferInstanceAs (Decidable True)
  | writeCSChannelPolaritySelectionRegisterDS2408 _ => inferInstanceAs (Decidable True)
  | writeNVPageDS2438 _ _ _                         => inferInstanceAs (Decidable (_ ∧ _))
  | writeNVConfigThresholdDS2438 _ _ _              => inferInstanceAs (Decidable True)
  | writeTimeCapacityDS2438 _ _ _                   => inferInstanceAs (Decidable True)
  | writeNVChargeDischargeDS2438 _ _ _              => inferInstanceAs (Decidable True)
  | writeNVUserDataDS2438 _ _ _                     => inferInstanceAs (Decidable (_ ∧ _))

-- The direct call of the driver, and the response for what it returns.
def direct (writeShadow : Bool) (h : OneWireMsgHeader) (r : WriteReq) :
    OneWireProgram (List UInt8) := do
  assert (decide r.Admissible)
  callDriver h.portNumber h.serialNumber.toList (r.function writeShadow)

-- A discharge is carried that takes more than two bytes.
def WideDischarge : WriteReq → Prop
  | writeNVChargeDischargeDS2438 _ dischargePresent discharge =>
    dischargePresent = true ∧ 2 ^ 16 ≤ discharge.toNat
  | _ => False

-- The driver has an argument that the server does not pass.
def LacksArgument (r : WriteReq) : Prop :=
  r.msgType = .writeTimeCapacityDS2438

end WriteReq

-- What comes of a request is what comes of the direct call, whatever the server has in place of the
-- argument that it does not pass, and whatever is passed for it directly. There may be anything behind
-- the request.
def Proxied (env : Environment DriverCall.Answer) (w : OneWireWorld) (h : OneWireMsgHeader)
    (r : WriteReq) (bs : List UInt8) : Prop :=
  ∀ notPassed writeShadow,
    doAction notPassed r.msgType (h.bytes ++ (r.bytes ++ bs)) env w = r.direct writeShadow h env w

variable {notPassed writeShadow : Bool} {h : OneWireMsgHeader} {r : WriteReq}
  {env : Environment DriverCall.Answer} {w : OneWireWorld} {bs : List UInt8} {n : Nat}

-- What is read at the end of `as`, if it has been put there.
section

variable (as : List UInt8)

theorem boolAt_append {v : Bool} (hn : as.length = n) : boolAt (as ++ v.toUInt8 :: bs) n = v := by
  subst hn
  cases v
  case false => simp [boolAt, Bool.toUInt8]
  case true  => simp [boolAt, Bool.toUInt8]

theorem uint16At_append {v : UInt16} (hn : as.length = n) :
    uint16At (as ++ (leBytes 2 v.toNat ++ bs)) n = v := by
  have hv : v.toNat < 256 ^ 2 := v.toNat_lt
  rw [uint16At, List.drop_left' hn, List.take_left' (length_leBytes 2 _), leValue_leBytes,
    Nat.mod_eq_of_lt hv, UInt16.ofNat_toNat]

theorem uint32At_append {v : UInt32} (hn : as.length = n) :
    uint32At (as ++ (leBytes 4 v.toNat ++ bs)) n = v := by
  have hv : v.toNat < 256 ^ 4 := v.toNat_lt
  rw [uint32At, List.drop_left' hn, List.take_left' (length_leBytes 4 _), leValue_leBytes,
    Nat.mod_eq_of_lt hv, UInt32.ofNat_toNat]

theorem arrayAt_append {m : Nat} {v : Vector UInt8 m} (hn : as.length = n) :
    arrayAt (as ++ (v.toList ++ bs)) n m = v.toList := by
  rw [arrayAt, List.drop_left' hn, List.take_left' v.length_toList]

end

-- How the server takes the header off a request.
section

theorem length_header (h : OneWireMsgHeader) : h.bytes.length = sizeOfOneWireMsgHeader := by
  rw [OneWireMsgHeader.bytes, List.length_append, length_leBytes, Vector.length_toList]
  rfl

theorem portNumber_append : (uint32At (h.bytes ++ bs) 0).toInt32 = h.portNumber := by
  have hp : uint32At (leBytes 4 h.portNumber.toUInt32.toNat ++ (h.serialNumber.toList ++ bs)) 0 =
      h.portNumber.toUInt32 := uint32At_append [] rfl
  rw [OneWireMsgHeader.bytes, List.append_assoc]
  exact congrArg UInt32.toInt32 hp

theorem serialNumber_append :
    arrayAt (h.bytes ++ bs) 4 numBytesInSerialNum = h.serialNumber.toList := by
  rw [OneWireMsgHeader.bytes, List.append_assoc, arrayAt_append _ (length_leBytes 4 _)]

theorem req_append : (h.bytes ++ bs).drop sizeOfOneWireMsgHeader = bs :=
  List.drop_left' (length_header h)

end

-- What the server makes of a request, before it calls the driver.
def WriteReq.narrowed : WriteReq → WriteReq
  | writeNVChargeDischargeDS2438 charge dischargePresent discharge =>
    writeNVChargeDischargeDS2438 charge dischargePresent discharge.toUInt16.toUInt32
  | r => r

section

variable {portNumber : Int32} {serialNumber : List UInt8}

-- The two ASSERTs on a page are one, and the memory that is to be written follows its number and length.
theorem writeMemory_eq (function : List UInt8 → DriverFunction) {a b : UInt8}
    {v : Vector UInt8 ds2438NumBytesInPage} {c c' : Prop} [Decidable c] [Decidable c'] :
    (assert c >>= fun _ => assert c' >>= fun _ => callDriver portNumber serialNumber
        (function (arrayAt (a :: b :: (v.toList ++ bs)) 2 ds2438NumBytesInPage)) :
          OneWireProgram (List UInt8)) =
      assert (c ∧ c') >>= fun _ => callDriver portNumber serialNumber (function v.toList) := by
  have hm : arrayAt (a :: b :: (v.toList ++ bs)) 2 ds2438NumBytesInPage = v.toList :=
    arrayAt_append [a, b] rfl
  rw [assert_bind_assert_bind, ← Bool.decide_and, hm]

-- What is found behind the header of the requests with several numbers.
theorem writeTimeCapacity_eq (elapsedTime : UInt32) (present : Bool) (remainingCapacity : UInt16)
    (bs : List UInt8) :
    let req := (WriteReq.writeTimeCapacityDS2438 elapsedTime present remainingCapacity).bytes ++ bs
    uint32At req 0 = elapsedTime ∧ boolAt req 4 = present ∧ uint16At req 5 = remainingCapacity :=
  ⟨uint32At_append [] rfl, boolAt_append (leBytes 4 elapsedTime.toNat) rfl,
    uint16At_append (leBytes 4 elapsedTime.toNat ++ [present.toUInt8]) rfl⟩

theorem writeChargeDischarge_eq (charge : UInt32) (present : Bool) (discharge : UInt32)
    (bs : List UInt8) :
    let req := (WriteReq.writeNVChargeDischargeDS2438 charge present discharge).bytes ++ bs
    uint32At req 0 = charge ∧ boolAt req 4 = present ∧ uint32At req 5 = discharge :=
  ⟨uint32At_append [] rfl, boolAt_append (leBytes 4 charge.toNat) rfl,
    uint32At_append (leBytes 4 charge.toNat ++ [present.toUInt8]) rfl⟩

end

-- The driver is called with what is left of the request, or else the same ASSERT fails.
theorem doAction_eq (r : WriteReq) :
    doAction notPassed r.msgType (h.bytes ++ (r.bytes ++ bs)) = r.narrowed.direct notPassed h := by
  rw [doAction.eq_def, portNumber_append, serialNumber_append, req_append]
  cases r
  case writeControlRegisterDS2408 => rfl
  case writeCSChannelSelectionMaskRegisterDS2408 => rfl
  case writeCSChannelPolaritySelectionRegisterDS2408 => rfl
  case channelAccessWriteDS2408 data =>
    have hd : arrayAt (data.toList ++ bs) 0 ds2408MaxBytesInChannelAccess = data.toList :=
      arrayAt_append [] rfl
    exact congrArg (actionChannelAccessWriteDS2408 h.portNumber h.serialNumber.toList) hd
  case writeNVPageDS2438 page memLength mem =>
    exact writeMemory_eq (.writeNVPageDS2438 page · memLength)
  case writeNVUserDataDS2438 block memLength mem =>
    exact writeMemory_eq (.writeNVUserDataDS2438 block · memLength)
  case writeNVConfigThresholdDS2438 config thresholdPresent threshold =>
    have hp : boolAt (config :: thresholdPresent.toUInt8 :: threshold :: bs) 1 = thresholdPresent :=
      boolAt_append [config] rfl
    exact congrArg (actionWriteNVConfigThresholdDS2438 h.portNumber h.serialNumber.toList config ·
      threshold) hp
  case writeTimeCapacityDS2438 elapsedTime remainingCapacityPresent remainingCapacity =>
    have ⟨ht, hp, hc⟩ := writeTimeCapacity_eq elapsedTime remainingCapacityPresent remainingCapacity bs
    change actionWriteTimeCapacityDS2438 h.portNumber h.serialNumber.toList (uint32At _ 0)
      (boolAt _ 4) (uint16At _ 5) notPassed = _
    rw [ht, hp, hc]
    rfl
  case writeNVChargeDischargeDS2438 charge dischargePresent discharge =>
    have ⟨hc, hp, hd⟩ := writeChargeDischarge_eq charge dischargePresent discharge bs
    change actionWriteNVChargeDischargeDS2438 h.portNumber h.serialNumber.toList (uint32At _ 0)
      (boolAt _ 4) (uint32At _ 5).toUInt16.toUInt32 = _
    rw [hc, hp, hd]
    rfl

theorem toUInt16_toUInt32_eq_iff {v : UInt32} : v.toUInt16.toUInt32 = v ↔ v.toNat < 2 ^ 16 := by
  rw [← UInt32.toNat_inj, UInt16.toNat_toUInt32, UInt32.toNat_toUInt16]
  exact Nat.mod_eq_iff_lt (by decide)

-- The driver gets something else if and only if something of the discharge gets lost, or if there is an
-- argument that it does not get from the server.
theorem function_narrowed_iff :
    (∀ notPassed writeShadow, r.narrowed.function notPassed = r.function writeShadow) ↔
      ¬r.WideDischarge ∧ ¬r.LacksArgument := by
  cases r
  case writeNVChargeDischargeDS2438 charge dischargePresent discharge =>
    refine Iff.trans ?_ (and_iff_left (by simp [WriteReq.LacksArgument, WriteReq.msgType])).symm
    cases dischargePresent
    case false => exact iff_of_true (fun _ _ => rfl) fun hw => by cases hw.left
    case true =>
      constructor
      case mp =>
        intro h hw
        injection h true true with _ h
        injection h with h
        exact absurd (toUInt16_toUInt32_eq_iff.mp h) (Nat.not_lt.mpr hw.right)
      case mpr =>
        intro h _ _
        have hd := toUInt16_toUInt32_eq_iff.mpr <| Nat.lt_of_not_le fun hw => h ⟨rfl, hw⟩
        exact congrArg (fun discharge => DriverFunction.writeNVChargeDischargeDS2438 charge
          (some discharge)) hd
  case writeTimeCapacityDS2438 =>
    refine iff_of_false (fun h => ?_) fun h => h.right rfl
    injection h true false with _ _ h
    cases h
  all_goals exact iff_of_true (fun _ _ => rfl) ⟨id, by simp [WriteReq.LacksArgument, WriteReq.msgType]⟩

theorem admissible_narrowed : r.narrowed.Admissible ↔ r.Admissible := by
  cases r <;> rfl

-- The requests with an ASSERT are carried as they are.
theorem function_of_not_admissible (ha : ¬r.Admissible) :
    r.narrowed.function notPassed = r.function writeShadow := by
  cases r
  case writeNVPageDS2438     => rfl
  case writeNVUserDataDS2438 => rfl
  all_goals exact absurd trivial ha

def WriteReq.call (writeShadow : Bool) (h : OneWireMsgHeader) (r : WriteReq) : DriverCall :=
  ⟨h.portNumber, h.serialNumber.toList, r.function writeShadow⟩

theorem direct_apply_of_admissible (ha : r.Admissible) : r.direct writeShadow h env w =
    some ([Bool.toUInt8 (env w.history (r.call writeShadow h))],
      w.record (r.call writeShadow h) (env w.history (r.call writeShadow h))) := by
  rw [WriteReq.direct, decide_eq_true ha]
  rfl

-- Two requests come to the same only if the driver is called with the same.
theorem function_eq_of_direct_eq {r' : WriteReq} (ha : r.Admissible) (ha' : r'.Admissible)
    (hd : r.direct notPassed h env w = r'.direct writeShadow h env w) :
    r.function notPassed = r'.function writeShadow := by
  rw [direct_apply_of_admissible ha, direct_apply_of_admissible ha'] at hd
  have hc := World.call_eq_of_record_eq <| congrArg Prod.snd <| Option.some.inj hd
  exact congrArg DriverCall.function hc

theorem direct_of_not_admissible (ha : ¬r.Admissible) : r.direct notPassed h env w = none := by
  rw [WriteReq.direct, decide_eq_false ha]
  rfl

-- The server is transparent for a request, unless it has a discharge that does not fit into two bytes, or
-- the driver has one more argument.
theorem write_request_proxied_iff (env : Environment DriverCall.Answer) (w : OneWireWorld)
    (h : OneWireMsgHeader) (r : WriteReq) (bs : List UInt8) :
    Proxied env w h r bs ↔ ¬r.WideDischarge ∧ ¬r.LacksArgument := by
  rw [← function_narrowed_iff]
  simp only [Proxied, doAction_eq]
  refine forall_congr' fun notPassed => forall_congr' fun writeShadow => ?_
  by_cases ha : r.Admissible
  case neg =>
    have ha' := mt admissible_narrowed.mp ha
    rw [direct_of_not_admissible ha, direct_of_not_admissible ha']
    exact iff_of_true rfl (function_of_not_admissible ha)
  case pos =>
    have ha' := admissible_narrowed.mpr ha
    refine ⟨function_eq_of_direct_eq ha' ha, fun hf => ?_⟩
    rw [direct_apply_of_admissible ha, direct_apply_of_admissible ha', WriteReq.call, hf]
    rfl

-- A discharge of 65536 mAh arrives as 0.
theorem write_request_not_proxied : ¬∀ (env : Environment DriverCall.Answer) (w : OneWireWorld)
    (h : OneWireMsgHeader) (r : WriteReq) (bs : List UInt8), Proxied env w h r bs := by
  intro h
  let r : WriteReq := .writeNVChargeDischargeDS2438 0 true 65536
  have ha : r.Admissible := trivial
  have ha' : r.narrowed.Admissible := trivial
  have hd := h (fun _ _ => true) ⟨(), []⟩ ⟨0, .replicate 8 0⟩ r [] true true
  rw [doAction_eq] at hd
  exact absurd (function_eq_of_direct_eq ha' ha hd) (by decide)

end RoboOne.OneWire
