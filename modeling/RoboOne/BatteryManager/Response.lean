import RoboOne.BatteryManager.Resumption
import RoboOne.Messaging.Request

namespace RoboOne.BatteryManager

open Messaging

def sizeOfBatteryData : Nat := 22

-- The memory of the structure, which is packed.
def BatteryStatus.bytes (st : BatteryStatus) : List UInt8 :=
  [st.fullyCharged, st.insufficientCharge, st.chargerOn, st.overTemperature,
    st.temperatureBroken].map Bool.toUInt8

def BatteryManagerMsgType.toUInt8 (t : BatteryManagerMsgType) : UInt8 :=
  .ofNat t.ctorIdx

-- The type of a message. The ASSERT of `serverHandleMsg` fails if there is no such type.
def BatteryManagerMsgType.ofUInt8? (byte : UInt8) : Option BatteryManagerMsgType :=
  [serverStart, serverStop, dataRio, dataO1, dataO2, dataO3, chargingPermitted, timerExpiry][byte.toNat]?

theorem ofUInt8?_toUInt8 (t : BatteryManagerMsgType) :
    BatteryManagerMsgType.ofUInt8? t.toUInt8 = some t := by
  cases t <;> rfl

def Battery.dataMsg : Battery → BatteryManagerMsgType
  | .rio => .dataRio
  | .o1  => .dataO1
  | .o2  => .dataO2
  | .o3  => .dataO3

section

-- What the memory of a `BatteryData` stands for. Its temperature is a `double`.
variable (batteryData : List UInt8 → BatteryData)

-- One of the four cases of the switch in `doAction` that are about data. The status is put where the
-- structure of the response has it, behind `success`.
def respondData (b : Battery) (pReceivedMsgBody : List UInt8) (pSendMsg : Msg) (s : State) :
    Option (State × ServerReturnCode × Msg) := do
  let (s, status) ← actionBatteryManagerData b
    (batteryData (pReceivedMsgBody.take sizeOfBatteryData)) s
  let pSendMsg := pSendMsg.writeAt (offsetToMsgBody + sizeOfBool) status.bytes
  return (s, .successKeepRunning, pSendMsg.addLength status.bytes.length)

-- `pSendMsgBody->success = true`, as the start and the stop of the server do.
def respondSuccess (pSendMsg : Msg) : Msg :=
  (pSendMsg.writeAt offsetToMsgBody [true.toUInt8]).addLength sizeOfBool

-- `doAction` as a whole, with the return code and the response.
def handle (receivedMsgType : BatteryManagerMsgType) (pReceivedMsgBody : List UInt8)
    (pSendMsg : Msg) (s : State) : Option (State × ServerReturnCode × Msg) :=
  let pSendMsg := pSendMsg.begin receivedMsgType.toUInt8
  match receivedMsgType with
  | .serverStart       =>
    some (actionBatteryManagerServerStart s, .successKeepRunning, respondSuccess pSendMsg)
  | .serverStop        => some (s, .exitNormally, respondSuccess pSendMsg)
  | .dataRio           => respondData batteryData .rio pReceivedMsgBody pSendMsg s
  | .dataO1            => respondData batteryData .o1 pReceivedMsgBody pSendMsg s
  | .dataO2            => respondData batteryData .o2 pReceivedMsgBody pSendMsg s
  | .dataO3            => respondData batteryData .o3 pReceivedMsgBody pSendMsg s
  | .chargingPermitted =>
    (actionBatteryManagerChargingPermitted (pReceivedMsgBody.headD 0 ≠ 0) s).map
      (·, .successKeepRunning, pSendMsg)
  | .timerExpiry       =>
    some (actionBatteryManagerTimerExpiry s, .successKeepRunning, pSendMsg)

def serverHandleMsg (pReceivedMsg pSendMsg : Msg) (s : State) :
    Option (State × ServerReturnCode × Msg) :=
  (BatteryManagerMsgType.ofUInt8? pReceivedMsg.msgType).bind fun t =>
    handle batteryData t pReceivedMsg.msgBody pSendMsg s

end

variable {batteryData : List UInt8 → BatteryData} {s s' : State} {b : Battery} {m : Msg}

-- The byte of `success` is left as it was in the memory of the message.
theorem begin_bytes (t : BatteryManagerMsgType) (m : Msg) : ∃ bs,
    (m.begin t.toUInt8).bytes = [1, t.toUInt8, m.bytes.getD 2 0] ++ bs ∧ bs.length = 256 := by
  have ⟨hb, hl⟩ := m.begin_bytes t.toUInt8
  have ⟨b, bs, hbody⟩ := List.exists_cons_of_length_eq_add_one (n := 256) hl
  have hget : m.bytes.getD 2 0 = b := by
    have h : m.msgBody[0]? = some b := by rw [hbody]; rfl
    rw [Msg.msgBody, List.getElem?_drop] at h
    rw [List.getD_eq_getElem?_getD]
    exact congrArg (Option.getD · 0) h
  rw [hbody] at hb hl
  rw [hget]
  exact ⟨bs, hb, Nat.succ.inj hl⟩

theorem handle_dataMsg {body : List UInt8} : handle batteryData b.dataMsg body m s =
    respondData batteryData b body (m.begin b.dataMsg.toUInt8) s := by
  cases b <;> rfl

theorem actionBatteryManagerData_status {d : BatteryData} {st : BatteryStatus}
    (h : actionBatteryManagerData b d s = some (s', st)) :
    step s (.data b d) = some s' ∧ st = s'.status b := by
  refine ⟨?step, ?status⟩
  case step =>
    rw [step, if_pos (by rfl), doAction]
    exact congrArg (Option.map Prod.fst) h
  case status =>
    rw [actionBatteryManagerData_eq] at h
    obtain ⟨s₁, _, he⟩ := Option.map_eq_some_iff.mp h
    obtain ⟨rfl, rfl⟩ := Prod.mk.inj he
    rw [(signalChargeStateAll_sameDecisions s₁).status]

-- The response to data: the byte `success` is what it was in memory, and the length leaves it out.
theorem serverHandleMsg_data {pReceivedMsg pSendMsg : Msg} {returnCode : ServerReturnCode}
    (ht : pReceivedMsg.msgType = b.dataMsg.toUInt8)
    (h : serverHandleMsg batteryData pReceivedMsg pSendMsg s = some (s', returnCode, m)) :
    step s (.data b (batteryData (pReceivedMsg.msgBody.take sizeOfBatteryData))) = some s' ∧
      ∃ bs, m.bytes = 6 :: b.dataMsg.toUInt8 :: pSendMsg.bytes.getD 2 0 ::
        (s'.status b).bytes ++ bs := by
  rw [serverHandleMsg, ht, ofUInt8?_toUInt8, Option.bind_some, handle_dataMsg] at h
  have ⟨⟨s₁, st⟩, ha, h⟩ := Option.bind_eq_some_iff.mp h
  simp only [Option.pure_def, Option.some.injEq, Prod.mk.injEq] at h
  obtain ⟨rfl, _, rfl⟩ := h
  obtain ⟨hstep, rfl⟩ := actionBatteryManagerData_status ha
  refine ⟨hstep, ?_⟩
  have ⟨bs, hb, hl⟩ := begin_bytes b.dataMsg pSendMsg
  have hlen : (s₁.status b).bytes.length ≤ bs.length := by rw [hl]; exact (by decide : 5 ≤ 256)
  exact ⟨_, Msg.addLength_bytes (Msg.writeAt_bytes hb rfl hlen)⟩

end RoboOne.BatteryManager
