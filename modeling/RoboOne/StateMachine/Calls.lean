import RoboOne.StateMachine.Server

namespace RoboOne.StateMachine

open Interaction Hardware

namespace Call

-- The calls with which the relays are switched, by the given messages.
def Switches (ms : List HardwareMsgType) : Call → Prop
  | printDebug _                  => True
  | hardwareServerSendReceive m _ => m ∈ ms
  | _                             => False

-- The calls with which the Hindbrain is switched on or off.
def PowersHindbrain : Call → Prop
  | printDebug _                  => True
  | malloc                        => True
  | usleep _                      => True
  | hardwareServerSendReceive m _ => m = .toggleOPwr ∨ m = .sendOString
  | _                             => False

-- The calls of the handlers that do not leave the state.
def Remains : Call → Prop
  | printDebug _                   => True
  | taskHandlerServerSendReceive _ => True
  | _                              => False

end Call

variable {text onText offText : String} {m on off : HardwareMsgType} {c : Call} {C : Call → Prop}

theorem makes_ask (h : C c) : Makes C (ask c) :=
  .call h

theorem makes_printDebug (h : C (.printDebug text)) : Makes C (printDebug text) :=
  makes_ask h

theorem makes_hardwareServerSendReceive (h : C (.hardwareServerSendReceive m none)) :
    Makes C (hardwareServerSendReceive m) :=
  .bind (makes_ask h) fun _ => .pure

-- The four functions that switch the external and the on-PCB relays.
theorem makes_switchRelays :
    Makes (Call.Switches [m]) (printDebug text >>= fun _ => hardwareServerSendReceive m) :=
  .bind (makes_printDebug trivial) fun _ => makes_hardwareServerSendReceive (.head _)

theorem makes_switchSupply :
    Makes (Call.Switches [on, off]) (switchSupply onText on offText off) := by
  refine .bind (makes_printDebug trivial) fun _ => ?_
  refine .bind (makes_hardwareServerSendReceive (.head _)) fun _ => .ite ?_ .pure
  exact .bind (makes_printDebug trivial) fun _ => makes_hardwareServerSendReceive (.tail _ (.head _))

theorem makes_toggleOn : Makes Call.PowersHindbrain toggleOn := by
  refine .bind (makes_printDebug trivial) fun _ => ?_
  refine .bind (makes_hardwareServerSendReceive (.inl rfl)) fun _ => .ite ?_ .pure
  refine .bind (makes_ask trivial) fun _ => .bind (makes_printDebug trivial) fun _ => ?_
  exact .bind (makes_ask (.inr rfl)) fun _ => .pure

theorem makes_toggleOnTurns {n : Nat} : Makes Call.PowersHindbrain (toggleOnTurns n) := by
  induction n
  case zero      => exact .pure
  case succ n hi => exact .bind makes_toggleOn fun _ => .ite .pure hi

theorem makes_actionSwitchOnHindbrain : Makes Call.PowersHindbrain actionSwitchOnHindbrain := by
  refine .bind (makes_ask trivial) fun _ => .ite ?_ .pure
  exact .bind (makes_ask trivial) fun _ => .ite makes_toggleOnTurns .pure

theorem makes_toggleOff : Makes Call.PowersHindbrain toggleOff := by
  refine .bind (makes_printDebug trivial) fun _ => ?_
  refine .bind (makes_hardwareServerSendReceive (.inl rfl)) fun _ => ?_
  exact .bind (makes_printDebug trivial) fun _ => .bind (makes_ask (.inr rfl)) fun _ => .pure

theorem makes_toggleOffTurns {n : Nat} : Makes Call.PowersHindbrain (toggleOffTurns n) := by
  induction n
  case zero      => exact .pure
  case succ n hi => exact .bind makes_toggleOff fun _ => .ite hi .pure

theorem makes_actionSwitchOffHindbrain : Makes Call.PowersHindbrain actionSwitchOffHindbrain := by
  refine .bind (makes_ask trivial) fun _ => .ite ?_ .pure
  exact .bind makes_toggleOffTurns fun _ => .pure

theorem makes_eventTasksAvailable {pTaskReq : RoboOneTaskReq} :
    Makes Call.Remains (eventTasksAvailable pTaskReq) :=
  .bind (makes_ask trivial) fun _ => .ite (makes_printDebug trivial) .pure

end RoboOne.StateMachine
