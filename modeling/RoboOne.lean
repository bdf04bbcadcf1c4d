import RoboOne.Library.Transition
import RoboOne.Library.DoublyLinked
import RoboOne.Library.Heap
import RoboOne.Library.RestartSort
import RoboOne.Library.Loop
import RoboOne.Library.Program
import RoboOne.Library.Trace
import RoboOne.Library.Observer
import RoboOne.Library.Device
import RoboOne.Library.Bytes
import RoboOne.Library.Bits
import RoboOne.Library.Store
import RoboOne.Library.PrefixCode
import RoboOne.Library.Execution
import RoboOne.Library.Search
import RoboOne.Library.BitBuffer
import RoboOne.Library.Crc
import RoboOne.Hardware.Msgs
import RoboOne.Hardware.OwBus
import RoboOne.Hardware.MuxInput
import RoboOne.Messaging.Msg
import RoboOne.Messaging.Socket
import RoboOne.Messaging.Receive
import RoboOne.Messaging.Server
import RoboOne.Messaging.Client
import RoboOne.Messaging.Termination
import RoboOne.Messaging.Framing
import RoboOne.Messaging.Echo
import RoboOne.Messaging.Request
import RoboOne.Shared.HexDump
import RoboOne.Shared.Strings
import RoboOne.Hardware.Client
import RoboOne.Hardware.Orangutan
import RoboOne.Hardware.Server
import RoboOne.Hardware.Answers
import RoboOne.Hardware.Response
import RoboOne.Hardware.Shadow
import RoboOne.Hardware.Agreement
import RoboOne.Hardware.Relays
import RoboOne.Hardware.RelayStore
import RoboOne.Hardware.SetPins
import RoboOne.Hardware.Devices
import RoboOne.Hardware.Setup
import RoboOne.Hardware.FlashDetection
import RoboOne.Hardware.SerialLine
import RoboOne.OneWire.Server
import RoboOne.OneWire.Proxy
import RoboOne.OneWire.Ds2438
import RoboOne.OneWire.Units
import RoboOne.OneWire.Config
import RoboOne.OneWire.Calibration
import RoboOne.OneWire.Voltage
import RoboOne.OneWire.BatteryReading
import RoboOne.OneWire.Temperature
import RoboOne.OneWire.TimeCapacity
import RoboOne.OneWire.Pages
import RoboOne.OneWire.Restore
import RoboOne.OneWire.ChargeDischarge
import RoboOne.OneWire.Link
import RoboOne.OneWire.Adapter
import RoboOne.OneWire.Slaves
import RoboOne.OneWire.Search
import RoboOne.OneWire.Verify
import RoboOne.OneWire.Session
import RoboOne.OneWire.Access
import RoboOne.OneWire.CrcUtil
import RoboOne.OneWire.Ds2408
import RoboOne.OneWire.Errors
import RoboOne.Hardware.PioBus
import RoboOne.Hardware.Chips
import RoboOne.Timer.Client
import RoboOne.Timer.Server
import RoboOne.Timer.Timetable
import RoboOne.Timer.Lists
import RoboOne.Timer.Refinement
import RoboOne.Timer.Integrity
import RoboOne.Timer.Delivery
import RoboOne.Timer.Punctuality
import RoboOne.Timer.Stopping
import RoboOne.BatteryManager.Server
import RoboOne.BatteryManager.Charger
import RoboOne.BatteryManager.Commands
import RoboOne.BatteryManager.Steps
import RoboOne.BatteryManager.Order
import RoboOne.BatteryManager.Charging
import RoboOne.BatteryManager.Overcharge
import RoboOne.BatteryManager.Resumption
import RoboOne.BatteryManager.Temperature
import RoboOne.BatteryManager.Response
import RoboOne.BatteryManager.Client
import RoboOne.BatteryManager.Traffic
import RoboOne.BatteryManager.Signals
import RoboOne.BatteryManager.Evaluation
import RoboOne.BatteryManager.Episodes
import RoboOne.BatteryManager.Consistency
import RoboOne.BatteryManager.Containers
import RoboOne.BatteryManager.Independence
import RoboOne.BatteryManager.Conservation
import RoboOne.BatteryManager.MissingData
import RoboOne.BatteryManager.Capacity
import RoboOne.BatteryManager.Spacing
import RoboOne.StateMachine.Client
import RoboOne.StateMachine.State
import RoboOne.StateMachine.Actions
import RoboOne.StateMachine.Server
import RoboOne.StateMachine.Calls
import RoboOne.StateMachine.Diagram
import RoboOne.StateMachine.Dispatch
import RoboOne.StateMachine.InitFailure
import RoboOne.StateMachine.Relays
import RoboOne.StateMachine.Docking
import RoboOne.StateMachine.Hindbrain
import RoboOne.StateMachine.Forwarding
import RoboOne.StateMachine.Unconfirmed
import RoboOne.TaskHandler.Handler
import RoboOne.TaskHandler.Backlog
import RoboOne.TaskHandler.Lists
import RoboOne.TaskHandler.Integrity
import RoboOne.TaskHandler.Guards
import RoboOne.TaskHandler.Reclaim
import RoboOne.TaskHandler.Indications
import RoboOne.Robot.Composition
import RoboOne.Robot.Permission
import RoboOne.Robot.Transitory
import RoboOne.Robot.Requests
import RoboOne.Robot.Supplies
import RoboOne.Robot.Chargers
import RoboOne.Monitor.Windows
import RoboOne.Monitor.Turns
import RoboOne.Monitor.Mains
import RoboOne.Monitor.Batteries
import RoboOne.Monitor.Cadence
import RoboOne.Charger.Main
import RoboOne.Charger.Head
import RoboOne.Menu.Commands
import RoboOne.Menu.Prefixes
import RoboOne.Menu.Entry
