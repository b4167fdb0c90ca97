import Pybrid.Library.Framing
import Pybrid.Library.Transition
import Pybrid.Library.Raising
import Pybrid.Library.Slots
import Pybrid.Library.Fuel
import Pybrid.Library.Locks
import Pybrid.Library.Trace
import Pybrid.Library.Fifo
import Pybrid.Library.Numerals
import Pybrid.Native.Varint
import Pybrid.Native.TcpTransport
import Pybrid.Native.TcpRecv
import Pybrid.Native.Message
import Pybrid.Native.ControlChannel
import Pybrid.Native.DataChannel
import Pybrid.Native.SampleDecoding
import Pybrid.Native.CallbackLocks
import Pybrid.Native.StreamOwner
import Pybrid.Native.TcpFallback
import Pybrid.Proxy.Update
import Pybrid.Proxy.UdpQueue
import Pybrid.Proxy.SessionLocks
import Pybrid.Proxy.RunCoordinator
import Pybrid.Proxy.MessageHandlers
import Pybrid.Proxy.Server
import Pybrid.Proxy.SessionQueue
import Pybrid.Proxy.Requests
import Pybrid.Proxy.Disposition
import Pybrid.Proxy.Authentication
import Pybrid.Proxy.Forwarding
import Pybrid.Redac.Entities
import Pybrid.Redac.TBlock
import Pybrid.Redac.Blocks
import Pybrid.Redac.Wire
import Pybrid.Redac.BlockSerializer
import Pybrid.Redac.BlockRoundTrip
import Pybrid.Redac.Computer
import Pybrid.Redac.Router
import Pybrid.Redac.RouterLaws
import Pybrid.Redac.Serializer
import Pybrid.Redac.SerializerRoundTrip
import Pybrid.Lucipy.Elements
import Pybrid.Lucipy.Circuit
import Pybrid.Lucipy.Lanes
import Pybrid.Lucipy.Calls
import Pybrid.Lucipy.Session
import Pybrid.Library.Ensuring
import Pybrid.Client.Control
import Pybrid.Client.Upload
import Pybrid.Client.RunExecution
import Pybrid.Client.Pipeline
import Pybrid.Client.SampleAssembly
import Pybrid.Client.SampleDrain
import Pybrid.Client.DistributedRun
import Pybrid.Client.RunData
import Pybrid.Client.BlobCodec
import Pybrid.Proxy.Wiring
import Pybrid.Proxy.Reconnect
import Pybrid.Redac.RouteSequence
import Pybrid.Library.SharedObjects
import Pybrid.Redac.SharedRouting
import Pybrid.Redac.ComputerObjects
import Pybrid.Library.TwoRuns
import Pybrid.Redac.Interference
import Pybrid.Redac.TwoComputers
import Pybrid.Redac.TraceAfterRoute
import Pybrid.Redac.Registration
import Pybrid.Redac.RouteEffect
import Pybrid.Redac.Calibration
import Pybrid.Redac.Specification
import Pybrid.Redac.SpecificationRoundTrip
import Pybrid.Library.Overwriting
import Pybrid.Redac.ModuleItems
import Pybrid.Library.Guarded
import Pybrid.Library.Keyed
import Pybrid.Redac.EntityRuns
import Pybrid.Redac.EntityRepeats
import Pybrid.Redac.EntityStore
import Pybrid.Redac.ModuleApplication
import Pybrid.Redac.CarrierRoundTrip
import Pybrid.Redac.Reset
import Pybrid.Redac.Connections
import Pybrid.Redac.ConnectionTopology
import Pybrid.Redac.Discovery
import Pybrid.Redac.CarrierLocations
import Pybrid.Redac.FailedDevices
import Pybrid.Library.Simulation
import Pybrid.Redac.LucidacSpecification
import Pybrid.Redac.ObjectSerializer
import Pybrid.Lucipy.Commit
import Pybrid.Lucipy.LaneAllocation
import Pybrid.Lucipy.Constants
import Pybrid.Native.LockFreeBuffer
import Pybrid.Library.Positions
import Pybrid.Proxy.ModuleSorting
import Pybrid.Proxy.ConfigRouting
import Pybrid.Native.DaqBounds
import Pybrid.Native.MalformedStreams
import Pybrid.Client.OpChunks
import Pybrid.Lucipy.ProbeEntries
import Pybrid.Sim.Configuration
import Pybrid.Library.Following
import Pybrid.Redac.TraceTermination
import Pybrid.Redac.DependencyInfo
import Pybrid.Redac.RouteCalibration
import Pybrid.Redac.RouteAtomicity
import Pybrid.Redac.ClusterRoute
import Pybrid.Lucipy.PortAllocation
import Pybrid.Lucipy.ProbeNumbering
import Pybrid.Redac.Signals
import Pybrid.Redac.Capture
import Pybrid.Client.FinalValues
import Pybrid.Client.OverloadReport
import Pybrid.Native.FirmwareChunks
import Pybrid.Native.VarintLaws
import Pybrid.Util.FirmwareImage
import Pybrid.Native.TcpDelivery
import Pybrid.Native.TcpDrain
import Pybrid.Native.PingSlot
import Pybrid.Library.Rows
import Pybrid.Mock.RunSamples
import Pybrid.Library.Merge
import Pybrid.Mock.RunTask
import Pybrid.Mock.DeviceRuns
import Pybrid.Mock.SampleRoundTrip
import Pybrid.Mock.RunOutcome
