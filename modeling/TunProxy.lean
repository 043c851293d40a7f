import TunProxy.AtomicWrite
import TunProxy.BypassRouting
import TunProxy.CaptureChild
import TunProxy.CaptureTermination
import TunProxy.CidrInclusion
import TunProxy.CidrNormalForm
import TunProxy.CommandController
import TunProxy.CommandLine
import TunProxy.ConcurrentCommands
import TunProxy.ConfigRoundTrip
import TunProxy.ControlConnection
import TunProxy.ControlSocket
import TunProxy.CoreSafety
import TunProxy.DaemonClients
import TunProxy.DaemonSafety
import TunProxy.DirectoryCreation
import TunProxy.HandshakeSafety
import TunProxy.InteractiveSetting
import TunProxy.InterfaceCollection
import TunProxy.IpcFrameRoundTrip
import TunProxy.LaunchAgreement
import TunProxy.LaunchRecords
import TunProxy.RemoteExecution
import TunProxy.RepairCleanup
import TunProxy.ResultLengths
import TunProxy.RuntimeStateRoundTrip
import TunProxy.SignalTargets
import TunProxy.SingBoxDocument
import TunProxy.StatLines
import TunProxy.StatusAgreement
import TunProxy.TunAbsence
import TunProxy.UpstreamProbe
import TunProxy.WriteDescriptors
