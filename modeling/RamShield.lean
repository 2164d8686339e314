import RamShield.Cgnat.SlotKey
import RamShield.Detection.BlockMetrics
import RamShield.Detection.Hysteresis
import RamShield.Detection.Mitigation
import RamShield.Detection.PreAggs
import RamShield.Detection.PulseWindow
import RamShield.Detection.SubnetIndex
import RamShield.Detection.SubnetKey
import RamShield.Detection.Warmup
import RamShield.Enforcement.Detention
import RamShield.Enforcement.DurableLog
import RamShield.Enforcement.RecoveryDelivery
import RamShield.Enforcement.Replication
import RamShield.Engine.LocalDecision
import RamShield.Engine.MeshDurability
import RamShield.Engine.MeshFolds
import RamShield.Engine.MixedHistory
import RamShield.Engine.PeerConvergence
import RamShield.Engine.SnapshotTail
import RamShield.Ipc.Server
import RamShield.Mesh.AckCoverage
import RamShield.Mesh.Frame
import RamShield.Mesh.Hlc
import RamShield.Metrics.XdpHealth
import RamShield.Native.Frame
import RamShield.Native.Ring
import RamShield.Protocol.MacInput
import RamShield.Protocol.ReplayOrder
import RamShield.Storage.BlockLifetime
import RamShield.Storage.SubnetWindow
import RamShield.Storage.ThreatSample
import RamShield.Types.Membership
import RamShield.Waf.Framing
import RamShield.Xdp.Agreement
import RamShield.Dashboard.Login
import RamShield.Ipc.BatchIngest
import RamShield.Ipc.Framing
