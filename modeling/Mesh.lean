import Mesh.ForStd.Bytes
import Mesh.ForStd.Ctr
import Mesh.ForStd.Fifo
import Mesh.ForStd.Lts
import Mesh.ForStd.Graph
import Mesh.ForStd.Ieee
import Mesh.ForStd.Rolling
import Mesh.ForStd.Pacer
import Mesh.ForStd.Split
import Mesh.ForStd.Radix
import Mesh.ForStd.Serde
import Mesh.ForStd.Link
import Mesh.Native.Packet
import Mesh.Native.Crypto
import Mesh.Native.Proto
import Mesh.Native.Node
import Mesh.Native.Router
import Mesh.Native.App
import Mesh.Native.Presets
import Mesh.Native.Model
import Mesh.Native.Radio
import Mesh.Native.DutyCycle
import Mesh.Native.View
import Mesh.Native.ProtoWs
import Mesh.Native.Station
import Mesh.Native.Server
import Mesh.Spec.Samples
import Mesh.Spec.PacketCorrect
import Mesh.Spec.RouterCorrect
import Mesh.Spec.CryptoCorrect
import Mesh.Spec.AppCorrect
import Mesh.Spec.RelayChain
import Mesh.Spec.DedupCorrect
import Mesh.Spec.NeighbourHistory
import Mesh.Spec.FrameSize
import Mesh.Spec.Network
import Mesh.Spec.AtMostOnce
import Mesh.Spec.FloodCoverage
import Mesh.Spec.DriverRebuild
import Mesh.Spec.RadioCorrect
import Mesh.Spec.TextDestination
import Mesh.Spec.LoopDuplicates
import Mesh.Spec.Rig
import Mesh.Spec.DeviceCorrect
import Mesh.Spec.DeviceLife
import Mesh.Spec.Schedule
import Mesh.Spec.Emissions
import Mesh.Spec.TextLedger
import Mesh.Spec.DutyCycleCorrect
import Mesh.Spec.LedgerEquivalence
import Mesh.Spec.Airtime
import Mesh.Spec.TickRange
import Mesh.Spec.NeighbourLine
import Mesh.Spec.WarningCorrect
import Mesh.Spec.SnapshotCorrect
import Mesh.Spec.ShownFrequency
import Mesh.Spec.WebTraffic
import Mesh.Spec.WebCommands
import Mesh.Spec.WebTexts
import Mesh.Spec.WebMirror
import Mesh.Spec.AutoTxPacing
import Mesh.Spec.Traffic
import Mesh.Spec.Acts
import Mesh.Spec.RadioNetwork
