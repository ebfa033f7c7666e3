import Mesh.Native.Packet
import Mesh.Native.Presets

/-!
# Shared view-model and commands (`model.rs`)

The state the user interface observes and the radio loop mutates. Its mutexes
and atomics guard single fields, so a record models it. The two plot widgets are
left out: nothing reads them back.
-/

namespace Mesh

open Ieee (F32 F64 Arith)

def defaultSf : UInt8 := 11
def defaultSignalDb : F32 := -20.0
def defaultNoiseDb : F32 := -60.0
def defaultIntervalMs : UInt64 := 2000
/-- Sample rate driving the radio loop. -/
def srHz : UInt64 := 1000000

/-- Operating mode. -/
inductive SimMode
  /-- Manual and automatic TX, and RX, on a single node. -/
  | terminal
  /-- RX only: no TX at all. -/
  | listen
deriving DecidableEq

/-- What a log entry is about. -/
inductive MsgDir
  | tx | rx | fwd | system | error
deriving DecidableEq

/-- A line of the log, with who sent the message and how many hops it had left. -/
structure LogEntry where
  time : String
  dir : MsgDir
  text : String
  fromId : Option UInt32
  hops : Option UInt8
  selfOrigin : Bool
deriving DecidableEq

/-- A user-initiated mutation of the radio state. -/
inductive Command
  | setSf (n : UInt8)
  | setSignalDb (v : F32)
  | setNoiseDb (v : F32)
  | setIntervalMs (v : UInt64)
  | setMode (m : SimMode)
  | setNodeShort (s : String)
  | setNodeLong (s : String)
  | setTxDest (id : UInt32)
  | setUhdEnabled (on : Bool)
  | setUhdArgs (s : String)
  | setUhdFreqHz (hz : F64)
  | setUhdRxGainDb (v : F64)
  | setUhdTxGainDb (v : F64)
  | setAutoTx (on : Bool)
  | setRunning (on : Bool)
  | sendText (s : String)
  | resetStats
deriving DecidableEq

/-- What the loop and the user interface share. -/
structure ViewModel where
  running : Bool
  sf : UInt8
  signalDb : F32
  noiseDb : F32
  intervalMs : UInt64
  log : List LogEntry
  neighbours : List String
  nodeIdStr : String
  txCount : UInt64
  rxCount : UInt64
  /-- Latest FFT-peak spectrum, in dB per bin. -/
  latestSpectrum : List F32
  /-- Latest waterfall row, same shape. -/
  latestWaterfallRow : List F32
  useUhd : Bool
  uhdArgs : String
  uhdFreqHz : F64
  uhdRxGainDb : F64
  uhdTxGainDb : F64
  rebuildDriver : Bool
  uhdLoading : Bool
  uhdWarning : Option String
  autoTx : Bool
  txQueue : List String
  mode : SimMode
  rebuildNodes : Bool
  nodeShort : String
  nodeLong : String
  nodeId : UInt32
  txDest : UInt32

/-- The state at start-up; the node id is drawn at random. -/
def ViewModel.new [Arith] (random : UInt32) : ViewModel where
  running := true
  sf := defaultSf
  signalDb := defaultSignalDb
  noiseDb := defaultNoiseDb
  intervalMs := defaultIntervalMs
  log := []
  neighbours := []
  nodeIdStr := ""
  txCount := 0
  rxCount := 0
  latestSpectrum := []
  latestWaterfallRow := []
  useUhd := false
  uhdArgs := ""
  uhdFreqHz := Arith.mul (defaultRegion.channelFreq defaultPreset.bwKhz) 1e6
  uhdRxGainDb := 40.0
  uhdTxGainDb := 40.0
  rebuildDriver := false
  uhdLoading := false
  uhdWarning := none
  autoTx := true
  txQueue := []
  mode := .listen
  rebuildNodes := false
  nodeShort := "TERM"
  nodeLong := "Mesh Terminal"
  nodeId := random
  txDest := broadcast

/-- What a command changes, with the rebuilds that it asks for. -/
def Command.apply (self : Command) (vm : ViewModel) : ViewModel :=
  match self with
  | setSf n => { vm with sf := n }
  | setSignalDb v => { vm with signalDb := v }
  | setNoiseDb v => { vm with noiseDb := v }
  | setIntervalMs v => { vm with intervalMs := v }
  | setMode m => { vm with mode := m, rebuildNodes := true }
  | setNodeShort s => { vm with nodeShort := s, rebuildNodes := true }
  | setNodeLong s => { vm with nodeLong := s, rebuildNodes := true }
  | setTxDest id => { vm with txDest := id }
  | setUhdEnabled on =>
    { vm with
      useUhd := on
      uhdWarning := if on then none else vm.uhdWarning
      rebuildDriver := true }
  | setUhdArgs s =>
    { vm with uhdArgs := s, rebuildDriver := vm.useUhd || vm.rebuildDriver }
  | setUhdFreqHz hz =>
    { vm with uhdFreqHz := hz, rebuildDriver := vm.useUhd || vm.rebuildDriver }
  | setUhdRxGainDb v => { vm with uhdRxGainDb := v }
  | setUhdTxGainDb v => { vm with uhdTxGainDb := v }
  | setAutoTx on => { vm with autoTx := on }
  | setRunning on => { vm with running := on }
  | sendText s => { vm with txQueue := vm.txQueue ++ [s] }
  | resetStats => { vm with txCount := 0, rxCount := 0, log := [] }

end Mesh
