import Mesh.ForStd.Radix
import Mesh.ForStd.Split
import Mesh.Native.Model

/-!
# The desktop and web view (`view/mod.rs`)

`MeshSimApp` keeps its own copy of every setting and sends a command for each
change. What egui draws, and the state that only lays the window out, are left out;
what the user does with a widget is a `Gesture`, which carries the value the widget
then has. The commands a method sends are its second result.
-/

namespace Mesh

open Ieee (F32 F64 Arith)

theorem defaultPresetIdx_lt : 5 < presets.length := by decide

def defaultPresetIdx : Fin presets.length := ⟨5, defaultPresetIdx_lt⟩

/-- The state of the window. -/
structure MeshSimApp where
  sf : UInt8
  signalDb : F32
  noiseDb : F32
  intervalMs : UInt64
  presetIdx : Fin presets.length
  regionIdx : Fin regions.length
  useUhd : Bool
  uhdArgs : String
  uhdFreqMhz : F64
  uhdRxGainDb : F64
  uhdTxGainDb : F64
  uhdWarning : Option String
  autoTx : Bool
  msgInput : String
  mode : SimMode
  nodeShort : String
  nodeLong : String
  txDest : UInt32
  txDestInput : String

/-- What the user does with a widget. -/
inductive Gesture
  | selectMode (mode : SimMode)
  | selectPreset (i : Fin presets.length)
  | selectRegion (i : Fin regions.length)
  | slideSf (sf : UInt8)
  | slideSignal (db : F32)
  | slideNoise (db : F32)
  | slideTxGain (db : F64)
  | slideRxGain (db : F64)
  | checkAutoTx (on : Bool)
  | slideInterval (ms : UInt64)
  | clickPause
  | clickDefaults
  | clickResetStats
  | selectDriver (uhd : Bool)
  | leaveArgs (args : String)
  | dragFreq (mhz : F64)
  | leaveShort (name : String)
  | leaveLong (name : String)
  | selectBroadcast
  /-- The entry at this place of the neighbour list. -/
  | selectNeighbour (i : Nat)
  | leaveDest (input : String)
  | submit (input : String)

/-! ## Destinations -/

/-- `str::strip_suffix` for one character. -/
def stripSuffix (c : Char) (s : List Char) : Option (List Char) :=
  if s.getLast? = some c then some s.dropLast else none

/-- The number of a hexadecimal node id. -/
def parseHexId (hex : List Char) : Option UInt32 :=
  (Radix.fromStrRadix (2 ^ 32) 16 hex).map UInt32.ofNat

/-- The node id read out of an entry of the neighbour list; entries without one are not
    offered. -/
def entryDest (entry : String) : Option UInt32 := do
  let s ← (Split.pieces "(!".toList entry.toList)[1]?
  let hex ← stripSuffix ')' s
  parseHexId hex

/-- `trim_start_matches("0x")`. -/
def trimHexMarks : List Char → List Char
  | '0' :: 'x' :: s => trimHexMarks s
  | s => s

namespace MeshSimApp

section

variable [Arith]

/-- Open the window, and send the settings that it starts with. -/
def new (shared : ViewModel) : MeshSimApp × List Command :=
  let initUhd := shared.useUhd
  ({ sf := defaultSf
     signalDb := defaultSignalDb
     noiseDb := defaultNoiseDb
     intervalMs := defaultIntervalMs
     presetIdx := defaultPresetIdx
     regionIdx := ⟨defaultRegionIdx, defaultRegionIdx_lt⟩
     useUhd := initUhd
     uhdArgs := ""
     uhdFreqMhz := defaultRegion.channelFreq presets[defaultPresetIdx].bwKhz
     uhdRxGainDb := 40.0
     uhdTxGainDb := 40.0
     uhdWarning := none
     autoTx := !initUhd
     msgInput := ""
     mode := .listen
     nodeShort := "TERM"
     nodeLong := "Mesh Terminal"
     txDest := broadcast
     txDestInput := "" },
    if initUhd then [.setAutoTx false, .setMode .listen] else [])

/-! ## Settings -/

/-- The command for the frequency on display. -/
def sendFreq (self : MeshSimApp) : Command := .setUhdFreqHz (Arith.mul self.uhdFreqMhz 1e6)

/-- A preset sets the spreading factor and the frequency. -/
def applyPreset (self : MeshSimApp) (p : ModemPreset) : MeshSimApp × List Command :=
  let self := { self with sf := p.sf, uhdFreqMhz := regions[self.regionIdx].channelFreq p.bwKhz }
  (self, [.setSf p.sf, self.sendFreq])

/-- A region sets the frequency. -/
def applyRegion (self : MeshSimApp) (r : Region) : MeshSimApp × List Command :=
  let self := { self with uhdFreqMhz := r.channelFreq presets[self.presetIdx].bwKhz }
  (self, [self.sendFreq])

omit [Arith] in
/-- The defaults are selected and sent, the frequency apart. -/
def restoreDefaults (self : MeshSimApp) : MeshSimApp × List Command :=
  ({ self with
     presetIdx := defaultPresetIdx
     regionIdx := ⟨defaultRegionIdx, defaultRegionIdx_lt⟩
     sf := defaultSf
     signalDb := defaultSignalDb
     noiseDb := defaultNoiseDb
     intervalMs := defaultIntervalMs
     autoTx := true },
    [.setSf defaultSf, .setSignalDb defaultSignalDb, .setNoiseDb defaultNoiseDb,
     .setIntervalMs defaultIntervalMs, .setAutoTx true])

/-! ## Frames -/

omit [Arith] in
/-- Choose between the simulator and the device. -/
def uiDriverSelector (self : MeshSimApp) (uhd : Bool) : MeshSimApp × List Command :=
  -- the selector sends a change only
  if self.useUhd = uhd then (self, [])
  else
    ({ self with useUhd := uhd, uhdWarning := if uhd then none else self.uhdWarning },
      [.setUhdEnabled uhd])

omit [Arith] in
/-- Choose a destination. -/
def sendTo (self : MeshSimApp) (id : UInt32) : MeshSimApp × List Command :=
  ({ self with txDest := id }, [.setTxDest id])

/-- The effect of a gesture. A widget that the current driver hides does nothing. -/
def handle (self : MeshSimApp) (shared : ViewModel) : Gesture → MeshSimApp × List Command
  | .selectMode mode =>
    if self.mode = mode then (self, []) else ({ self with mode }, [.setMode mode])
  -- the entry in force can be chosen again, and is then applied again
  | .selectPreset i => { self with presetIdx := i }.applyPreset presets[i]
  | .selectRegion i => { self with regionIdx := i }.applyRegion regions[i]
  | .slideSf sf => ({ self with sf }, [.setSf sf])
  | .slideSignal db =>
    if self.useUhd then (self, []) else ({ self with signalDb := db }, [.setSignalDb db])
  | .slideNoise db =>
    if self.useUhd then (self, []) else ({ self with noiseDb := db }, [.setNoiseDb db])
  | .slideTxGain db =>
    if self.useUhd then ({ self with uhdTxGainDb := db }, [.setUhdTxGainDb db]) else (self, [])
  | .slideRxGain db =>
    if self.useUhd then ({ self with uhdRxGainDb := db }, [.setUhdRxGainDb db]) else (self, [])
  | .checkAutoTx on => ({ self with autoTx := on }, [.setAutoTx on])
  | .slideInterval ms =>
    if self.autoTx then ({ self with intervalMs := ms }, [.setIntervalMs ms]) else (self, [])
  | .clickPause => (self, [.setRunning !shared.running])
  | .clickDefaults => self.restoreDefaults
  | .clickResetStats => (self, [.resetStats])
  | .selectDriver uhd => self.uiDriverSelector uhd
  | .leaveArgs args =>
    if self.useUhd then ({ self with uhdArgs := args }, [.setUhdArgs args]) else (self, [])
  | .dragFreq mhz =>
    if self.useUhd then
      let self := { self with uhdFreqMhz := mhz }
      (self, [self.sendFreq])
    else (self, [])
  | .leaveShort name => ({ self with nodeShort := name }, [.setNodeShort name])
  | .leaveLong name => ({ self with nodeLong := name }, [.setNodeLong name])
  | .selectBroadcast => self.sendTo broadcast
  | .selectNeighbour i =>
    match shared.neighbours[i]?.bind entryDest with
    | some id => self.sendTo id
    | none => (self, [])
  | .leaveDest input =>
    if input = "" then (self, [])
    else
      -- cleared even if it is no number
      let self := { self with txDestInput := "" }
      match parseHexId (trimHexMarks (input.toList.dropWhile (· = '!'))) with
      | some id => self.sendTo id
      | none => (self, [])
  | .submit input =>
    if input = "" then (self, []) else ({ self with msgInput := "" }, [.sendText input])

/-- Gestures in order. -/
def handleAll (self : MeshSimApp) (shared : ViewModel) :
    List Gesture → MeshSimApp × List Command
  | [] => (self, [])
  | g :: gs =>
    let (self, cmds) := self.handle shared g
    let (self, rest) := self.handleAll shared gs
    (self, cmds ++ rest)

omit [Arith] in
/-- Mirror the shared UHD state into the local toggle. -/
def mirrorUhd (self : MeshSimApp) (shared : ViewModel) : MeshSimApp × ViewModel :=
  if self.useUhd ≠ shared.useUhd then
    let self := { self with useUhd := shared.useUhd }
    if shared.useUhd then (self, shared)
    -- the warning moves: the window takes it out of the shared view-model
    else ({ self with uhdWarning := shared.uhdWarning }, { shared with uhdWarning := none })
  else (self, shared)

/-- One frame: the app, the shared view-model and the commands sent. -/
def update (self : MeshSimApp) (shared : ViewModel) (gestures : List Gesture) :
    MeshSimApp × ViewModel × List Command :=
  -- the shared state is read before the widgets of this frame act
  let (self, shared) := self.mirrorUhd shared
  let (self, cmds) := self.handleAll shared gestures
  (self, shared, cmds)

end

end MeshSimApp

end Mesh
