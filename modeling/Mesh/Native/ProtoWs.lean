import Mesh.ForStd.Serde
import Mesh.Native.Model

/-!
# The WebSocket protocol (`proto_ws.rs`, `server.rs`, `bin/mesh_web.rs`)

Messages in both directions are adjacently tagged JSON, `{"t":..,"c":..}`. The
encodings are those serde derives from the declarations; `serde_json` itself, the
text of documents and of floats, is the class `SerdeJson`.
-/

namespace Mesh

open Ieee (F32 F64)
open Serde (Json Codec Fields)

/-! ## Snapshots -/

/-- Full state snapshot, as sent on connect and about ten times a second. -/
structure Snapshot where
  running : Bool
  sf : UInt8
  signalDb : F32
  noiseDb : F32
  intervalMs : UInt64
  mode : SimMode
  nodeIdStr : String
  nodeShort : String
  nodeLong : String
  neighbours : List String
  txCount : UInt64
  rxCount : UInt64
  useUhd : Bool
  uhdArgs : String
  uhdFreqHz : F64
  uhdRxGainDb : F64
  uhdTxGainDb : F64
  uhdLoading : Bool
  uhdWarning : Option String
  autoTx : Bool
  txDest : UInt32
  /-- FFT-peak spectrum: dB value per bin. -/
  spectrum : List F32
  /-- One waterfall row, same shape. -/
  waterfallRow : List F32
deriving DecidableEq

/-- Read every relevant field out of `vm`. -/
def Snapshot.fromView (vm : ViewModel) : Snapshot where
  running := vm.running
  sf := vm.sf
  signalDb := vm.signalDb
  noiseDb := vm.noiseDb
  intervalMs := vm.intervalMs
  mode := vm.mode
  nodeIdStr := vm.nodeIdStr
  nodeShort := vm.nodeShort
  nodeLong := vm.nodeLong
  neighbours := vm.neighbours
  txCount := vm.txCount
  rxCount := vm.rxCount
  useUhd := vm.useUhd
  uhdArgs := vm.uhdArgs
  uhdFreqHz := vm.uhdFreqHz
  uhdRxGainDb := vm.uhdRxGainDb
  uhdTxGainDb := vm.uhdTxGainDb
  uhdLoading := vm.uhdLoading
  uhdWarning := vm.uhdWarning
  autoTx := vm.autoTx
  txDest := vm.txDest
  spectrum := vm.latestSpectrum
  waterfallRow := vm.latestWaterfallRow

/-- `fromView` beside a loop that goes on: `vm k` is the view-model when the `k`-th field is
    read, each under its own lock. -/
def Snapshot.read (vm : Nat → ViewModel) : Snapshot where
  running := (vm 0).running
  sf := (vm 1).sf
  signalDb := (vm 2).signalDb
  noiseDb := (vm 3).noiseDb
  intervalMs := (vm 4).intervalMs
  mode := (vm 5).mode
  nodeIdStr := (vm 6).nodeIdStr
  nodeShort := (vm 7).nodeShort
  nodeLong := (vm 8).nodeLong
  neighbours := (vm 9).neighbours
  txCount := (vm 10).txCount
  rxCount := (vm 11).rxCount
  useUhd := (vm 12).useUhd
  uhdArgs := (vm 13).uhdArgs
  uhdFreqHz := (vm 14).uhdFreqHz
  uhdRxGainDb := (vm 15).uhdRxGainDb
  uhdTxGainDb := (vm 16).uhdTxGainDb
  uhdLoading := (vm 17).uhdLoading
  uhdWarning := (vm 18).uhdWarning
  autoTx := (vm 19).autoTx
  txDest := (vm 20).txDest
  spectrum := (vm 21).latestSpectrum
  waterfallRow := (vm 22).latestWaterfallRow

/-- A snapshot whose fields are all read at one moment is the view-model's of that moment. -/
theorem Snapshot.read_const (vm : ViewModel) : (read fun _ => vm) = fromView vm := rfl

/-- Write every field back into a local mirror, the spectra into its plots. -/
def Snapshot.apply (self : Snapshot) (vm : ViewModel) : ViewModel :=
  { vm with
    running := self.running
    sf := self.sf
    signalDb := self.signalDb
    noiseDb := self.noiseDb
    intervalMs := self.intervalMs
    mode := self.mode
    nodeIdStr := self.nodeIdStr
    nodeShort := self.nodeShort
    nodeLong := self.nodeLong
    neighbours := self.neighbours
    txCount := self.txCount
    rxCount := self.rxCount
    useUhd := self.useUhd
    uhdArgs := self.uhdArgs
    uhdFreqHz := self.uhdFreqHz
    uhdRxGainDb := self.uhdRxGainDb
    uhdTxGainDb := self.uhdTxGainDb
    uhdLoading := self.uhdLoading
    uhdWarning := self.uhdWarning
    autoTx := self.autoTx
    txDest := self.txDest }

/-! ## Encodings -/

/-- The `serde_json` crate. -/
class SerdeJson where
  /-- The document a text holds. -/
  parse : String → Option Json
  print : Json → String
  showF32 : F32 → String
  /-- A number's text as an `f32`: the nearest one to its `f64`, which may be infinite. -/
  readF32 : String → Option F32
  showF64 : F64 → String
  /-- A number's text as an `f64`; numbers out of range are an error. -/
  readF64 : String → Option F64

def SimMode.name : SimMode → String
  | terminal => "Terminal"
  | listen => "Listen"

def SimMode.codec : Codec SimMode := Codec.enumeration name [terminal, listen]

def MsgDir.name : MsgDir → String
  | tx => "Tx"
  | rx => "Rx"
  | fwd => "Fwd"
  | system => "System"
  | error => "Error"

def MsgDir.codec : Codec MsgDir := Codec.enumeration name [tx, rx, fwd, system, error]

/-- The fields of a log entry in order. -/
abbrev LogEntry.Members : Type :=
  String × MsgDir × String × Option UInt32 × Option UInt8 × Bool × Unit

def LogEntry.fields : Fields Members :=
  .cons "time" .string <| .cons "dir" MsgDir.codec <| .cons "text" .string <|
  .cons "from_id" Codec.uint32.option <| .cons "hops" Codec.uint8.option <|
  .cons "self_origin" .bool .nil

def LogEntry.codec : Codec LogEntry :=
  fields.record.map
    (fun (time, dir, text, fromId, hops, selfOrigin, ()) =>
      { time, dir, text, fromId, hops, selfOrigin })
    fun e => (e.time, e.dir, e.text, e.fromId, e.hops, e.selfOrigin, ())

section

variable [SerdeJson]

def f32 : Codec F32 := Codec.float F32.isFinite SerdeJson.showF32 SerdeJson.readF32

def f64 : Codec F64 := Codec.float F64.isFinite SerdeJson.showF64 SerdeJson.readF64

/-- The fields of a snapshot in order. -/
abbrev Snapshot.Members : Type :=
  Bool × UInt8 × F32 × F32 × UInt64 × SimMode × String × String × String × List String ×
  UInt64 × UInt64 × Bool × String × F64 × F64 × F64 × Bool × Option String × Bool × UInt32 ×
  List F32 × List F32 × Unit

def Snapshot.fields : Fields Members :=
  .cons "running" .bool <|
  .cons "sf" .uint8 <|
  .cons "signal_db" f32 <|
  .cons "noise_db" f32 <|
  .cons "interval_ms" .uint64 <|
  .cons "mode" SimMode.codec <|
  .cons "node_id_str" .string <|
  .cons "node_short" .string <|
  .cons "node_long" .string <|
  .cons "neighbours" Codec.string.list <|
  .cons "tx_count" .uint64 <|
  .cons "rx_count" .uint64 <|
  .cons "use_uhd" .bool <|
  .cons "uhd_args" .string <|
  .cons "uhd_freq_hz" f64 <|
  .cons "uhd_rx_gain_db" f64 <|
  .cons "uhd_tx_gain_db" f64 <|
  .cons "uhd_loading" .bool <|
  .cons "uhd_warning" Codec.string.option <|
  .cons "auto_tx" .bool <|
  .cons "tx_dest" .uint32 <|
  .cons "spectrum" f32.list <|
  .cons "waterfall_row" f32.list .nil

/-- The snapshot with these fields. -/
def Snapshot.ofMembers : Members → Snapshot
  | (running, sf, signalDb, noiseDb, intervalMs, mode, nodeIdStr, nodeShort, nodeLong,
      neighbours, txCount, rxCount, useUhd, uhdArgs, uhdFreqHz, uhdRxGainDb, uhdTxGainDb,
      uhdLoading, uhdWarning, autoTx, txDest, spectrum, waterfallRow, ()) =>
    { running, sf, signalDb, noiseDb, intervalMs, mode, nodeIdStr, nodeShort, nodeLong,
      neighbours, txCount, rxCount, useUhd, uhdArgs, uhdFreqHz, uhdRxGainDb, uhdTxGainDb,
      uhdLoading, uhdWarning, autoTx, txDest, spectrum, waterfallRow }

/-- The fields of a snapshot in order. -/
def Snapshot.members (s : Snapshot) : Members :=
  (s.running, s.sf, s.signalDb, s.noiseDb, s.intervalMs, s.mode, s.nodeIdStr, s.nodeShort,
    s.nodeLong, s.neighbours, s.txCount, s.rxCount, s.useUhd, s.uhdArgs, s.uhdFreqHz,
    s.uhdRxGainDb, s.uhdTxGainDb, s.uhdLoading, s.uhdWarning, s.autoTx, s.txDest, s.spectrum,
    s.waterfallRow, ())

def Snapshot.codec : Codec Snapshot := fields.record.map ofMembers members

/-! ## Messages -/

/-- Server to client. -/
inductive ServerMsg
  | snapshot (s : Snapshot)
  /-- Reserved, not emitted yet. -/
  | logAppend (entry : LogEntry)
  | error (text : String)
deriving DecidableEq

/-- An adjacently tagged variant with one field. -/
def variant (tag : String) (content : Json) : Json := .obj [("t", .str tag), ("c", content)]

/-- The derived `Serialize` of a message. -/
def ServerMsg.enc : ServerMsg → Json
  | snapshot s => variant "Snapshot" (Snapshot.codec.enc s)
  | logAppend entry => variant "LogAppend" (LogEntry.codec.enc entry)
  | error text => variant "Error" (.str text)

/-- The derived `Deserialize` of a message. -/
def ServerMsg.dec (j : Json) : Option ServerMsg := do
  -- a tag that names no variant is an error
  let (tag, content) ← Serde.tagged "t" "c" j
  match tag with
  | "Snapshot" => Serde.newtype Snapshot.codec .snapshot content
  | "LogAppend" => Serde.newtype LogEntry.codec .logAppend content
  | "Error" => Serde.newtype Codec.string .error content
  | _ => none

/-- The derived `Serialize` of a command. -/
def Command.enc : Command → Json
  | setSf n => variant "SetSf" (Codec.uint8.enc n)
  | setSignalDb v => variant "SetSignalDb" (f32.enc v)
  | setNoiseDb v => variant "SetNoiseDb" (f32.enc v)
  | setIntervalMs v => variant "SetIntervalMs" (Codec.uint64.enc v)
  | setMode m => variant "SetMode" (SimMode.codec.enc m)
  | setNodeShort s => variant "SetNodeShort" (.str s)
  | setNodeLong s => variant "SetNodeLong" (.str s)
  | setTxDest id => variant "SetTxDest" (Codec.uint32.enc id)
  | setUhdEnabled on => variant "SetUhdEnabled" (.bool on)
  | setUhdArgs s => variant "SetUhdArgs" (.str s)
  | setUhdFreqHz hz => variant "SetUhdFreqHz" (f64.enc hz)
  | setUhdRxGainDb v => variant "SetUhdRxGainDb" (f64.enc v)
  | setUhdTxGainDb v => variant "SetUhdTxGainDb" (f64.enc v)
  | setAutoTx on => variant "SetAutoTx" (.bool on)
  | setRunning on => variant "SetRunning" (.bool on)
  | sendText s => variant "SendText" (.str s)
  | resetStats => .obj [("t", .str "ResetStats")]

/-- The derived `Deserialize` of a command. -/
def Command.dec (j : Json) : Option Command := do
  let (tag, content) ← Serde.tagged "t" "c" j
  match tag with
  | "SetSf" => Serde.newtype Codec.uint8 .setSf content
  | "SetSignalDb" => Serde.newtype f32 .setSignalDb content
  | "SetNoiseDb" => Serde.newtype f32 .setNoiseDb content
  | "SetIntervalMs" => Serde.newtype Codec.uint64 .setIntervalMs content
  | "SetMode" => Serde.newtype SimMode.codec .setMode content
  | "SetNodeShort" => Serde.newtype Codec.string .setNodeShort content
  | "SetNodeLong" => Serde.newtype Codec.string .setNodeLong content
  | "SetTxDest" => Serde.newtype Codec.uint32 .setTxDest content
  | "SetUhdEnabled" => Serde.newtype Codec.bool .setUhdEnabled content
  | "SetUhdArgs" => Serde.newtype Codec.string .setUhdArgs content
  | "SetUhdFreqHz" => Serde.newtype f64 .setUhdFreqHz content
  | "SetUhdRxGainDb" => Serde.newtype f64 .setUhdRxGainDb content
  | "SetUhdTxGainDb" => Serde.newtype f64 .setUhdTxGainDb content
  | "SetAutoTx" => Serde.newtype Codec.bool .setAutoTx content
  | "SetRunning" => Serde.newtype Codec.bool .setRunning content
  | "SendText" => Serde.newtype Codec.string .sendText content
  | "ResetStats" => Serde.unit .resetStats content
  | _ => none

/-- `serde_json::from_str::<Command>` on a text frame. -/
def Command.fromStr (text : String) : Option Command := (SerdeJson.parse text).bind dec

/-- `serde_json::from_str::<ServerMsg>` on a text frame. -/
def ServerMsg.fromStr (text : String) : Option ServerMsg := (SerdeJson.parse text).bind dec

/-- The text frame `send_msg` sends. -/
def ServerMsg.toText (msg : ServerMsg) : String := SerdeJson.print msg.enc

/-- The text frame the web client's writer sends. -/
def Command.toText (cmd : Command) : String := SerdeJson.print cmd.enc

end

end Mesh
