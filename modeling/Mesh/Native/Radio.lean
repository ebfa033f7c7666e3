import Mesh.Native.App
import Mesh.Native.Model

/-!
# The radio loop (`radio.rs`)

`simLoop` as a labelled transition system. A step from the top of the loop runs
one iteration up to the RX decode loop (`SimLoop.tick`); each further step is one
turn of the RX decode loop (`SimLoop.decode`), until the demodulator has nothing
more to give.

The modem, the drivers and the demodulator are the `lora` crate's, a submodule:
what they return is part of a step's input, and what the loop asks of them is
appended to `SimLoop.calls`. Sample buffers are left out, as only that crate
reads them. `rand::random` and the wall clock are inputs too (`Oracle`).

Other threads read the view-model while an iteration is under way. What they may see of it
are the states between its parts (`SimLoop.tickViews`), among them the one in which a device
is loading. The assignments to the variables that hold drivers are listed beside the functions
that make them (`SimLoop.moves`).
-/

namespace Mesh

open Ieee (F32 F64 Arith)

def maxLog : Nat := 200
def osFactor : UInt32 := 4
def cr : UInt8 := 4
def syncWord : UInt8 := 0x2B
def preamble : UInt16 := 16
/-- A NodeInfo beacon every 5 s. -/
def beaconInterval : UInt64 := 5 * srHz

/-- Cargo features: `uhd` is on by default. -/
class Features where
  uhd : Bool

/-! ## Devices -/

/-- The driver in use: the simulated channel, or a USRP opened with some device
    arguments. -/
inductive Driver
  | channel (noiseSigma signalAmp : F32)
  | uhd (args : String)
deriving DecidableEq

/-- Exactly UHD devices can be parked. -/
def Driver.isParkable : Driver → Bool
  | channel _ _ => false
  | uhd _ => true

/-- Parameters of a `lora::modem::Tx`. -/
structure Tx where
  sf : UInt8
  cr : UInt8
  osFactor : UInt32
  syncWord : UInt8
  preamble : UInt16
deriving DecidableEq

/-- The modem for a spreading factor. -/
def Tx.new (sf : UInt8) : Tx where
  sf := sf
  cr := Mesh.cr
  osFactor := Mesh.osFactor
  syncWord := Mesh.syncWord
  preamble := Mesh.preamble

/-- Parameters of a `lora::modem::Rx`. -/
structure Rx where
  modem : Tx
  centerFreqHz : F64
  bwHz : F64
deriving DecidableEq

/-- Samples: a frame's bytes as modulated by a modem. -/
structure Iq where
  modem : Tx
  payload : List UInt8
deriving DecidableEq

/-- The samples of a frame. -/
def Tx.modulate (self : Tx) (payload : List UInt8) : Iq := { modem := self, payload }

/-- The five places that hand samples to the driver. -/
inductive TxSite
  | beacon
  | manual (text : String)
  | auto (text : String)
  | relayDelivered
  | relayTransit
deriving DecidableEq

/-- What the loop asks of its devices. -/
inductive DriverCall
  /-- `UhdDevice::new`, and whether it succeeded. -/
  | uhdNew (args : String) (freq srHz bwHz rxGain txGain : F64) (opened : Bool)
  | park
  | unpark (freq srHz bwHz rxGain txGain : F64)
  | setSignalAmp (amp : F32)
  | setNoiseSigma (sigma : F32)
  | setHwRxGain (db : F64)
  | setHwTxGain (db : F64)
  | clear
  | pushSamples (site : TxSite) (iq : Iq)
  | tick (samples : Nat)
deriving DecidableEq

/-- One assignment to a variable that holds a driver. -/
inductive Move
  /-- `UhdDevice::new`, its result in a local. -/
  | openUhd (args : String) (opened : Bool)
  /-- `driver = Box::new(Channel::new(..))` -/
  | channel (noiseSigma signalAmp : F32)
  /-- `parked_uhd = None` -/
  | dropParked
  /-- `parked_uhd.take()` -/
  | takeParked
  /-- `driver = dev` -/
  | install
  /-- `mem::replace(&mut driver, Box::new(Channel::new(..)))` -/
  | replace (noiseSigma signalAmp : F32)
  /-- `parked_uhd = Some((old, ..))` -/
  | stow

/-- The `UhdDevice::new` of a move. -/
def Move.opening : Move → Option (String × Bool)
  | openUhd args opened => some (args, opened)
  | _ => none

/-- Result of one turn of the streaming demodulator. -/
inductive StreamDecodeResult
  | ok (payload : List UInt8) (freqOffsetBins : F64)
  | crcFail (payloadLen : Nat) (cr : UInt8) (hasCrc : Bool) (freqOffsetBins : F64)
  | decodeFailed
  | none
deriving DecidableEq

/-! ## Inputs -/

/-- The random word and the clock reading one site draws. -/
structure Oracle where
  random : UInt32
  now : String

/-- Everything one iteration takes in up to the RX decode loop. -/
structure TickInput where
  /-- What `try_recv` yields before the channel is empty. -/
  commands : List Command
  rebuildNow : String
  /-- Outcome of a `UhdDevice::new`, with the error's text. -/
  uhdOpen : Except String Unit
  beacon : UInt32
  /-- Drawn for the `i`-th text of the manual queue. -/
  manual : Nat → Oracle
  auto : Oracle
  /-- Number of samples `driver.tick` returns. -/
  mixedLen : Nat
  /-- The analyzer's dB row for each full chunk of them. -/
  spectra : List (List F64)

/-- Clock readings of one turn of the RX decode loop. -/
structure RxClock where
  now : String
  fwdNow : String

/-! ## State -/

/-- Where the loop stands: at its top, or in the RX decode loop with the two locals
    that loop reads. -/
inductive Phase
  | top
  | rx (sf : UInt8) (txAllowed : Bool)
deriving DecidableEq

/-- The locals of `sim_loop`, the shared view-model, and the calls made so far. -/
structure SimLoop where
  phase : Phase
  vm : ViewModel
  node : MeshNode
  driver : Driver
  txModem : Tx
  rxModem : Rx
  curSf : UInt8
  produced : UInt64
  seq : UInt32
  nextTxAt : UInt64
  nextBeaconAt : UInt64
  prevIntervalMs : UInt64
  lastUhdRxGain : F64
  lastUhdTxGain : F64
  parkedUhd : Option (Driver × String)
  activeUhdArgs : String
  calls : List DriverCall

/-! ## View-model helpers -/

/-- Append a line to the log, which keeps the newest `maxLog` of them. -/
def pushLogFull (vm : ViewModel) (time : String) (dir : MsgDir) (text : String)
    (fromId : Option UInt32) (hops : Option UInt8) (selfOrigin : Bool) : ViewModel :=
  let entry : LogEntry := { time, dir, text, fromId, hops, selfOrigin }
  let log := vm.log ++ [entry]
  { vm with log := if log.length > maxLog then log.tail else log }

/-- Append a line that is about no message. -/
def pushLog (vm : ViewModel) (time : String) (dir : MsgDir) (text : String) : ViewModel :=
  pushLogFull vm time dir text none none false

/-- Build the node from the view-model's identity fields. -/
def buildNode (vm : ViewModel) : MeshNode × ViewModel :=
  (MeshNode.withId ChannelConfig.default vm.nodeId vm.nodeShort vm.nodeLong,
    { vm with nodeIdStr := "!" ++ vm.nodeId.toHex8 })

def ViewModel.intervalSamples (vm : ViewModel) : UInt64 := vm.intervalMs * srHz / 1000

section

variable [Arith]

/-- The amplitude of a level in dB. -/
def dbToAmp (db : F32) : F32 := Arith.powf 10.0 (Arith.div32 db 20.0)

/-- `db_to_amp(noise_db) / SQRT_2`. -/
def ViewModel.noiseSigma (vm : ViewModel) : F32 := Arith.div32 (dbToAmp vm.noiseDb) 1.41421356

def ViewModel.signalAmp (vm : ViewModel) : F32 := dbToAmp vm.signalDb

def srF64 : F64 := Arith.ofU64 srHz

def bwF64 : F64 := Arith.div srF64 4.0

/-- Open a UHD device with the view-model's settings. -/
def uhdNew (vm : ViewModel) (uhdOpen : Except String Unit) : DriverCall :=
  .uhdNew vm.uhdArgs vm.uhdFreqHz srF64 bwF64 vm.uhdRxGainDb vm.uhdTxGainDb uhdOpen.isOk

def uhdUnpark (vm : ViewModel) : DriverCall :=
  .unpark vm.uhdFreqHz srF64 bwF64 vm.uhdRxGainDb vm.uhdTxGainDb

/-- What a failed open leaves behind. -/
def uhdFailed (vm : ViewModel) (e : String) : ViewModel :=
  { vm with uhdWarning := some ("UHD open failed: " ++ e), useUhd := false }

/-- The receiving modem for a spreading factor. -/
def rxNew (sf : UInt8) (vm : ViewModel) : Rx :=
  { modem := Tx.new sf, centerFreqHz := vm.uhdFreqHz, bwHz := bwF64 }

variable [Features]

/-- Open a UHD device if one is asked for, and fall back to a channel. -/
def makeDriver (vm : ViewModel) (uhdOpen : Except String Unit) :
    Driver × ViewModel × List DriverCall :=
  if Features.uhd && vm.useUhd then
    match uhdOpen with
    | .ok () => (.uhd vm.uhdArgs, vm, [uhdNew vm uhdOpen])
    | .error e =>
      (.channel vm.noiseSigma vm.signalAmp, uhdFailed vm e, [uhdNew vm uhdOpen])
  else (.channel vm.noiseSigma vm.signalAmp, vm, [])

/-- The assignments of `driver = make_driver(..)`. -/
def makeMoves (vm : ViewModel) (uhdOpen : Except String Unit) : List Move :=
  if Features.uhd && vm.useUhd then
    if uhdOpen.isOk then [.openUhd vm.uhdArgs true, .install]
    else [.openUhd vm.uhdArgs false, .channel vm.noiseSigma vm.signalAmp]
  else [.channel vm.noiseSigma vm.signalAmp]

end

namespace SimLoop

/-- Append calls to the record of what was asked of the devices. -/
def call (s : SimLoop) (cs : List DriverCall) : SimLoop := { s with calls := s.calls ++ cs }

/-- Apply all commands that are ready. -/
def drainCommands (s : SimLoop) (commands : List Command) : SimLoop :=
  { s with vm := commands.foldl (fun vm cmd => cmd.apply vm) s.vm }

/-! ## Node and driver rebuild -/

/-- Node rebuild (name change or mode change). -/
def rebuildNode (s : SimLoop) (now : String) : SimLoop :=
  if s.vm.rebuildNodes then
    let (node, vm) := buildNode { s.vm with rebuildNodes := false }
    let vm := pushLog vm now .system (match vm.mode with
      | .terminal => "Mode → Terminal"
      | .listen => "Mode → Listen (RX only)")
    { s with node, vm }
  else s

section

variable [Arith]

/-- Get ready for another UHD device: both old drivers are dropped, and the view-model says
    that a device is loading, for as long as `UhdDevice::new` takes. -/
def openingUhd (s : SimLoop) : SimLoop :=
  { s with
    parkedUhd := none
    driver := .channel 0.0 1.0
    vm := { s.vm with uhdLoading := true } }

/-- `UhdDevice::new` has returned. -/
def openedUhd (s : SimLoop) (uhdOpen : Except String Unit) : SimLoop :=
  let s := s.call [uhdNew s.vm uhdOpen]
  let s := { s with vm := { s.vm with uhdLoading := false } }
  match uhdOpen with
  | .ok () => { s with driver := .uhd s.vm.uhdArgs }
  | .error e => { s with vm := uhdFailed s.vm e }

/-- Open a UHD device in place of the current driver. -/
def openUhd (s : SimLoop) (uhdOpen : Except String Unit) : SimLoop :=
  s.openingUhd.openedUhd uhdOpen

omit [Arith] in
/-- The assignments of `openUhd`. -/
def openMoves (vm : ViewModel) (uhdOpen : Except String Unit) : List Move :=
  [.dropParked, .channel 0.0 1.0, .openUhd vm.uhdArgs uhdOpen.isOk] ++
    if uhdOpen.isOk then [.install] else []

/-- The rebuild with UHD enabled: re-tune, un-park or open. -/
def enableUhd (s : SimLoop) (uhdOpen : Except String Unit) : SimLoop :=
  let curArgs := s.vm.uhdArgs
  let s :=
    -- the device in use is the one asked for: re-tune it
    if s.driver.isParkable && s.activeUhdArgs == curArgs then
      s.call [.park, uhdUnpark s.vm]
    else
      let s :=
        -- a device parked under these arguments is taken back
        match s.parkedUhd with
        | some (dev, args) =>
          if args = curArgs then
            { s with driver := dev, parkedUhd := none }.call [uhdUnpark s.vm]
          else s.openUhd uhdOpen
        | none => s.openUhd uhdOpen
      { s with activeUhdArgs := curArgs }
  -- NaN equals no gain, so both gains are sent again
  { s with lastUhdRxGain := F64.nan, lastUhdTxGain := F64.nan }

variable [Features]

/-- Replace the driver by a fresh one. -/
def remakeDriver (s : SimLoop) (uhdOpen : Except String Unit) : SimLoop :=
  let (driver, vm, calls) := makeDriver s.vm uhdOpen
  { s with driver, vm }.call calls

/-- The rebuild with UHD disabled: park the device, or make a fresh channel. -/
def disableUhd (s : SimLoop) (uhdOpen : Except String Unit) : SimLoop :=
  if s.driver.isParkable then
    { s with
      driver := .channel s.vm.noiseSigma s.vm.signalAmp
      parkedUhd := some (s.driver, s.vm.uhdArgs) }.call [.park]
  else s.remakeDriver uhdOpen

/-- Driver rebuild. -/
def rebuildDriver (s : SimLoop) (uhdOpen : Except String Unit) : SimLoop :=
  if s.vm.rebuildDriver then
    let s := { s with vm := { s.vm with rebuildDriver := false } }
    let s :=
      if Features.uhd then
        if s.vm.useUhd then s.enableUhd uhdOpen else s.disableUhd uhdOpen
      else s.remakeDriver uhdOpen
    -- whatever was rebuilt, the clocks start over
    { s with produced := 0, nextTxAt := srHz, nextBeaconAt := srHz / 2 }
  else s

/-- The assignments of `rebuildDriver`. -/
def rebuildMoves (s : SimLoop) (uhdOpen : Except String Unit) : List Move :=
  if s.vm.rebuildDriver then
    if Features.uhd then
      if s.vm.useUhd then
        if s.driver.isParkable && s.activeUhdArgs == s.vm.uhdArgs then []
        else
          match s.parkedUhd with
          | some (_, args) =>
            if args = s.vm.uhdArgs then [.takeParked, .install] else openMoves s.vm uhdOpen
          | none => openMoves s.vm uhdOpen
      else if s.driver.isParkable then [.replace s.vm.noiseSigma s.vm.signalAmp, .stow]
      else makeMoves s.vm uhdOpen
    else makeMoves s.vm uhdOpen
  else []

/-- The loop while its driver rebuild opens a device. -/
def loadingStages (s : SimLoop) (uhdOpen : Except String Unit) : List SimLoop :=
  if (s.rebuildMoves uhdOpen).any fun m => m.opening.isSome then
    [{ s with vm := { s.vm with rebuildDriver := false } }.openingUhd]
  else []

end

/-! ## Parameters -/

/-- On an interval change, the next automatic message is at most one interval away. -/
def clampNextTx (s : SimLoop) (intervalSamples : UInt64) : SimLoop :=
  if s.vm.intervalMs ≠ s.prevIntervalMs then
    let earliest := s.produced + intervalSamples
    { s with
      prevIntervalMs := s.vm.intervalMs
      nextTxAt := if s.nextTxAt > earliest then earliest else s.nextTxAt }
  else s

/-- Hand the parameters to the driver and the modems, those that have changed. -/
def applyParams [Arith] (s : SimLoop) (sf : UInt8) : SimLoop :=
  let s := s.call [.setSignalAmp s.vm.signalAmp, .setNoiseSigma s.vm.noiseSigma]
  let rxGain := s.vm.uhdRxGainDb
  let txGain := s.vm.uhdTxGainDb
  let s := if rxGain.feq s.lastUhdRxGain then s
    else { s with lastUhdRxGain := rxGain }.call [.setHwRxGain rxGain]
  let s := if txGain.feq s.lastUhdTxGain then s
    else { s with lastUhdTxGain := txGain }.call [.setHwTxGain txGain]
  -- both modems are made anew for another spreading factor
  let s := if sf ≠ s.curSf then
      { s with curSf := sf, txModem := Tx.new sf, rxModem := rxNew sf s.vm }.call [.clear]
    else s
  { s with rxModem := { s.rxModem with centerFreqHz := s.vm.uhdFreqHz } }

/-! ## Transmissions -/

/-- Modulate a frame and hand the samples to the driver. -/
def transmit (s : SimLoop) (site : TxSite) (frame : MeshFrame) : SimLoop :=
  s.call [.pushSamples site (s.txModem.modulate frame.toBytes)]

/-- A neighbour as the view shows it. -/
def neighbourLine (n : NodeInfo) : String := n.shortName ++ " (!" ++ n.nodeId.toHex8 ++ ")"

section

variable [Prost] [Aes256]

/-- NodeInfo beacon. -/
def sendBeacon (s : SimLoop) (random : UInt32) (txAllowed : Bool) : SimLoop :=
  if s.produced ≥ s.nextBeaconAt then
    let s := { s with nextBeaconAt := s.produced + beaconInterval }
    let s :=
      if txAllowed then
        match s.node.buildNodeinfoFrame random with
        | some frame => s.transmit .beacon frame
        | none => s
      else s
    -- the list on display is refreshed at the pace of the beacon, with TX off, too
    { s with vm := { s.vm with neighbours := s.node.neighbours.all.map neighbourLine } }
  else s

/-- Build, count, log and transmit one text message. -/
def sendText (s : SimLoop) (site : TxSite) (o : Oracle) (txDest : UInt32) (text : String) :
    SimLoop :=
  match s.node.buildTextFrame o.random txDest text with
  | some frame =>
    let vm := { s.vm with txCount := s.vm.txCount + 1 }
    { s with vm := pushLog vm o.now .tx ("\"" ++ text ++ "\"") }.transmit site frame
  | none => s

/-- Transmit drained texts in order, the first of them with oracle `i`. -/
def sendTexts (s : SimLoop) (oracle : Nat → Oracle) (txDest : UInt32) (i : Nat) :
    List String → SimLoop
  | [] => s
  | text :: rest =>
    (s.sendText (.manual text) (oracle i) txDest text).sendTexts oracle txDest (i + 1) rest

/-- Manual TX: drain the queue of user-typed messages, or clear it when TX is off. -/
def manualTx (s : SimLoop) (oracle : Nat → Oracle) (txAllowed : Bool) (txDest : UInt32) :
    SimLoop :=
  let queue := s.vm.txQueue
  let s := { s with vm := { s.vm with txQueue := [] } }
  if txAllowed then s.sendTexts oracle txDest 0 queue else s

/-- The loop between the texts of `sendTexts`. -/
def sendTextsStages (s : SimLoop) (oracle : Nat → Oracle) (txDest : UInt32) (i : Nat) :
    List String → List SimLoop
  | [] => [s]
  | text :: rest =>
    s :: (s.sendText (.manual text) (oracle i) txDest text).sendTextsStages oracle txDest
      (i + 1) rest

/-- The loop between the texts of `manualTx`. -/
def manualStages (s : SimLoop) (oracle : Nat → Oracle) (txAllowed : Bool) (txDest : UInt32) :
    List SimLoop :=
  let queue := s.vm.txQueue
  let s := { s with vm := { s.vm with txQueue := [] } }
  if txAllowed then s.sendTextsStages oracle txDest 0 queue else [s]

/-- Auto TX. -/
def autoTx (s : SimLoop) (o : Oracle) (txAllowed : Bool) (txDest : UInt32)
    (intervalSamples : UInt64) : SimLoop :=
  if txAllowed && s.vm.autoTx && decide (s.produced ≥ s.nextTxAt) then
    let s := { s with nextTxAt := s.produced + intervalSamples, seq := s.seq + 1 }
    let text := "Test #" ++ toString s.seq.toNat
    s.sendText (.auto text) o txDest text
  else s

end

/-! ## Samples and spectra -/

/-- Bin-wise maximum, the first spectrum as it is. -/
def peakOf (peak spec : List F64) : List F64 :=
  if peak.isEmpty then spec
  else List.zipWith (fun p s => if p.flt s then s else p) peak spec

/-- Tick the driver and publish the spectra of the samples it returned. -/
def tickDriver [Arith] (s : SimLoop) (mixedLen : Nat) (spectra : List (List F64)) : SimLoop :=
  -- `samples_per_tick`: one 16 ms tick at `srHz`
  let s := { s with produced := s.produced + UInt64.ofNat mixedLen }.call [.tick 16000]
  -- the newest spectrum is the row, their maximum the curve
  let row := spectra.getLast?.elim s.vm.latestWaterfallRow (·.map Arith.narrow)
  let peak := spectra.foldl peakOf []
  let spectrum := if peak.isEmpty then s.vm.latestSpectrum else peak.map Arith.narrow
  { s with vm := { s.vm with latestWaterfallRow := row, latestSpectrum := spectrum } }

/-- The loop between the spectra of `tickDriver`, each of which is the row for a while. -/
def rowStages [Arith] (s : SimLoop) (spectra : List (List F64)) : List SimLoop :=
  spectra.map fun spec =>
    { s with vm := { s.vm with latestWaterfallRow := spec.map Arith.narrow } }

/-! ## RX decode -/

/-- Relay a frame, unless TX is off. -/
def relay (s : SimLoop) (site : TxSite) (txAllowed : Bool) (now : String) (fwd : MeshFrame) :
    SimLoop :=
  if txAllowed then
    let s := s.transmit site fwd
    { s with vm := pushLog s.vm now .fwd "relay" }
  else s

section

variable [Arith]

/-- Carrier offset of a decoded frame in Hz. -/
def offsetHz (sf : UInt8) (freqOffsetBins : F64) : F64 :=
  Arith.div (Arith.mul freqOffsetBins bwF64) (Arith.ofU64 ((1 : UInt64) <<< sf.toUInt64))

/-- The log line of a delivered message. -/
def messageLabel [Prost] (data : Data) (offHz : F64) : String :=
  let label := match Data.text data with
    | some t => "\"" ++ t ++ "\""
    | none => "portnum=" ++ toString data.portnum.toInt ++ " len=" ++ toString data.payload.length
  let offStr := if F64.flt 10.0 offHz.abs then " [" ++ Arith.showSigned offHz ++ "Hz]" else ""
  label ++ offStr

/-- Log and count a delivered message. -/
def deliver [Prost] (s : SimLoop) (msg : MeshMessage) (now : String) (offHz : F64) : SimLoop :=
  -- a message of the node itself, looped back, is logged but not counted
  let vm := if msg.selfOrigin then s.vm else { s.vm with rxCount := s.vm.rxCount + 1 }
  let vm := pushLogFull vm now .rx (messageLabel msg.data offHz)
    (some msg.fromNode) (some msg.hopLimit) msg.selfOrigin
  { s with vm }

variable [Prost] [Aes256]

/-- One decoded payload through the node. -/
def receive (s : SimLoop) (txAllowed : Bool) (payload : List UInt8) (offHz : F64)
    (clock : RxClock) : SimLoop :=
  let (result, node) := s.node.processRxFrame payload
  let s := { s with node }
  match result with
  | .ok (some msg, fwd) =>
    let s := s.deliver msg clock.now offHz
    match fwd with
    | some fwd => s.relay .relayDelivered txAllowed clock.fwdNow fwd
    | none => s
  | .ok (none, some fwd) => s.relay .relayTransit txAllowed clock.fwdNow fwd
  | .ok (none, none) => s
  | .error e => { s with vm := pushLog s.vm clock.now .error e.toString }

/-- One turn of the RX decode loop. -/
def decode (s : SimLoop) (sf : UInt8) (txAllowed : Bool) (clock : RxClock) :
    StreamDecodeResult → SimLoop
  | .ok payload bins => s.receive txAllowed payload (offsetHz sf bins) clock
  | .crcFail len cr hasCrc bins =>
    let text := "CRC fail (hdr: len=" ++ toString len ++ " cr=4/" ++ toString (cr + 4).toNat
      ++ " crc=" ++ (if hasCrc then "yes" else "no") ++ ") ["
      ++ Arith.showSigned (offsetHz sf bins) ++ "Hz]"
    { s with vm := pushLog s.vm clock.now .error text }
  | .decodeFailed => { s with vm := pushLog s.vm clock.now .error "decode failed (header)" }
  -- nothing more to decode: sleep out the tick and go round
  | .none => { s with phase := .top }

variable [Features]

/-! ## The loop -/

/-- The part of a non-paused iteration after the commands were drained. -/
def runTick (s : SimLoop) (inp : TickInput) : SimLoop :=
  let s := s.rebuildNode inp.rebuildNow
  let s := s.rebuildDriver inp.uhdOpen
  let sf := s.vm.sf
  let intervalSamples := s.vm.intervalSamples
  let s := s.clampNextTx intervalSamples
  let s := s.applyParams sf
  -- the mode that the commands of this iteration left
  let txAllowed := s.vm.mode != .listen
  let s := s.sendBeacon inp.beacon txAllowed
  let txDest := s.vm.txDest
  let s := s.manualTx inp.manual txAllowed txDest
  let s := s.autoTx inp.auto txAllowed txDest intervalSamples
  let s := s.tickDriver inp.mixedLen inp.spectra
  { s with phase := .rx sf txAllowed }

/-- One iteration up to the RX decode loop; a paused one only drains commands. -/
def tick (s : SimLoop) (inp : TickInput) : SimLoop :=
  let s := s.drainCommands inp.commands
  if s.vm.running then s.runTick inp else s

/-- The loop between the parts of `runTick`. -/
def runStages (s : SimLoop) (inp : TickInput) : List SimLoop :=
  let s₁ := s.rebuildNode inp.rebuildNow
  let s₂ := s₁.rebuildDriver inp.uhdOpen
  let sf := s₂.vm.sf
  let intervalSamples := s₂.vm.intervalSamples
  let s₃ := (s₂.clampNextTx intervalSamples).applyParams sf
  let txAllowed := s₃.vm.mode != .listen
  let s₄ := s₃.sendBeacon inp.beacon txAllowed
  let txDest := s₄.vm.txDest
  let s₅ := s₄.manualTx inp.manual txAllowed txDest
  let s₆ := s₅.autoTx inp.auto txAllowed txDest intervalSamples
  [s, s₁] ++ s₁.loadingStages inp.uhdOpen ++ [s₂, s₃, s₄] ++
    s₄.manualStages inp.manual txAllowed txDest ++ [s₅, s₆] ++ s₆.rowStages inp.spectra ++
    [s.runTick inp]

/-- The view-models that `tick` puts on display once its commands are drained. Between two of
    them each field that the view or a snapshot reads is written at most once. -/
def tickViews (s : SimLoop) (inp : TickInput) : List ViewModel :=
  let s := s.drainCommands inp.commands
  if s.vm.running then (s.runStages inp).map vm else [s.vm]

/-- Start-up: build the node, open the driver, clear the rebuild flag. Whoever reads `vm`
    meanwhile sees `startViews`. -/
def start (vm : ViewModel) (uhdOpen : Except String Unit) : SimLoop :=
  let (node, vm) := buildNode vm
  let (driver, vm, calls) := makeDriver vm uhdOpen
  let vm := { vm with uhdLoading := false, rebuildDriver := false }
  { phase := .top
    vm
    node
    driver
    txModem := Tx.new defaultSf
    rxModem := rxNew defaultSf vm
    curSf := defaultSf
    produced := 0
    seq := 0
    nextTxAt := srHz
    nextBeaconAt := srHz / 2
    prevIntervalMs := defaultIntervalMs
    lastUhdRxGain := F64.nan
    lastUhdTxGain := F64.nan
    parkedUhd := none
    activeUhdArgs := ""
    calls }

/-- The view-models that `start` puts on display; `uhdLoading` is as `main` left it until the
    driver is open. -/
def startViews (vm : ViewModel) (uhdOpen : Except String Unit) : List ViewModel :=
  let (_, vm₁) := buildNode vm
  let (_, vm₂, _) := makeDriver vm₁ uhdOpen
  [vm, vm₁, vm₂, (start vm uhdOpen).vm]

end

end SimLoop

/-- The view-model `main` hands to the loop; `probed` is whether a USRP was found. -/
def bootView [Arith] (random : UInt32) (probed : Bool) : ViewModel :=
  let vm := ViewModel.new random
  if probed then { vm with useUhd := true, uhdLoading := true, rebuildDriver := true } else vm

/-- What happens next in a run of the loop. -/
inductive LoopEvent
  | tick (inp : TickInput)
  | decode (r : StreamDecodeResult) (clock : RxClock)

/-- The assignments of a step: those of the driver rebuild of an unpaused iteration. -/
def SimLoop.moves [Arith] [Features] (s : SimLoop) : LoopEvent → List Move
  | .tick inp =>
    let s := s.drainCommands inp.commands
    if s.vm.running then (s.rebuildNode inp.rebuildNow).rebuildMoves inp.uhdOpen else []
  | .decode _ _ => []

/-- `sim_loop`, one step at a time. -/
def SimLoop.step [Arith] [Prost] [Aes256] [Features] (s : SimLoop) (e : LoopEvent) :
    Option SimLoop :=
  match s.phase, e with
  | .top, .tick inp => some (s.tick inp)
  | .rx sf txAllowed, .decode r clock => some (s.decode sf txAllowed clock r)
  | _, _ => none

end Mesh
