import Mesh.ForStd.Lts
import Mesh.Native.Radio
import Mesh.Spec.AppCorrect
import Mesh.Spec.DriverRebuild

/-!
# The radio loop, seen from its commands and its node

`Core` is what commands steer and frames change: the node, the operating mode,
the manual queue, and the texts handed to the driver with the destination of
their frames. The devices, the counters and the displays around it come and go
without effect on it. `core_tick` and `core_decode` say what one step of the loop
does to the core.

## Key results

- `SimLoop.core_tick`, `SimLoop.core_decode`: the two kinds of steps
- `SimLoop.step_cases`: inversion of a step
-/

namespace Mesh

/-- The text of a manual transmission and the destination of its frame. -/
def DriverCall.manualText : DriverCall → Option (String × UInt32)
  | pushSamples (.manual text) iq =>
    (MeshFrame.fromBytes iq.payload).map fun frame => (text, frame.header.toNode)
  | _ => none

/-- The call sets a parameter of the driver or clears its buffers. -/
def DriverCall.setsParam : DriverCall → Prop
  | setSignalAmp _ | setNoiseSigma _ | setHwRxGain _ | setHwTxGain _ | clear => True
  | _ => False

/-- Setting a parameter sends no text. -/
theorem DriverCall.manualText_of_setsParam {c : DriverCall} (h : c.setsParam) :
    c.manualText = none := by
  cases c <;> first | rfl | exact h.elim

/-- Handing a device over sends no text. -/
theorem DriverCall.manualText_of_handsOver {c : DriverCall} (h : c.handsOver) :
    c.manualText = none := by
  cases c <;> first | rfl | exact h.elim

/-- The manual transmissions among some calls. -/
def manualTexts (calls : List DriverCall) : List (String × UInt32) :=
  calls.filterMap DriverCall.manualText

/-- What commands steer and frames change. -/
structure Core where
  node : MeshNode
  running : Bool
  mode : SimMode
  rebuildNodes : Bool
  nodeId : UInt32
  nodeShort : String
  nodeLong : String
  txDest : UInt32
  txQueue : List String
  sent : List (String × UInt32)

namespace Core

/-- A command, on the core. -/
def apply (c : Core) : Command → Core
  | .setMode m => { c with mode := m, rebuildNodes := true }
  | .setNodeShort s => { c with nodeShort := s, rebuildNodes := true }
  | .setNodeLong s => { c with nodeLong := s, rebuildNodes := true }
  | .setTxDest id => { c with txDest := id }
  | .setRunning on => { c with running := on }
  | .sendText s => { c with txQueue := c.txQueue ++ [s] }
  | _ => c

/-- The node rebuild replaces the node by a fresh one with the current names. -/
def rebuild (c : Core) : Core :=
  if c.rebuildNodes then
    { c with
      node := MeshNode.withId ChannelConfig.default c.nodeId c.nodeShort c.nodeLong
      rebuildNodes := false }
  else c

/-- Of the core, the node rebuild writes the node and the flag that asks for it. -/
theorem rebuild_eq (c : Core) : ∃ node rebuildNodes, c.rebuild = { c with node, rebuildNodes } := by
  unfold rebuild
  split
  · exact ⟨_, _, rfl⟩
  · exact ⟨c.node, c.rebuildNodes, rfl⟩

end Core

namespace SimLoop

/-- The core of a state. -/
def core (s : SimLoop) : Core where
  node := s.node
  running := s.vm.running
  mode := s.vm.mode
  rebuildNodes := s.vm.rebuildNodes
  nodeId := s.vm.nodeId
  nodeShort := s.vm.nodeShort
  nodeLong := s.vm.nodeLong
  txDest := s.vm.txDest
  txQueue := s.vm.txQueue
  sent := manualTexts s.calls

/-! ## Steps that leave the core alone -/

/-- Texts are collected call by call. -/
theorem manualTexts_append (cs ds : List DriverCall) :
    manualTexts (cs ++ ds) = manualTexts cs ++ manualTexts ds := List.filterMap_append

/-- Calls other than manual transmissions. -/
theorem core_call (s : SimLoop) {cs : List DriverCall} (h : manualTexts cs = []) :
    (s.call cs).core = s.core := by
  simp only [core, call, manualTexts_append, h, List.append_nil]

section

variable [Ieee.Arith]

variable [Features]

/-- A driver rebuild leaves the core alone. -/
theorem core_rebuildDriver (s : SimLoop) (uhdOpen : Except String Unit) :
    (s.rebuildDriver uhdOpen).core = s.core := by
  obtain ⟨hnode, ⟨_, _, _, _, hvm⟩, ⟨cs, hcalls, hcs⟩, -⟩ := swaps_rebuildDriver s uhdOpen
  have hmanual : manualTexts cs = [] :=
    List.filterMap_eq_nil_iff.mpr fun c hc => DriverCall.manualText_of_handsOver (hcs c hc)
  simp only [core, hnode, hvm, hcalls, manualTexts_append, hmanual, List.append_nil]

/-- What the loop starts with. -/
theorem core_start (random : UInt32) (probed : Bool) (uhdOpen : Except String Unit) :
    (start (bootView random probed) uhdOpen).core = {
      node := MeshNode.withId ChannelConfig.default random "TERM" "Mesh Terminal"
      running := true, mode := .listen, rebuildNodes := false
      nodeId := random, nodeShort := "TERM", nodeLong := "Mesh Terminal"
      txDest := broadcast, txQueue := [], sent := [] } := by
  by_cases huhd : (Features.uhd && (bootView random probed).useUhd) = true
  · simp only [start, makeDriver, buildNode, huhd, if_true]
    cases uhdOpen <;> cases probed <;> rfl
  · simp only [start, makeDriver, buildNode, huhd]
    cases probed <;> rfl

end

theorem core_clampNextTx (s : SimLoop) (intervalSamples : UInt64) :
    (s.clampNextTx intervalSamples).core = s.core := by
  unfold clampNextTx
  split <;> rfl

/-- What holds of a state holds after the parameters are applied, if calls that set them
    and writes to the gains and the modems keep it. -/
theorem applyParams_keeps [Ieee.Arith] {P : SimLoop → Prop} {s : SimLoop} (hs : P s)
    (hcall : ∀ t cs, (∀ c ∈ cs, c.setsParam) → P t → P (t.call cs))
    (hgains : ∀ t rx tx, P t → P { t with lastUhdRxGain := rx, lastUhdTxGain := tx })
    (hmodems : ∀ t sf tx rx, P t → P { t with curSf := sf, txModem := tx, rxModem := rx })
    (sf : UInt8) : P (s.applyParams sf) := by
  have hone : ∀ t c, c.setsParam → P t → P (t.call [c]) := fun t c hc ht =>
    hcall t [c] (List.forall_mem_singleton.mpr hc) ht
  have hlevels : P (s.call [.setSignalAmp s.vm.signalAmp, .setNoiseSigma s.vm.noiseSigma]) :=
    hcall s _ (List.forall_mem_cons.mpr ⟨trivial, List.forall_mem_singleton.mpr trivial⟩) hs
  have hrx : ∀ (t : SimLoop) (g : Ieee.F64), P t → P (if g.feq t.lastUhdRxGain then t
      else { t with lastUhdRxGain := g }.call [.setHwRxGain g]) := by
    intro t g ht
    split
    · exact ht
    · exact hone _ _ trivial (hgains t g t.lastUhdTxGain ht)
  have htx : ∀ (t : SimLoop) (g : Ieee.F64), P t → P (if g.feq t.lastUhdTxGain then t
      else { t with lastUhdTxGain := g }.call [.setHwTxGain g]) := by
    intro t g ht
    split
    · exact ht
    · exact hone _ _ trivial (hgains t t.lastUhdRxGain g ht)
  have hsf : ∀ t : SimLoop, P t → P (if sf ≠ t.curSf then
      { t with curSf := sf, txModem := Tx.new sf, rxModem := rxNew sf t.vm }.call [.clear]
      else t) := by
    intro t ht
    split
    · exact hone _ _ trivial (hmodems t sf _ _ ht)
    · exact ht
  -- the center frequency is written last
  exact hmodems _ _ _ _ (hsf _ (htx _ _ (hrx _ _ hlevels)))

/-- Settings go to the devices, and the core keeps its own. -/
theorem core_applyParams [Ieee.Arith] (s : SimLoop) (sf : UInt8) :
    (s.applyParams sf).core = s.core := by
  refine applyParams_keeps (P := fun t => t.core = s.core) rfl ?_ ?_ ?_ sf
  · intro t cs hcs ht
    refine (core_call t ?_).trans ht
    exact List.filterMap_eq_nil_iff.mpr fun c hc => DriverCall.manualText_of_setsParam (hcs c hc)
  · exact fun _ _ _ ht => ht
  · exact fun _ _ _ _ ht => ht

theorem core_tickDriver [Ieee.Arith] (s : SimLoop) (mixedLen : Nat)
    (spectra : List (List Ieee.F64)) : (s.tickDriver mixedLen spectra).core = s.core :=
  core_call s (show manualTexts [.tick 16000] = [] from rfl)

/-! ## Commands and the node rebuild -/

/-- Draining commands, through a reading that follows them one by one. -/
theorem read_drainCommands {β : Type} {read : SimLoop → β} {apply : β → Command → β}
    (hone : ∀ (t : SimLoop) (cmd : Command),
      read { t with vm := cmd.apply t.vm } = apply (read t) cmd)
    (s : SimLoop) (commands : List Command) :
    read (s.drainCommands commands) = commands.foldl apply (read s) := by
  induction commands generalizing s with
  | nil => rfl
  | cons cmd commands ih =>
    rw [List.foldl_cons, ← hone]
    exact ih { s with vm := cmd.apply s.vm }

/-- Commands steer the core one by one. -/
theorem core_drainCommands (s : SimLoop) (commands : List Command) :
    (s.drainCommands commands).core = commands.foldl Core.apply s.core := by
  apply read_drainCommands
  intro t cmd
  cases cmd <;> rfl

/-- The node rebuild, seen from the core. -/
theorem core_rebuildNode (s : SimLoop) (now : String) :
    (s.rebuildNode now).core = s.core.rebuild := by
  unfold rebuildNode Core.rebuild
  by_cases h : s.vm.rebuildNodes = true
  · simp only [h, if_true, core]
    rfl
  · simp [h, core]

/-! ## Transmissions -/

/-- Transmissions other than manual ones. -/
theorem core_transmit (s : SimLoop) {site : TxSite} (frame : MeshFrame)
    (h : ∀ text, site ≠ .manual text) : (s.transmit site frame).core = s.core := by
  apply core_call s
  cases site with
  | manual text => exact absurd rfl (h text)
  | _ => rfl

/-- The text fits into a frame. -/
def fits [Prost] (text : String) : Bool :=
  decide ((Prost.encodeData (MeshNode.textData text)).length ≤ maxPayload)

section

variable [Prost] [Aes256]

/-- The only reason not to build a text frame is the length of the text. -/
theorem isSome_buildTextFrame (node : MeshNode) (random txDest : UInt32) (text : String) :
    (node.buildTextFrame random txDest text).isSome = fits text := by
  cases hbuild : node.buildTextFrame random txDest text with
  | none =>
    symm
    rw [Option.isSome_none, fits, decide_eq_false_iff_not]
    intro hle
    rw [MeshNode.buildTextFrame, buildFrame_eq_some_iff.mpr ⟨hle, rfl⟩] at hbuild
    exact nomatch hbuild
  | some frame =>
    obtain ⟨hle, -⟩ := buildFrame_eq_some_iff.mp hbuild
    exact (decide_eq_true hle).symm

/-- What holds of a state holds after a beacon was due, if a beacon and writes to its clock
    and to the neighbours in the view keep it. -/
theorem sendBeacon_keeps {P : SimLoop → Prop} {s : SimLoop} (hs : P s)
    (hdue : ∀ t at', P t → P { t with nextBeaconAt := at' })
    (hsend : ∀ t frame, P t → P (t.transmit .beacon frame))
    (hview : ∀ (t : SimLoop) neighbours, P t → P { t with vm := { t.vm with neighbours } })
    (random : UInt32) (txAllowed : Bool) : P (s.sendBeacon random txAllowed) := by
  unfold sendBeacon
  split
  · -- the time is set before the frame goes out, and the neighbours after
    have ht := hdue s (s.produced + beaconInterval) hs
    apply hview
    split
    · split
      · exact hsend _ _ ht
      · exact ht
    · exact ht
  · exact hs

/-- A beacon is no text, and the neighbours on display are not in the core. -/
theorem core_sendBeacon (s : SimLoop) (random : UInt32) (txAllowed : Bool) :
    (s.sendBeacon random txAllowed).core = s.core := by
  have hsite : ∀ text, TxSite.beacon ≠ .manual text := nofun
  exact sendBeacon_keeps (P := fun t => t.core = s.core) rfl (fun _ _ ht => ht)
    (fun t frame ht => (core_transmit t frame hsite).trans ht) (fun _ _ ht => ht) random txAllowed

/-- Manual texts go out to the destination they are given, if they fit. -/
theorem core_sendText_manual (s : SimLoop) (o : Oracle) (txDest : UInt32) (text : String) :
    (s.sendText (.manual text) o txDest text).core =
      { s.core with sent := s.core.sent ++ if fits text then [(text, txDest)] else [] } := by
  unfold sendText
  have hfits := isSome_buildTextFrame s.node o.random txDest text
  cases hbuild : s.node.buildTextFrame o.random txDest text with
  | none =>
    rw [hbuild, Option.isSome_none] at hfits
    simp [← hfits]
  | some frame =>
    rw [hbuild, Option.isSome_some] at hfits
    obtain ⟨-, hframe⟩ := buildFrame_eq_some_iff.mp hbuild
    have hto : frame.header.toNode = txDest := by rw [hframe]
    -- the destination is read back from the bytes on the air
    have hcall : manualTexts [.pushSamples (.manual text) (s.txModem.modulate frame.toBytes)] =
        [(text, txDest)] := by
      simp [manualTexts, DriverCall.manualText, Tx.modulate,
        MeshFrame.fromBytes_toBytes_of_inRange (inRange_of_buildFrame hbuild), hto]
    simp only [core, transmit, call, manualTexts_append, hcall, ← hfits, if_true]
    rfl

/-- An automatic message is no text that was typed. -/
theorem core_sendText_auto (s : SimLoop) (o : Oracle) (txDest : UInt32) (text : String) :
    (s.sendText (.auto text) o txDest text).core = s.core := by
  unfold sendText
  split
  · exact core_transmit { s with vm := _ } _ nofun
  · rfl

/-- The texts that fit are sent in order, all to one destination. -/
theorem core_sendTexts (s : SimLoop) (oracle : Nat → Oracle) (txDest : UInt32) (i : Nat)
    (texts : List String) :
    (s.sendTexts oracle txDest i texts).core =
      { s.core with sent := s.core.sent ++ (texts.filter fits).map (·, txDest) } := by
  induction texts generalizing s i with
  | nil => simp [sendTexts]
  | cons text rest ih =>
    rw [sendTexts, ih, core_sendText_manual]
    by_cases h : fits text = true <;> simp [h]

/-- The manual queue is emptied, and sent unless TX is off. -/
theorem core_manualTx (s : SimLoop) (oracle : Nat → Oracle) (txAllowed : Bool) (txDest : UInt32) :
    (s.manualTx oracle txAllowed txDest).core =
      { s.core with
        txQueue := []
        sent := s.core.sent ++
          if txAllowed then (s.core.txQueue.filter fits).map (·, txDest) else [] } := by
  unfold manualTx
  cases txAllowed with
  | true => exact core_sendTexts _ oracle txDest 0 s.vm.txQueue
  | false =>
    -- TX off: the queue is cleared all the same
    simp [core]

theorem core_autoTx (s : SimLoop) (o : Oracle) (txAllowed : Bool) (txDest : UInt32)
    (intervalSamples : UInt64) :
    (s.autoTx o txAllowed txDest intervalSamples).core = s.core := by
  unfold autoTx
  split
  · exact core_sendText_auto _ _ _ _
  · rfl

end

end SimLoop

/-- One iteration: the commands in order, then, unless paused, the node rebuild and the
    manual queue. -/
def Core.tick [Prost] (c : Core) (commands : List Command) : Core :=
  let c := commands.foldl Core.apply c
  if c.running then
    let c := c.rebuild
    { c with
      txQueue := []
      sent := c.sent ++
        if c.mode = .listen then [] else (c.txQueue.filter SimLoop.fits).map (·, c.txDest) }
  else c

namespace SimLoop

/-! ## What a payload leaves behind -/

/-- Relaying is a call and a line in the log. -/
theorem relay_keeps (s : SimLoop) (site : TxSite) (txAllowed : Bool) (now : String)
    (fwd : MeshFrame) :
    (s.relay site txAllowed now fwd).phase = s.phase ∧
      (s.relay site txAllowed now fwd).vm.rxCount = s.vm.rxCount := by
  unfold relay
  split <;> exact ⟨rfl, rfl⟩

section

variable [Ieee.Arith] [Prost] [Aes256] {s : SimLoop} {payload : List UInt8} {node : MeshNode}

/-- A payload that is neither delivered nor forwarded changes the node alone. -/
theorem receive_dropped (txAllowed : Bool) (offHz : Ieee.F64) (clock : RxClock)
    (h : s.node.processRxFrame payload = (.ok (none, none), node)) :
    s.receive txAllowed payload offHz clock = { s with node } := by
  simp only [receive, h]

/-- A payload that cannot be processed is logged. -/
theorem receive_error {err : ProcessError} (txAllowed : Bool) (offHz : Ieee.F64) (clock : RxClock)
    (h : s.node.processRxFrame payload = (.error err, node)) :
    s.receive txAllowed payload offHz clock =
      { s with node, vm := pushLog s.vm clock.now .error err.toString } := by
  simp only [receive, h]

/-- A payload leaves the loop where it stands. -/
theorem phase_receive (s : SimLoop) (txAllowed : Bool) (payload : List UInt8) (offHz : Ieee.F64)
    (clock : RxClock) : (s.receive txAllowed payload offHz clock).phase = s.phase := by
  unfold receive
  -- an error, or a message or none with a frame to relay or none
  rcases s.node.processRxFrame payload with ⟨err | ⟨_ | msg, _ | fwd⟩, node⟩
  · rfl
  · rfl
  · exact (relay_keeps _ _ _ _ _).1
  · rfl
  · exact (relay_keeps _ _ _ _ _).1

/-- A turn of the decode loop keeps the phase or ends the iteration. -/
theorem phase_decode (s : SimLoop) (sf : UInt8) (txAllowed : Bool) (clock : RxClock)
    (r : StreamDecodeResult) : (s.decode sf txAllowed clock r).phase = .top ∨
      (s.decode sf txAllowed clock r).phase = s.phase := by
  cases r with
  | ok payload bins => exact .inr (phase_receive s txAllowed payload _ clock)
  | crcFail len cr hasCrc bins => exact .inr rfl
  | decodeFailed => exact .inr rfl
  | none => exact .inl rfl

/-- A delivered message of another node is counted. -/
theorem rxCount_receive {msg : MeshMessage} {fwd : Option MeshFrame} (txAllowed : Bool)
    (offHz : Ieee.F64) (clock : RxClock)
    (h : s.node.processRxFrame payload = (.ok (some msg, fwd), node))
    (hself : msg.selfOrigin = false) :
    (s.receive txAllowed payload offHz clock).vm.rxCount = s.vm.rxCount + 1 := by
  have hdeliver : ∀ u : SimLoop, (u.deliver msg clock.now offHz).vm.rxCount =
      u.vm.rxCount + 1 := by
    intro u
    simp only [deliver, hself, Bool.false_eq_true, if_false]
    rfl
  simp only [receive, h]
  cases fwd with
  | none => exact hdeliver _
  | some fwd => exact (relay_keeps _ _ _ _ _).2.trans (hdeliver _)

end

/-! ## The two kinds of steps -/

/-- A relay is no text that was typed. -/
theorem core_relay (s : SimLoop) {site : TxSite} (h : ∀ text, site ≠ .manual text)
    (txAllowed : Bool) (now : String) (fwd : MeshFrame) :
    (s.relay site txAllowed now fwd).core = s.core := by
  unfold relay
  split
  · exact core_transmit s fwd h
  · rfl

section

variable [Ieee.Arith] [Prost]

/-- A delivery is logged and counted, which the core does not see. -/
theorem core_deliver (s : SimLoop) (msg : MeshMessage) (now : String) (offHz : Ieee.F64) :
    (s.deliver msg now offHz).core = s.core := by
  unfold deliver
  split <;> rfl

variable [Aes256]

/-- A decoded payload changes the node as `processRxFrame` does. -/
theorem core_receive (s : SimLoop) (txAllowed : Bool) (payload : List UInt8) (offHz : Ieee.F64)
    (clock : RxClock) :
    (s.receive txAllowed payload offHz clock).core =
      { s.core with node := (s.node.processRxFrame payload).2 } := by
  have hdelivered : ∀ text, TxSite.relayDelivered ≠ .manual text := nofun
  have htransit : ∀ text, TxSite.relayTransit ≠ .manual text := nofun
  unfold receive
  cases hrx : s.node.processRxFrame payload with
  | mk result node =>
    have hnode : { s with node }.core = { s.core with node } := rfl
    cases result with
    | error e => rfl
    | ok p =>
      obtain ⟨msg, fwd⟩ := p
      -- delivered or not, relayed or not
      cases msg <;> cases fwd
      · rfl
      · exact (core_relay _ htransit _ _ _).trans hnode
      · exact (core_deliver _ _ _ _).trans hnode
      · exact (core_relay _ hdelivered _ _ _).trans ((core_deliver _ _ _ _).trans hnode)

/-- A turn of the decode loop changes the node, and only for a payload. -/
theorem core_decode (s : SimLoop) (sf : UInt8) (txAllowed : Bool) (clock : RxClock)
    (r : StreamDecodeResult) :
    (s.decode sf txAllowed clock r).core =
      match r with
      | .ok payload _ => { s.core with node := (s.node.processRxFrame payload).2 }
      | _ => s.core := by
  cases r with
  | ok payload bins => exact core_receive s txAllowed payload _ clock
  | crcFail len cr hasCrc bins => rfl
  | decodeFailed => rfl
  | none => rfl

/-- A turn of the decode loop changes the node alone. -/
theorem core_decode_node (s : SimLoop) (sf : UInt8) (txAllowed : Bool) (clock : RxClock)
    (r : StreamDecodeResult) :
    ∃ node, (s.decode sf txAllowed clock r).core = { s.core with node } := by
  rw [core_decode]
  cases r with
  | ok payload bins => exact ⟨_, rfl⟩
  | _ => exact ⟨s.core.node, rfl⟩

variable [Features]

/-- An unpaused iteration, seen from the core. -/
private theorem core_runTick (s : SimLoop) (inp : TickInput) :
    (s.runTick inp).core =
      { s.core.rebuild with
        txQueue := []
        sent := s.core.rebuild.sent ++
          if s.core.rebuild.mode = .listen then []
          else (s.core.rebuild.txQueue.filter fits).map (·, s.core.rebuild.txDest) } := by
  unfold runTick
  simp only
  -- up to the beacon only the node rebuild changes the core
  generalize hparams : SimLoop.applyParams _ _ = t
  have ht : t.core = s.core.rebuild := by
    rw [← hparams, core_applyParams, core_clampNextTx, core_rebuildDriver, core_rebuildNode]
  have hbeacon : (t.sendBeacon inp.beacon (t.vm.mode != .listen)).core = s.core.rebuild := by
    rw [core_sendBeacon, ht]
  generalize t.sendBeacon inp.beacon (t.vm.mode != .listen) = u at hbeacon ⊢
  have hmode : t.vm.mode = s.core.rebuild.mode := congrArg Core.mode ht
  have hdest : u.vm.txDest = s.core.rebuild.txDest := congrArg Core.txDest hbeacon
  -- and after it only the manual queue does
  have hphase : ∀ (v : SimLoop) (phase : Phase), { v with phase }.core = v.core := fun _ _ => rfl
  rw [hphase, core_tickDriver, core_autoTx, core_manualTx, hbeacon, hmode, hdest]
  by_cases hlisten : s.core.rebuild.mode = .listen <;> simp [hlisten]

/-- An iteration, seen from the core. -/
theorem core_tick (s : SimLoop) (inp : TickInput) :
    (s.tick inp).core = s.core.tick inp.commands := by
  have hdrain := core_drainCommands s inp.commands
  have hrunning : (s.drainCommands inp.commands).vm.running =
      (inp.commands.foldl Core.apply s.core).running := congrArg Core.running hdrain
  unfold tick Core.tick
  simp only
  rw [hrunning]
  split
  · rw [core_runTick, hdrain]
  · exact hdrain

/-- Inversion: a step is an iteration from the top of the loop or a turn of its decode loop. -/
theorem step_cases {s t : SimLoop} {e : LoopEvent} (h : s.step e = some t) :
    (∃ inp, e = .tick inp ∧ s.phase = .top ∧ t = s.tick inp) ∨
    (∃ sf txAllowed r clock, e = .decode r clock ∧ s.phase = .rx sf txAllowed ∧
      t = s.decode sf txAllowed clock r) := by
  unfold step at h
  -- the phase picks the kind of event that is possible
  cases hphase : s.phase with
  | top =>
    cases e with
    | tick inp =>
      simp only [hphase, Option.some.injEq] at h
      exact .inl ⟨inp, rfl, rfl, h.symm⟩
    | decode r clock => simp [hphase] at h
  | rx sf txAllowed =>
    cases e with
    | tick inp => simp [hphase] at h
    | decode r clock =>
      simp only [hphase, Option.some.injEq] at h
      exact .inr ⟨sf, txAllowed, r, clock, rfl, rfl, h.symm⟩

/-- `step` as a relation. -/
def Step (s : SimLoop) (e : LoopEvent) (t : SimLoop) : Prop := s.step e = some t

theorem step_tick {s : SimLoop} {inp : TickInput} (h : s.phase = .top) :
    s.Step (.tick inp) (s.tick inp) := by
  simp only [Step, step, h]

theorem step_decode {s : SimLoop} {sf : UInt8} {txAllowed : Bool} {r : StreamDecodeResult}
    {clock : RxClock} (h : s.phase = .rx sf txAllowed) :
    s.Step (.decode r clock) (s.decode sf txAllowed clock r) := by
  simp only [Step, step, h]

/-- Turns of the decode loop are taken in the decode loop. -/
theorem phase_of_decode {s t : SimLoop} {r : StreamDecodeResult} {clock : RxClock}
    (h : s.Step (.decode r clock) t) : ∃ sf txAllowed, s.phase = .rx sf txAllowed := by
  rcases step_cases h with ⟨inp, hinp, -, -⟩ | ⟨sf, txAllowed, _, _, -, hphase, -⟩
  · cases hinp
  · exact ⟨sf, txAllowed, hphase⟩

/-- An unpaused tick leads to the decode loop. -/
theorem phase_tick {s : SimLoop} {inp : TickInput}
    (h : (inp.commands.foldl Core.apply s.core).running = true) :
    ∃ sf txAllowed, (s.tick inp).phase = .rx sf txAllowed := by
  rw [← core_drainCommands] at h
  rw [tick]
  simp only [show (s.drainCommands inp.commands).vm.running = true from h, if_true]
  exact ⟨_, _, rfl⟩

end

end SimLoop

end Mesh
