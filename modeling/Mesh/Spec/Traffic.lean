import Mesh.Spec.Emissions
import Mesh.Spec.LoopDuplicates
import Mesh.Spec.RelayChain

/-!
# Where every transmission comes from

`Console` is what the commands alone say: identity, spreading factor, mode and destination.
A loop transmits what a node under these settings makes up, or relays a payload it has just
decoded, always with the modem for the spreading factor in force, and only in terminal mode.

## Key results

- `SimLoop.sends_work`, `SimLoop.sends_decode`: what the two kinds of steps transmit
- `SimLoop.obeys_run`: the loop follows its console
- `SimLoop.typed_run`: what is sent as typed was among the commands
- `every_transmission_accounted`: every transmission of every run
-/

namespace Mesh

open Ieee (F32 F64 Arith)

/-! ## The console -/

/-- The settings that decide what goes on the air. -/
structure Console where
  nodeId : UInt32
  sf : UInt8
  mode : SimMode
  nodeShort : String
  nodeLong : String
  txDest : UInt32
deriving DecidableEq

namespace Console

/-- The settings at the start. -/
def boot (random : UInt32) : Console where
  nodeId := random
  sf := defaultSf
  mode := .listen
  nodeShort := "TERM"
  nodeLong := "Mesh Terminal"
  txDest := broadcast

/-- What a command turns. -/
def apply (c : Console) : Command → Console
  | .setSf n => { c with sf := n }
  | .setMode m => { c with mode := m }
  | .setNodeShort s => { c with nodeShort := s }
  | .setNodeLong s => { c with nodeLong := s }
  | .setTxDest id => { c with txDest := id }
  | _ => c

/-- A node under these settings that has heard nothing. -/
def node (c : Console) : MeshNode :=
  MeshNode.withId ChannelConfig.default c.nodeId c.nodeShort c.nodeLong

end Console

/-- The console of a view-model. -/
def ViewModel.console (vm : ViewModel) : Console where
  nodeId := vm.nodeId
  sf := vm.sf
  mode := vm.mode
  nodeShort := vm.nodeShort
  nodeLong := vm.nodeLong
  txDest := vm.txDest

theorem untouched_console : Untouched ViewModel.console := fun _ _ _ _ _ => rfl

/-- All commands that some events drain. -/
def commandsOf (es : List LoopEvent) : List Command := es.flatMap LoopEvent.commands

/-- The commands of the last event come last. -/
theorem commandsOf_concat (es : List LoopEvent) (e : LoopEvent) :
    commandsOf (es ++ [e]) = commandsOf es ++ e.commands := by
  rw [commandsOf, List.flatMap_append, List.flatMap_singleton]
  rfl

/-- The console after some events of a loop booted with the given id. -/
def Console.after (random : UInt32) (es : List LoopEvent) : Console :=
  (commandsOf es).foldl Console.apply (Console.boot random)

/-- The last event turns the console as the others left it. -/
theorem Console.after_concat (random : UInt32) (es : List LoopEvent) (e : LoopEvent) :
    Console.after random (es ++ [e]) =
      e.commands.foldl Console.apply (Console.after random es) := by
  rw [Console.after, commandsOf_concat, List.foldl_append]
  rfl

/-! ## Transmissions -/

namespace MeshNode

variable [Prost] [Aes256]

/-- The frames that the node makes up at a site. -/
def Originates (node : MeshNode) (txDest : UInt32) : TxSite → MeshFrame → Prop
  | .beacon, frame => ∃ random, node.buildNodeinfoFrame random = some frame
  | .manual text, frame => ∃ random, node.buildTextFrame random txDest text = some frame
  | .auto text, frame => (∃ seq : UInt32, text = "Test #" ++ toString seq.toNat) ∧
    ∃ random, node.buildTextFrame random txDest text = some frame
  | _, _ => False

/-- The frame that the node relays of a payload: one hop less, and at which site says whether
    the payload was for the node, too. -/
def Relays (node : MeshNode) (payload : List UInt8) (site : TxSite) (fwd : MeshFrame) : Prop :=
  ∃ heard, node.channel.checked payload = some heard ∧ node.relayable heard ∧ heard.fwd = fwd ∧
    site = if heard.header.forUs node.nodeId then .relayDelivered else .relayTransit

/-- A frame handed back next to a message is relayed at the one site, and at the other
    without one. -/
theorem relays_of_processRxFrame {self node : MeshNode} {payload : List UInt8}
    {msg : Option MeshMessage} {fwd : MeshFrame}
    (h : self.processRxFrame payload = (.ok (msg, some fwd), node)) :
    self.Relays payload (if msg.isSome then .relayDelivered else .relayTransit) fwd := by
  have hfwd : forward? (self.processRxFrame payload).1 = some fwd := by
    rw [h]
    rfl
  obtain ⟨heard, hchk, hrel, rfl⟩ := relayable_of_forward? hfwd
  refine ⟨heard, hchk, hrel, rfl, ?_⟩
  rw [processRxFrame_new hchk hrel.1] at h
  have hresult := congrArg Prod.fst h
  by_cases hus : heard.header.forUs self.nodeId
  · simp only [hus, if_true] at hresult ⊢
    -- a body that does not decode would have been an error
    cases hdec : Prost.decodeData (self.body heard) with
    | error e =>
      rw [hdec] at hresult
      exact nomatch hresult
    | ok data =>
      rw [hdec] at hresult
      rw [← (Prod.mk.inj (Except.ok.inj hresult)).1]
      rfl
  · simp only [hus, if_false] at hresult ⊢
    rw [← (Prod.mk.inj (Except.ok.inj hresult)).1]
    rfl

/-- What a node makes up depends on its identity and its channel. -/
theorem originates_congr {a b : MeshNode} (hlocal : a.localNode = b.localNode)
    (hchannel : a.channel = b.channel) {txDest : UInt32} {site : TxSite} {frame : MeshFrame}
    (h : a.Originates txDest site frame) : b.Originates txDest site frame := by
  -- a frame is built from names, channel and the drawn number alone
  have hbuild : ∀ random toNode data,
      a.buildFrame random toNode data = b.buildFrame random toNode data := by
    intro random toNode data
    unfold buildFrame
    rw [hlocal, hchannel, crypto_eq_of_channel hchannel]
  cases site with
  | beacon =>
    obtain ⟨random, h⟩ := h
    refine ⟨random, ?_⟩
    rw [buildNodeinfoFrame, hbuild, hlocal] at h
    exact h
  | manual text =>
    obtain ⟨random, h⟩ := h
    exact ⟨random, (hbuild _ _ _).symm.trans h⟩
  | auto text =>
    obtain ⟨hseq, random, h⟩ := h
    exact ⟨hseq, random, (hbuild _ _ _).symm.trans h⟩
  | _ => exact h.elim

end MeshNode

/-- Read with the key of the public channel, the bytes are a text message. -/
def CarriesText [Prost] [Aes256] (raw : List UInt8) (text : String) : Prop :=
  ∃ frame, MeshFrame.fromBytes raw = some frame ∧
    MeshCrypto.decrypt { psk := MeshCrypto.publicPsk } frame.header.id frame.header.fromNode
        frame.payload =
      Prost.encodeData {
        portnum := Prost.textMessageApp, payload := text.asBytes, rest := Prost.dataDefault }

/-- What a node on the public channel builds for a text carries it. -/
theorem carriesText_of_buildTextFrame [Prost] [Aes256] {node : MeshNode} {random toNode : UInt32}
    {text : String} {frame : MeshFrame} (hchannel : node.channel = ChannelConfig.default)
    (hbuild : node.buildTextFrame random toNode text = some frame) :
    CarriesText frame.toBytes text := by
  have hcrypto : node.crypto = { psk := MeshCrypto.publicPsk } :=
    MeshNode.crypto_eq_of_channel (b := MeshNode.ofLocal ChannelConfig.default node.localNode)
      hchannel
  refine ⟨frame, MeshFrame.fromBytes_toBytes_of_inRange (inRange_of_buildFrame hbuild), ?_⟩
  -- the frame names the id and the sender that its body is encrypted for
  rw [← hcrypto, (buildFrame_eq_some_iff.mp hbuild).2]
  exact MeshCrypto.decrypt_encrypt _ _ _ _

/-- The console allows for the samples: in terminal mode, a frame that its node makes up, or
    one that `relays` admits. -/
def Console.Allows [Prost] [Aes256] (c : Console) (relays : TxSite → MeshFrame → Prop)
    (site : TxSite) (iq : Iq) : Prop :=
  c.mode = .terminal ∧ ∃ frame, iq = (Tx.new c.sf).modulate frame.toBytes ∧
    (c.node.Originates c.txDest site frame ∨ relays site frame)

namespace SimLoop

/-- From one state to another the loop makes transmissions of some kind, and keeps its node
    and its modem. -/
structure Sends (Q : TxSite → Iq → Prop) (s t : SimLoop) : Prop where
  aired : ∃ xs, aired t.calls = aired s.calls ++ xs ∧ ∀ x ∈ xs, Q x.1 x.2
  node : t.node = s.node
  txModem : t.txModem = s.txModem

namespace Sends

variable {Q : TxSite → Iq → Prop} {s t u : SimLoop}

theorem refl (s : SimLoop) : Sends Q s s :=
  ⟨⟨[], (List.append_nil _).symm, fun _ hx => absurd hx List.not_mem_nil⟩, rfl, rfl⟩

theorem trans (h : Sends Q s t) (h' : Sends Q t u) : Sends Q s u := by
  obtain ⟨⟨xs, hxs, hQ⟩, hnode, hmodem⟩ := h
  obtain ⟨⟨ys, hys, hQ'⟩, hnode', hmodem'⟩ := h'
  refine ⟨⟨xs ++ ys, ?_, ?_⟩, hnode'.trans hnode, hmodem'.trans hmodem⟩
  · rw [hys, hxs, List.append_assoc]
  · intro x hx
    rcases List.mem_append.mp hx with hx | hx
    · exact hQ x hx
    · exact hQ' x hx

/-- Nothing is transmitted. -/
theorem of_eq (hcalls : Mesh.aired t.calls = Mesh.aired s.calls) (hnode : t.node = s.node)
    (hmodem : t.txModem = s.txModem) : Sends Q s t :=
  ⟨⟨[], by rw [hcalls, List.append_nil], fun _ hx => absurd hx List.not_mem_nil⟩, hnode, hmodem⟩

/-- A transmission of which `Q` holds. -/
theorem transmit {site : TxSite} {frame : MeshFrame}
    (h : Q site (s.txModem.modulate frame.toBytes)) : Sends Q s (s.transmit site frame) := by
  refine ⟨⟨[(site, s.txModem.modulate frame.toBytes)], aired_append _ _, ?_⟩, rfl, rfl⟩
  intro x hx
  rw [List.mem_singleton.mp hx]
  exact h

end Sends

/-! ## Own frames -/

section

variable [Prost] [Aes256] {Q : TxSite → Iq → Prop} {s : SimLoop}

/-- A beacon is the frame that the node builds, and none goes out with TX off. -/
theorem sends_sendBeacon {random : UInt32} {txAllowed : Bool}
    (hQ : txAllowed = true → ∀ frame, s.node.buildNodeinfoFrame random = some frame →
      Q .beacon (s.txModem.modulate frame.toBytes)) :
    Sends Q s (s.sendBeacon random txAllowed) := by
  -- neither the list on display nor the next deadline is a transmission
  have hview : ∀ (t : SimLoop) (neighbours : List String),
      Sends Q t { t with vm := { t.vm with neighbours } } := fun _ _ => .of_eq rfl rfl rfl
  have hdue : Sends Q s { s with nextBeaconAt := s.produced + beaconInterval } :=
    .of_eq rfl rfl rfl
  unfold sendBeacon
  split
  · cases txAllowed with
    | false => exact hdue.trans (hview _ _)
    | true =>
      simp only [if_true]
      cases hbuild : s.node.buildNodeinfoFrame random with
      | none => exact hdue.trans (hview _ _)
      | some frame =>
        have hsend := Sends.transmit (Q := Q) (s := { s with
          nextBeaconAt := s.produced + beaconInterval }) (hQ rfl frame hbuild)
        exact hdue.trans (hsend.trans (hview _ _))
  · exact .refl s

/-- A text is transmitted as the frame that the node builds of it. -/
theorem sends_sendText {site : TxSite} {o : Oracle} {txDest : UInt32} {text : String}
    (hQ : ∀ frame, s.node.buildTextFrame o.random txDest text = some frame →
      Q site (s.txModem.modulate frame.toBytes)) :
    Sends Q s (s.sendText site o txDest text) := by
  have hlog : ∀ vm : ViewModel, Sends Q s { s with vm } := fun _ => .of_eq rfl rfl rfl
  unfold sendText
  cases hbuild : s.node.buildTextFrame o.random txDest text with
  | none => exact .refl s
  | some frame =>
    have hsend := hQ frame hbuild
    exact (hlog _).trans (.transmit hsend)

/-- Each text of the manual queue is transmitted as the frame that the node builds of it. -/
theorem sends_sendTexts {oracle : Nat → Oracle} {txDest : UInt32} {i : Nat} {texts : List String}
    (hQ : ∀ random text frame, s.node.buildTextFrame random txDest text = some frame →
      Q (.manual text) (s.txModem.modulate frame.toBytes)) :
    Sends Q s (s.sendTexts oracle txDest i texts) := by
  induction texts generalizing s i with
  | nil => exact .refl s
  | cons text rest ih =>
    have hone := sends_sendText (s := s) (o := oracle i) fun frame =>
      hQ (oracle i).random text frame
    -- the node and the modem are those of the first text
    refine hone.trans (ih ?_)
    rw [hone.node, hone.txModem]
    exact hQ

/-- The manual queue goes out as such frames, and only with TX on. -/
theorem sends_manualTx {oracle : Nat → Oracle} {txAllowed : Bool} {txDest : UInt32}
    (hQ : txAllowed = true → ∀ random text frame,
      s.node.buildTextFrame random txDest text = some frame →
        Q (.manual text) (s.txModem.modulate frame.toBytes)) :
    Sends Q s (s.manualTx oracle txAllowed txDest) := by
  have hdrained : Sends Q s { s with vm := { s.vm with txQueue := [] } } := .of_eq rfl rfl rfl
  unfold manualTx
  cases txAllowed with
  | true => exact hdrained.trans (sends_sendTexts (hQ rfl))
  | false => exact hdrained

/-- An automatic message is a numbered test text, and none goes out with TX off. -/
theorem sends_autoTx {o : Oracle} {txAllowed : Bool} {txDest : UInt32} {intervalSamples : UInt64}
    (hQ : txAllowed = true → ∀ text frame, s.node.Originates txDest (.auto text) frame →
      Q (.auto text) (s.txModem.modulate frame.toBytes)) :
    Sends Q s (s.autoTx o txAllowed txDest intervalSamples) := by
  unfold autoTx
  split
  · rename_i hdue
    have hallowed : txAllowed = true := by
      rw [Bool.and_eq_true, Bool.and_eq_true] at hdue
      exact hdue.1.1
    have hclock : Sends Q s { s with
        nextTxAt := s.produced + intervalSamples, seq := s.seq + 1 } := .of_eq rfl rfl rfl
    exact hclock.trans (sends_sendText fun frame hbuild =>
      hQ hallowed _ frame ⟨⟨_, rfl⟩, o.random, hbuild⟩)
  · exact .refl s

end

/-! ## Relayed frames -/

section

variable {Q : TxSite → Iq → Prop} {s : SimLoop}

/-- A relay transmits the frame that it was given, and only with TX on. -/
theorem sends_relay {site : TxSite} {txAllowed : Bool} {now : String} {fwd : MeshFrame}
    (hQ : txAllowed = true → Q site (s.txModem.modulate fwd.toBytes)) :
    Sends Q s (s.relay site txAllowed now fwd) := by
  have hlog : ∀ (t : SimLoop) (vm : ViewModel), Sends Q t { t with vm } := fun _ _ =>
    .of_eq rfl rfl rfl
  unfold relay
  cases txAllowed with
  | false => exact .refl s
  | true =>
    have hsend := Sends.transmit (s := s) (hQ rfl)
    exact hsend.trans (hlog _ _)

variable [Arith] [Prost]

/-- A delivery transmits nothing. -/
theorem sends_deliver {msg : MeshMessage} {now : String} {offHz : F64} :
    Sends Q s (s.deliver msg now offHz) := by
  unfold deliver
  split <;> exact .of_eq rfl rfl rfl

variable [Aes256]

/-- A decoded payload leads to no transmission but that of the frame the node relays. -/
theorem sends_decode {sf : UInt8} {txAllowed : Bool} {clock : RxClock} {r : StreamDecodeResult}
    (hQ : ∀ payload bins site fwd, r = .ok payload bins → txAllowed = true →
      s.node.Relays payload site fwd → Q site (s.txModem.modulate fwd.toBytes)) :
    ∃ xs, aired (s.decode sf txAllowed clock r).calls = aired s.calls ++ xs ∧
      ∀ x ∈ xs, Q x.1 x.2 := by
  cases r with
  | ok payload bins =>
    show ∃ xs, aired (s.receive txAllowed payload _ clock).calls = _ ∧ _
    unfold receive
    cases hrx : s.node.processRxFrame payload with
    | mk result node =>
      have hnode : ∀ t : SimLoop, Sends Q { s with node } t → ∃ xs,
          aired t.calls = aired s.calls ++ xs ∧ ∀ x ∈ xs, Q x.1 x.2 := fun t h => h.aired
      -- one case for each outcome: only those with a frame to forward transmit
      rcases result with err | ⟨_ | msg, _ | fwd⟩
      · exact hnode _ (.of_eq rfl rfl rfl)
      · exact hnode _ (.refl _)
      · apply hnode
        exact sends_relay fun hallowed =>
          hQ payload bins _ fwd rfl hallowed (MeshNode.relays_of_processRxFrame hrx)
      · exact hnode _ sends_deliver
      · apply hnode
        -- the delivery comes first and leaves the modem as it was
        have hdeliver : Sends Q { s with node }
            ({ s with node }.deliver msg clock.now (offsetHz sf bins)) := sends_deliver
        refine hdeliver.trans (sends_relay fun hallowed => ?_)
        rw [hdeliver.txModem]
        exact hQ payload bins _ fwd rfl hallowed (MeshNode.relays_of_processRxFrame hrx)
  | _ => exact ⟨[], (List.append_nil _).symm, fun _ hx => absurd hx List.not_mem_nil⟩

end

/-! ## The modems -/

/-- The modems and the spreading factor that was applied last. -/
structure Modems where
  tx : Tx
  rx : Rx
  curSf : UInt8

/-- The modems of a state. -/
def modems (s : SimLoop) : Modems where
  tx := s.txModem
  rx := s.rxModem
  curSf := s.curSf

/-- Both modems are for that spreading factor. -/
structure Modems.Tuned [Arith] (m : Modems) : Prop where
  tx : m.tx = Tx.new m.curSf
  rx : m.rx.modem = Tx.new m.curSf
  bw : m.rx.bwHz = bwF64

/-- What lasts of the loop includes its modems. -/
theorem lasting_modems (m : Modems) : Lasting fun t => t.modems = m where
  transmit _ _ _ ht := ht
  display _ _ _ ht := ht
  node _ _ ht := ht
  due _ _ _ _ ht := ht

theorem modems_rebuildNode (s : SimLoop) (now : String) :
    (s.rebuildNode now).modems = s.modems := by
  unfold rebuildNode
  split <;> rfl

theorem modems_clampNextTx (s : SimLoop) (intervalSamples : UInt64) :
    (s.clampNextTx intervalSamples).modems = s.modems := by
  unfold clampNextTx
  split <;> rfl

section

variable [Arith]

/-- Applying the parameters makes both modems anew, if there is need to, and re-tunes the
    receiver. -/
theorem modems_applyParams (s : SimLoop) (sf : UInt8) :
    (s.applyParams sf).modems = {
      tx := if sf = s.curSf then s.txModem else Tx.new sf
      rx := { (if sf = s.curSf then s.rxModem else rxNew sf s.vm) with
        centerFreqHz := s.vm.uhdFreqHz }
      curSf := sf } := by
  unfold applyParams modems
  -- the gains have no say in it
  cases hrx : s.vm.uhdRxGainDb.feq s.lastUhdRxGain <;>
    cases htx : s.vm.uhdTxGainDb.feq s.lastUhdTxGain <;>
    by_cases hsf : sf = s.curSf <;>
    simp [call, hrx, htx, hsf]

/-- Another spreading factor makes both modems anew, so they stay tuned. -/
theorem tuned_applyParams {s : SimLoop} (h : s.modems.Tuned) (sf : UInt8) :
    (s.applyParams sf).modems.Tuned := by
  rw [modems_applyParams]
  by_cases hsf : sf = s.curSf
  · subst hsf
    simp only [if_true]
    exact ⟨h.tx, h.rx, h.bw⟩
  · simp only [hsf, if_false]
    exact ⟨rfl, rfl, rfl⟩

theorem modems_tickDriver (s : SimLoop) (mixedLen : Nat) (spectra : List (List F64)) :
    (s.tickDriver mixedLen spectra).modems = s.modems := rfl

variable [Features]

/-- The driver rebuild leaves the modems alone. -/
theorem modems_rebuildDriver (s : SimLoop) (uhdOpen : Except String Unit) :
    (s.rebuildDriver uhdOpen).modems = s.modems := by
  have hopen : ∀ t : SimLoop, (t.openUhd uhdOpen).modems = t.modems := by
    intro t
    unfold openUhd
    cases uhdOpen <;> rfl
  have henable : ∀ t : SimLoop, (t.enableUhd uhdOpen).modems = t.modems := by
    intro t
    unfold enableUhd
    simp only
    split
    · rfl
    · split
      · split
        · rfl
        · exact hopen t
      · exact hopen t
  have hdisable : ∀ t : SimLoop, (t.disableUhd uhdOpen).modems = t.modems := by
    intro t
    unfold disableUhd
    split <;> rfl
  -- and no clock has a say in it
  have hclocks : ∀ t : SimLoop, t.modems = s.modems → SimLoop.modems
      { t with produced := 0, nextTxAt := srHz, nextBeaconAt := srHz / 2 } = s.modems :=
    fun _ h => h
  unfold rebuildDriver
  split
  · apply hclocks
    split
    · split
      · exact henable { s with vm := _ }
      · exact hdisable { s with vm := _ }
    · rfl
  · rfl

end

/-! ## What an iteration transmits -/

/-- Calls that hand no samples over. -/
theorem aired_call (s : SimLoop) {cs : List DriverCall} (h : ∀ c ∈ cs, c.airing = none) :
    aired (s.call cs).calls = aired s.calls := by
  rw [call, aired_append, aired_eq_nil h, List.append_nil]

theorem aired_rebuildNode (s : SimLoop) (now : String) :
    aired (s.rebuildNode now).calls = aired s.calls := by
  unfold rebuildNode
  split <;> rfl

theorem aired_clampNextTx (s : SimLoop) (intervalSamples : UInt64) :
    aired (s.clampNextTx intervalSamples).calls = aired s.calls := by
  unfold clampNextTx
  split <;> rfl

section

variable [Arith]

theorem aired_applyParams (s : SimLoop) (sf : UInt8) :
    aired (s.applyParams sf).calls = aired s.calls := by
  refine applyParams_keeps (P := fun t => aired t.calls = aired s.calls) rfl ?_ ?_ ?_ sf
  · intro t cs hcs ht
    exact (aired_call t fun c hc => DriverCall.airing_of_setsParam (hcs c hc)).trans ht
  · exact fun _ _ _ ht => ht
  · exact fun _ _ _ _ ht => ht

end

end SimLoop

/-! ## The node in use -/

namespace Core

/-- Unless a rebuild is pending, the node has the current names. -/
def Current (c : Core) : Prop :=
  c.rebuildNodes = false →
    c.node.localNode = LocalNode.withId c.nodeId c.nodeShort c.nodeLong ∧
      c.node.channel = ChannelConfig.default

/-- A command that changes a name asks for a rebuild. -/
theorem current_apply {c : Core} (h : c.Current) (cmd : Command) : (c.apply cmd).Current := by
  cases cmd with
  | setMode _ | setNodeShort _ | setNodeLong _ => exact fun hflag => nomatch hflag
  | _ => exact h

/-- Commands leave the node current, or to be rebuilt. -/
theorem current_commands {c : Core} (h : c.Current) (commands : List Command) :
    (commands.foldl apply c).Current := by
  induction commands generalizing c with
  | nil => exact h
  | cons cmd commands ih => exact ih (current_apply h cmd)

/-- A rebuilt node has the current names. -/
theorem current_rebuild {c : Core} (h : c.Current) : c.rebuild.Current := by
  unfold rebuild
  split
  · exact fun _ => ⟨rfl, rfl⟩
  · exact h

/-- Once rebuilt, no rebuild is pending. -/
theorem rebuildNodes_rebuild (c : Core) : c.rebuild.rebuildNodes = false := by
  unfold rebuild
  split
  · rfl
  · rename_i hflag
    exact Bool.not_eq_true _ ▸ hflag

/-- An iteration leaves the node current, or to be rebuilt. -/
theorem current_tick [Prost] {c : Core} (h : c.Current) (commands : List Command) :
    (c.tick commands).Current := by
  have hcommands := current_commands h commands
  unfold tick
  simp only
  split
  · exact current_rebuild hcommands
  · exact hcommands

end Core

namespace SimLoop

section

variable [Arith] [Prost] [Aes256] {s t : SimLoop} {e : LoopEvent}

/-- What a node hears changes neither its names nor its channel. -/
theorem current_decode (h : s.core.Current) (sf : UInt8) (txAllowed : Bool) (clock : RxClock)
    (r : StreamDecodeResult) : (s.decode sf txAllowed clock r).core.Current := by
  rw [core_decode]
  cases r with
  | ok payload bins =>
    -- the node keeps its identity and its channel
    obtain ⟨dedup, neighbours, hsnd⟩ := s.node.processRxFrame_snd payload
    intro hflag
    simp only [hsnd]
    exact h hflag
  | _ => exact h

variable [Features]

/-- Every step leaves the node current, or to be rebuilt. -/
theorem current_step (h : s.core.Current) (hstep : s.Step e t) : t.core.Current := by
  rcases step_cases hstep with ⟨inp, rfl, -, rfl⟩ | ⟨sf, txAllowed, r, clock, rfl, -, rfl⟩
  · rw [core_tick]
    exact Core.current_tick h inp.commands
  · exact current_decode h sf txAllowed clock r

end

/-! ## What one step transmits -/

/-- What the commands so far say holds of the loop. -/
structure Obeys [Arith] [Prost] [Aes256] (c : Console) (s : SimLoop) : Prop where
  console : s.vm.console = c
  tuned : s.modems.Tuned
  current : s.core.Current
  settled : s.Settled
  decoding : ∀ sf txAllowed, s.phase = .rx sf txAllowed →
    s.curSf = c.sf ∧ txAllowed = (c.mode != .listen)

section

variable {c : Console} {s t : SimLoop}

/-- Commands turn the console one by one. -/
theorem console_drainCommands (s : SimLoop) (commands : List Command) :
    (s.drainCommands commands).vm.console = commands.foldl Console.apply s.vm.console := by
  have hone : ∀ (t : SimLoop) (cmd : Command),
      (cmd.apply t.vm).console = t.vm.console.apply cmd := by
    intro t cmd
    cases cmd <;> rfl
  exact @read_drainCommands _ (fun t => t.vm.console) _ hone s commands

variable [Arith] [Prost] [Aes256] [Features]

/-- An unpaused iteration once the parameters are applied. -/
def paramsApplied (s : SimLoop) (inp : TickInput) : SimLoop :=
  let r := s.rebuilt inp
  (r.clampNextTx r.vm.intervalSamples).applyParams r.vm.sf

omit [Prost] [Aes256] in
/-- Up to there nothing is transmitted. -/
theorem aired_paramsApplied (s : SimLoop) (inp : TickInput) :
    aired (s.paramsApplied inp).calls = aired s.calls := by
  rw [paramsApplied, aired_applyParams, aired_clampNextTx, rebuilt, aired_rebuildDriver,
    aired_rebuildNode]
  rfl

omit [Prost] [Aes256] in
/-- Applied parameters are no new settings. -/
theorem rig_paramsApplied (s : SimLoop) (inp : TickInput) :
    (s.paramsApplied inp).rig = (s.rebuilt inp).rig :=
  (rig_applyParams _ _).trans (rig_clampNextTx _ _)

omit [Prost] [Aes256] in
/-- By then commands and the node rebuild have steered the core. -/
theorem core_paramsApplied (s : SimLoop) (inp : TickInput) :
    (s.paramsApplied inp).core = (inp.commands.foldl Core.apply s.core).rebuild := by
  rw [paramsApplied, core_applyParams, core_clampNextTx, rebuilt, core_rebuildDriver,
    core_rebuildNode, core_drainCommands]

omit [Prost] [Aes256] in
/-- By then the console is as the commands have left it. -/
theorem console_paramsApplied (h : s.vm.console = c) (inp : TickInput) :
    (s.paramsApplied inp).vm.console = inp.commands.foldl Console.apply c := by
  rw [untouched_console.of_rig (rig_paramsApplied s inp), untouched_console.rebuilt,
    console_drainCommands, h]

omit [Prost] [Aes256] in
/-- The modems are for the spreading factor that the commands left. -/
theorem modems_paramsApplied (hconsole : s.vm.console = c) (htuned : s.modems.Tuned)
    (inp : TickInput) : (s.paramsApplied inp).modems.Tuned ∧
      (s.paramsApplied inp).curSf = (inp.commands.foldl Console.apply c).sf := by
  have hmodems : ((s.rebuilt inp).clampNextTx (s.rebuilt inp).vm.intervalSamples).modems =
      s.modems := by
    rw [modems_clampNextTx, rebuilt, modems_rebuildDriver, modems_rebuildNode]
    rfl
  constructor
  · exact tuned_applyParams (hmodems ▸ htuned) _
  · have hsf : (s.rebuilt inp).vm.console = inp.commands.foldl Console.apply c := by
      rw [untouched_console.rebuilt, console_drainCommands, hconsole]
    exact (congrArg Modems.curSf (modems_applyParams _ _)).trans (congrArg Console.sf hsf)

omit [Features] in
/-- The rest of the iteration: the loop's own transmissions and the driver's tick. -/
def work (s : SimLoop) (inp : TickInput) (intervalSamples : UInt64) : SimLoop :=
  let txAllowed := s.vm.mode != .listen
  let t := s.sendBeacon inp.beacon txAllowed
  let txDest := t.vm.txDest
  let t := t.manualTx inp.manual txAllowed txDest
  let t := t.autoTx inp.auto txAllowed txDest intervalSamples
  t.tickDriver inp.mixedLen inp.spectra

/-- An unpaused iteration applies the parameters and then does its work. -/
theorem tick_eq_work {inp : TickInput} (h : (s.drainCommands inp.commands).vm.running = true) :
    ∃ phase, s.tick inp =
      { (s.paramsApplied inp).work inp (s.rebuilt inp).vm.intervalSamples with phase } := by
  rw [tick, if_pos h]
  exact ⟨_, rfl⟩

omit [Features] in
/-- The work of an iteration leaves the modems alone. -/
theorem modems_work (s : SimLoop) (inp : TickInput) (intervalSamples : UInt64) :
    (s.work inp intervalSamples).modems = s.modems := by
  have hlasting := lasting_modems s.modems
  unfold work
  refine (modems_tickDriver _ inp.mixedLen inp.spectra).trans ?_
  apply hlasting.autoTx
  apply hlasting.manualTx
  exact hlasting.sendBeacon rfl _ _

omit [Features] in
/-- The own frames of an iteration. -/
theorem sends_work {Q : TxSite → Iq → Prop}
    (hQ : s.vm.mode ≠ .listen → ∀ site frame, s.node.Originates s.vm.txDest site frame →
      Q site (s.txModem.modulate frame.toBytes)) (inp : TickInput) (intervalSamples : UInt64) :
    Sends Q s (s.work inp intervalSamples) := by
  have hallowed : (s.vm.mode != .listen) = true → s.vm.mode ≠ .listen := bne_iff_ne.mp
  unfold work
  generalize (s.vm.mode != .listen) = txAllowed at hallowed ⊢
  have hbeacon : Sends Q s (s.sendBeacon inp.beacon txAllowed) :=
    sends_sendBeacon fun h frame hbuild => hQ (hallowed h) .beacon frame ⟨_, hbuild⟩
  have hdest : (s.sendBeacon inp.beacon txAllowed).vm.txDest = s.vm.txDest :=
    congrArg Core.txDest (core_sendBeacon s inp.beacon txAllowed)
  simp only [hdest]
  generalize s.sendBeacon inp.beacon txAllowed = t at hbeacon ⊢
  -- the later phases find the node and the modem of `s`
  have hmanual : Sends Q s (t.manualTx inp.manual txAllowed s.vm.txDest) := by
    refine hbeacon.trans (sends_manualTx ?_)
    rw [hbeacon.node, hbeacon.txModem]
    exact fun h random text frame hbuild =>
      hQ (hallowed h) (.manual text) frame ⟨random, hbuild⟩
  generalize t.manualTx inp.manual txAllowed s.vm.txDest = t at hmanual ⊢
  have hauto : Sends Q s (t.autoTx inp.auto txAllowed s.vm.txDest intervalSamples) := by
    refine hmanual.trans (sends_autoTx ?_)
    rw [hmanual.node, hmanual.txModem]
    exact fun h text frame horig => hQ (hallowed h) (.auto text) frame horig
  generalize t.autoTx inp.auto txAllowed s.vm.txDest intervalSamples = t at hauto ⊢
  refine hauto.trans (.of_eq ?_ rfl rfl)
  exact (aired_append _ _).trans (List.append_nil _)

/-! ## One step -/

variable {e : LoopEvent}

/-- The own frames of an iteration go out as the console says after its commands. -/
theorem allows_tick (h : s.Obeys c) (inp : TickInput) {relays : TxSite → MeshFrame → Prop} :
    ∃ xs, aired (s.tick inp).calls = aired s.calls ++ xs ∧
      ∀ x ∈ xs, (inp.commands.foldl Console.apply c).Allows relays x.1 x.2 := by
  cases hrun : (s.drainCommands inp.commands).vm.running with
  | false =>
    rw [tick_paused hrun]
    exact ⟨[], (List.append_nil _).symm, fun _ hx => absurd hx List.not_mem_nil⟩
  | true =>
    obtain ⟨phase, htick⟩ := tick_eq_work hrun
    have hconsole := console_paramsApplied h.console inp
    obtain ⟨htuned, hcur⟩ := modems_paramsApplied h.console h.tuned inp
    have hcore := core_paramsApplied s inp
    have hcurrent : (s.paramsApplied inp).core.Current := by
      rw [hcore]
      exact Core.current_rebuild (Core.current_commands h.current inp.commands)
    -- the node has the names of the console, as its rebuild is past
    have hnode := hcurrent (by rw [hcore]; exact Core.rebuildNodes_rebuild _)
    have hair := aired_paramsApplied s inp
    rw [htick, ← hair]
    generalize s.paramsApplied inp = u at hconsole htuned hcur hnode ⊢
    rw [← hconsole] at hcur ⊢
    refine (sends_work (s := u) ?_ inp _).aired
    intro hmode site frame horig
    refine ⟨?_, frame, ?_, .inl (MeshNode.originates_congr hnode.1 hnode.2 horig)⟩
    · show u.vm.mode = .terminal
      cases hmode' : u.vm.mode with
      | terminal => rfl
      | listen => exact absurd hmode' hmode
    · rw [show u.txModem = Tx.new u.vm.console.sf from htuned.tx.trans (congrArg Tx.new hcur)]

omit [Features] in
/-- A relayed frame goes out as the console says. -/
theorem allows_decode (h : s.Obeys c) {sf : UInt8} {txAllowed : Bool}
    (hphase : s.phase = .rx sf txAllowed) (clock : RxClock) (r : StreamDecodeResult) :
    ∃ xs, aired (s.decode sf txAllowed clock r).calls = aired s.calls ++ xs ∧
      ∀ x ∈ xs, c.Allows (fun site frame => ∃ payload bins, r = .ok payload bins ∧
        s.node.Relays payload site frame) x.1 x.2 := by
  obtain ⟨hcur, hgate⟩ := h.decoding sf txAllowed hphase
  refine sends_decode fun payload bins site fwd hr hallowed hrelays => ?_
  refine ⟨?_, fwd, ?_, .inr ⟨payload, bins, hr, hrelays⟩⟩
  · cases hmode : c.mode with
    | terminal => rfl
    | listen =>
      rw [hgate, hmode] at hallowed
      exact nomatch hallowed
  · rw [show s.txModem = Tx.new c.sf from h.tuned.tx.trans (congrArg Tx.new hcur)]

/-- An iteration leaves the modems as it has set them. -/
theorem modems_tick {inp : TickInput} (h : (s.drainCommands inp.commands).vm.running = true) :
    (s.tick inp).modems = (s.paramsApplied inp).modems := by
  obtain ⟨phase, htick⟩ := tick_eq_work h
  have hphase : ∀ t : SimLoop, { t with phase }.modems = t.modems := fun _ => rfl
  rw [htick, hphase, modems_work]

/-- A loop that obeys its console obeys it after each step. -/
theorem obeys_step (h : s.Obeys c) (hstep : s.Step e t) :
    t.Obeys (e.commands.foldl Console.apply c) := by
  have hcurrent := current_step h.current hstep
  have hsettled := settled_step h.settled hstep
  rcases step_cases hstep with ⟨inp, rfl, htop, rfl⟩ | ⟨sf, txAllowed, r, clock, rfl, hphase, rfl⟩
  · have hconsole : (s.drainCommands inp.commands).vm.console =
        inp.commands.foldl Console.apply c := by rw [console_drainCommands, h.console]
    -- an iteration turns the console and tunes the modems to it, unless it is paused
    refine ⟨(untouched_console.tick s inp).trans hconsole, ?_, hcurrent, hsettled, ?_⟩
    · cases hrun : (s.drainCommands inp.commands).vm.running with
      | false =>
        rw [tick_paused hrun]
        exact h.tuned
      | true =>
        rw [modems_tick hrun]
        exact (modems_paramsApplied h.console h.tuned inp).1
    · intro sf txAllowed hrx
      cases hrun : (s.drainCommands inp.commands).vm.running with
      | false =>
        rw [tick_paused hrun] at hrx
        exact nomatch htop.symm.trans hrx
      | true =>
        -- the decode loop is entered with what the console says now
        rw [phase_tick_eq hrun] at hrx
        obtain ⟨-, rfl⟩ := Phase.rx.inj hrx
        refine ⟨?_, congrArg (fun d : Console => d.mode != .listen) hconsole⟩
        exact (congrArg Modems.curSf (modems_tick hrun)).trans
          (modems_paramsApplied h.console h.tuned inp).2
  · -- a turn of the decode loop changes neither
    have hmodems : (s.decode sf txAllowed clock r).modems = s.modems :=
      (lasting_modems s.modems).decode (fun _ ht => ht) rfl sf txAllowed clock r
    refine ⟨(untouched_console.decode s sf txAllowed clock r).trans h.console, ?_, hcurrent,
      hsettled, ?_⟩
    · rw [hmodems]
      exact h.tuned
    · intro sf' txAllowed' hrx
      rcases phase_decode s sf txAllowed clock r with hend | hsame
      · exact nomatch hend.symm.trans hrx
      · obtain ⟨hcur, hgate⟩ := h.decoding sf' txAllowed' (hsame.symm.trans hrx)
        exact ⟨(congrArg Modems.curSf hmodems).trans hcur, hgate⟩

/-- What one step transmits, in a loop that obeys its console. -/
theorem allows_step (h : s.Obeys c) (hstep : s.Step e t) :
    ∃ xs, aired t.calls = aired s.calls ++ xs ∧
      ∀ x ∈ xs, (e.commands.foldl Console.apply c).Allows (fun site frame => ∃ payload bins clock,
        e = .decode (.ok payload bins) clock ∧ s.node.Relays payload site frame) x.1 x.2 := by
  rcases step_cases hstep with ⟨inp, rfl, -, rfl⟩ | ⟨sf, txAllowed, r, clock, rfl, hphase, rfl⟩
  · exact allows_tick h inp
  · obtain ⟨xs, hxs, hall⟩ := allows_decode h hphase clock r
    refine ⟨xs, hxs, fun x hx => ?_⟩
    obtain ⟨hmode, frame, hiq, hfrom⟩ := hall x hx
    refine ⟨hmode, frame, hiq, hfrom.imp_right ?_⟩
    rintro ⟨payload, bins, rfl, hrelays⟩
    exact ⟨payload, bins, clock, rfl, hrelays⟩

/-- A fresh loop obeys the console it was booted with. -/
theorem obeys_start (random : UInt32) (probed : Bool) (uhdOpen : Except String Unit) :
    (start (bootView random probed) uhdOpen).Obeys (Console.boot random) := by
  have hcore := core_start random probed uhdOpen
  refine ⟨?_, ⟨rfl, rfl, rfl⟩, ?_, .inr (congrArg Core.rebuildNodes hcore), ?_⟩
  · rw [untouched_console.start]
    cases probed <;> rfl
  · rw [hcore]
    exact fun _ => ⟨rfl, rfl⟩
  · exact fun _ _ hphase => nomatch hphase

omit [Prost] [Aes256] in
/-- At the start nothing was transmitted. -/
theorem aired_start (vm : ViewModel) (uhdOpen : Except String Unit) :
    aired (start vm uhdOpen).calls = [] := by
  by_cases huhd : (Features.uhd && (buildNode vm).2.useUhd) = true
  · simp only [start, makeDriver, huhd, if_true]
    cases uhdOpen <;> rfl
  · simp only [start, makeDriver, huhd]
    rfl

/-- After some events a loop obeys the console that their commands leave. -/
theorem obeys_run {random : UInt32} {probed : Bool} {uhdOpen : Except String Unit}
    {es : List LoopEvent}
    (hrun : Lts.Run Step (start (bootView random probed) uhdOpen) es t) :
    t.Obeys (Console.after random es) := by
  refine hrun.history_invariant (I := fun fs u => u.Obeys (Console.after random fs))
    (obeys_start random probed uhdOpen) ?_
  intro fs a e b ih hstep
  rw [Console.after_concat]
  exact obeys_step ih hstep

end

end SimLoop

/-! ## Typed texts -/

namespace Core

/-- The texts that are queued or went out are among the commands. -/
def Typed (commands : List Command) (c : Core) : Prop :=
  ∀ text, text ∈ c.txQueue ∨ (∃ dest, (text, dest) ∈ c.sent) → .sendText text ∈ commands

/-- Commands queue the texts that they carry. -/
theorem typed_commands {cmds : List Command} {c : Core} (h : c.Typed cmds)
    (commands : List Command) : (commands.foldl apply c).Typed (cmds ++ commands) := by
  -- by induction on the commands, of which only `sendText` queues a text
  induction commands generalizing c cmds with
  | nil => simpa using h
  | cons cmd commands ih =>
    have hone : (c.apply cmd).Typed (cmds ++ [cmd]) := by
      intro text htext
      cases cmd with
      | sendText new =>
        rcases htext with hqueue | hsent
        · rcases List.mem_append.mp hqueue with hold | hnew
          · exact List.mem_append_left _ (h text (.inl hold))
          · rw [List.mem_singleton.mp hnew]
            exact List.mem_append_right _ (List.mem_singleton_self _)
        · exact List.mem_append_left _ (h text (.inr hsent))
      | _ => exact List.mem_append_left _ (h text htext)
    have hall := ih hone
    rwa [List.append_assoc] at hall

/-- What an iteration sends comes out of the queue. -/
theorem typed_tick [Prost] {cmds : List Command} {c : Core} (h : c.Typed cmds)
    (commands : List Command) : (c.tick commands).Typed (cmds ++ commands) := by
  have hcommands := typed_commands h commands
  unfold tick
  simp only
  generalize commands.foldl apply c = d at hcommands ⊢
  obtain ⟨_, _, hrebuild⟩ := d.rebuild_eq
  split
  · rw [hrebuild]
    rintro text (hqueue | ⟨dest, hsent⟩)
    · exact absurd hqueue List.not_mem_nil
    · -- what goes out now was queued
      rcases List.mem_append.mp hsent with hold | hnew
      · exact hcommands text (.inr ⟨dest, hold⟩)
      · split at hnew
        · exact absurd hnew List.not_mem_nil
        · obtain ⟨text', hmem, heq⟩ := List.mem_map.mp hnew
          obtain ⟨rfl, -⟩ := Prod.mk.inj heq
          exact hcommands text' (.inl (List.mem_filter.mp hmem).1)
  · exact hcommands

end Core

/-- A manual transmission of a frame in range counts as its text. -/
theorem mem_manualTexts_of_aired {calls : List DriverCall} {text : String} {iq : Iq}
    {frame : MeshFrame} (h : (.manual text, iq) ∈ aired calls) (hiq : iq.payload = frame.toBytes)
    (hrange : frame.InRange) : (text, frame.header.toNode) ∈ manualTexts calls := by
  obtain ⟨c, hc, hcall⟩ := List.mem_filterMap.mp h
  refine List.mem_filterMap.mpr ⟨c, hc, ?_⟩
  cases c with
  | pushSamples site iq' =>
    obtain ⟨rfl, rfl⟩ := Prod.mk.inj (Option.some.inj hcall)
    simp only [DriverCall.manualText, hiq, MeshFrame.fromBytes_toBytes_of_inRange hrange,
      Option.map_some]
  | _ => cases hcall

section

variable [Arith] [Prost] [Aes256] [Features]

/-- In every run the texts that are queued or went out were given by commands. -/
theorem SimLoop.typed_run {random : UInt32} {probed : Bool} {uhdOpen : Except String Unit}
    {es : List LoopEvent} {t : SimLoop}
    (hrun : Lts.Run SimLoop.Step (SimLoop.start (bootView random probed) uhdOpen) es t) :
    t.core.Typed (commandsOf es) := by
  refine hrun.history_invariant (I := fun fs u => u.core.Typed (commandsOf fs)) ?_ ?_
  · rw [core_start]
    rintro text (h | ⟨dest, h⟩) <;> exact absurd h List.not_mem_nil
  · intro fs s e u ih hstep
    rw [commandsOf_concat]
    rcases step_cases hstep with ⟨inp, rfl, -, rfl⟩ | ⟨sf, txAllowed, r, clock, rfl, -, rfl⟩
    · rw [core_tick]
      exact Core.typed_tick ih inp.commands
    · obtain ⟨node, hcore⟩ := core_decode_node s sf txAllowed clock r
      rw [hcore, LoopEvent.commands, List.append_nil]
      exact ih

/-- The texts on the air were typed. -/
theorem SimLoop.typed_of_originates {random : UInt32} {probed : Bool}
    {uhdOpen : Except String Unit} {es : List LoopEvent} {t : SimLoop} {node : MeshNode}
    {txDest : UInt32} {text : String} {iq : Iq} {frame : MeshFrame}
    (hrun : Lts.Run SimLoop.Step (SimLoop.start (bootView random probed) uhdOpen) es t)
    (hx : (.manual text, iq) ∈ aired t.calls) (hiq : iq.payload = frame.toBytes)
    (horig : node.Originates txDest (.manual text) frame) : .sendText text ∈ commandsOf es := by
  obtain ⟨random, hbuild⟩ := horig
  have hmem := mem_manualTexts_of_aired hx hiq (inRange_of_buildFrame hbuild)
  exact typed_run hrun text (.inr ⟨_, hmem⟩)

/-- The loop obeys a console, and whatever it has transmitted as a text, typed or automatic,
    carries that text. -/
structure SimLoop.Truthful (s : SimLoop) : Prop where
  obeys : ∃ c, s.Obeys c
  carries : ∀ x ∈ aired s.calls, ∀ text, x.1 = .manual text ∨ x.1 = .auto text →
    CarriesText x.2.payload text

namespace SimLoop

/-- Nothing has been transmitted at the start. -/
theorem truthful_start (random : UInt32) (probed : Bool) (uhdOpen : Except String Unit) :
    (start (bootView random probed) uhdOpen).Truthful where
  obeys := ⟨_, obeys_start random probed uhdOpen⟩
  carries := fun _ hx => absurd (aired_start _ uhdOpen ▸ hx) List.not_mem_nil

/-- A step transmits the texts it says it does. -/
theorem truthful_step {s t : SimLoop} {e : LoopEvent} (h : s.Truthful) (hstep : s.Step e t) :
    t.Truthful := by
  obtain ⟨⟨c, hobeys⟩, hcarries⟩ := h
  obtain ⟨xs, hxs, hall⟩ := allows_step hobeys hstep
  refine ⟨⟨_, obeys_step hobeys hstep⟩, ?_⟩
  rintro ⟨site, iq⟩ hx text hsite
  rcases List.mem_append.mp (hxs ▸ hx) with hold | hnew
  · exact hcarries _ hold text hsite
  · obtain ⟨-, frame, rfl, horig | ⟨_, _, _, -, heard, -, -, -, hrelay⟩⟩ := hall _ hnew
    · -- the node that made it up is on the public channel
      rcases hsite with rfl | rfl
      · obtain ⟨random, hbuild⟩ := horig
        exact carriesText_of_buildTextFrame rfl hbuild
      · obtain ⟨-, random, hbuild⟩ := horig
        exact carriesText_of_buildTextFrame rfl hbuild
    · -- relayed frames go out at other sites
      rcases hsite with rfl | rfl <;> split at hrelay <;> exact nomatch hrelay

/-- In every run, what was transmitted as a text carries that text. -/
theorem carriesText_run {random : UInt32} {probed : Bool} {uhdOpen : Except String Unit}
    {es : List LoopEvent} {t : SimLoop}
    (hrun : Lts.Run SimLoop.Step (SimLoop.start (bootView random probed) uhdOpen) es t) :
    ∀ x ∈ aired t.calls, ∀ text, x.1 = .manual text ∨ x.1 = .auto text →
      CarriesText x.2.payload text :=
  (hrun.invariant (truthful_start random probed uhdOpen) fun _ _ _ => truthful_step).carries

end SimLoop

/-- Each transmission of a run was made by one of its steps, in terminal mode, with the modem
    for the spreading factor that the commands up to then set. What was transmitted is a
    beacon or a text that a node with the names they set makes up, for the destination they
    set, or a frame that the node relayed from the payload it was decoding. A text is a numbered
    test message or was among these commands. -/
theorem every_transmission_accounted {random : UInt32} {probed : Bool}
    {uhdOpen : Except String Unit} {es : List LoopEvent} {t : SimLoop}
    (hrun : Lts.Run SimLoop.Step (SimLoop.start (bootView random probed) uhdOpen) es t) :
    ∀ x ∈ aired t.calls, ∃ before e after u v, es = before ++ e :: after ∧
      Lts.Run SimLoop.Step (SimLoop.start (bootView random probed) uhdOpen) before u ∧
      u.Step e v ∧ (∃ xs, aired v.calls = aired u.calls ++ xs ∧ x ∈ xs) ∧
      (Console.after random (before ++ [e])).Allows
        (fun site frame => ∃ payload bins clock, e = .decode (.ok payload bins) clock ∧
          u.node.Relays payload site frame) x.1 x.2 ∧
      ∀ text, x.1 = .manual text → .sendText text ∈ commandsOf (before ++ [e]) := by
  induction hrun with
  | nil => exact fun x hx => absurd (SimLoop.aired_start _ uhdOpen ▸ hx) List.not_mem_nil
  | @snoc es u v e hbefore hstep ih =>
    obtain ⟨xs, hxs, hall⟩ := SimLoop.allows_step (SimLoop.obeys_run hbefore) hstep
    rintro ⟨site, iq⟩ hx
    rcases List.mem_append.mp (hxs ▸ hx) with hold | hnew
    · obtain ⟨before, e', after, u', v', rfl, hrest⟩ := ih _ hold
      exact ⟨before, e', after ++ [e], u', v', by simp, hrest⟩
    · have hallows := hall _ hnew
      rw [← Console.after_concat] at hallows
      refine ⟨es, e, [], u, v, rfl, hbefore, hstep, ⟨xs, hxs, hnew⟩, hallows, ?_⟩
      rintro text rfl
      obtain ⟨-, frame, hiq, horig | ⟨_, _, _, -, hrelays⟩⟩ := hallows
      · exact SimLoop.typed_of_originates (hbefore.snoc hstep) hx (congrArg Iq.payload hiq) horig
      · -- relayed frames go out at other sites
        obtain ⟨heard, -, -, -, hsite⟩ := hrelays
        split at hsite <;> exact nomatch hsite

end

section

open Samples

/-- Switched to terminal mode, node 1 transmits the text it is given. -/
theorem every_transmission_accounted_sample : ∃ (es : List LoopEvent) (t : SimLoop),
    Lts.Run SimLoop.Step (boot 1) es t ∧ (∃ x, x ∈ aired t.calls) ∧
    ∀ x ∈ aired t.calls, ∃ before e after u v, es = before ++ e :: after ∧
      Lts.Run SimLoop.Step (boot 1) before u ∧ u.Step e v ∧
      (∃ xs, aired v.calls = aired u.calls ++ xs ∧ x ∈ xs) ∧
      (Console.after 1 (before ++ [e])).Allows
        (fun site frame => ∃ payload bins clock, e = .decode (.ok payload bins) clock ∧
          u.node.Relays payload site frame) x.1 x.2 ∧
      ∀ text, x.1 = .manual text → .sendText text ∈ commandsOf (before ++ [e]) := by
  obtain ⟨inp, -, hcmds⟩ := exists_tick [.setMode .terminal, .sendText "hi"]
  have hrun : Lts.Run SimLoop.Step (boot 1) [.tick inp] ((boot 1).tick inp) :=
    .single (SimLoop.step_tick rfl)
  have hsent : manualTexts ((boot 1).tick inp).calls = [("hi", broadcast)] := by
    have hcore := SimLoop.core_tick (boot 1) inp
    rw [hcmds, boot, SimLoop.core_start] at hcore
    exact (congrArg Core.sent hcore).trans (by decide)
  -- the text was handed to the driver as samples
  obtain ⟨c, hc, htext⟩ : ∃ c ∈ ((boot 1).tick inp).calls, c.manualText = some ("hi", broadcast) :=
    by
    apply List.mem_filterMap.mp
    rw [← manualTexts, hsent]
    exact List.mem_singleton_self _
  obtain ⟨x, hx⟩ : ∃ x, c.airing = some x := by
    cases c <;> first | exact ⟨_, rfl⟩ | cases htext
  exact ⟨_, _, hrun, ⟨x, List.mem_filterMap.mpr ⟨c, hc, hx⟩⟩, every_transmission_accounted hrun⟩

end

end Mesh
