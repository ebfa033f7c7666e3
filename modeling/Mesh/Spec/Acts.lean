import Mesh.ForStd.Fifo
import Mesh.Spec.TextLedger
import Mesh.Spec.Traffic

/-!
# One history behind the air, the log and the counters

What a loop does that can be seen, as a list of acts. The transmissions, the lines of the
log, the counters and the neighbours on display are views of that one list: the log shows
its newest lines, and log and counters start over with each `ResetStats`.

## Key results

- `SimLoop.does_tick`, `SimLoop.does_decode`: the acts of the two kinds of steps
- `acts_explain_display`: over every run
-/

namespace Mesh

open Ieee (F32 F64 Arith)

/-! ## Acts -/

/-- What a loop does that can be seen. -/
inductive Act
  | announced (now : String) (mode : SimMode)
  | beaconed (iq : Iq)
  | refreshed (neighbours : List String)
  | sent (site : TxSite) (text now : String) (iq : Iq)
  | delivered (now text : String) (fromId : UInt32) (hops : UInt8) (selfOrigin : Bool)
  | relayed (site : TxSite) (now : String) (iq : Iq)
  | failed (now text : String)

/-- How a mode is announced in the log. -/
def SimMode.announcement : SimMode → String
  | terminal => "Mode → Terminal"
  | listen => "Mode → Listen (RX only)"

namespace Act

/-- What is handed to the driver. -/
def airing : Act → Option (TxSite × Iq)
  | beaconed iq => some (.beacon, iq)
  | sent site _ _ iq | relayed site _ iq => some (site, iq)
  | _ => none

/-- What is written to the log. -/
def line : Act → Option LogEntry
  | announced now mode => some {
      time := now, dir := .system, text := mode.announcement, fromId := none, hops := none
      selfOrigin := false }
  | sent _ text now _ => some {
      time := now, dir := .tx, text := "\"" ++ text ++ "\"", fromId := none, hops := none
      selfOrigin := false }
  | delivered now text fromId hops selfOrigin => some {
      time := now, dir := .rx, text, fromId := some fromId, hops := some hops, selfOrigin }
  | relayed _ now _ => some {
      time := now, dir := .fwd, text := "relay", fromId := none, hops := none
      selfOrigin := false }
  | failed now text => some {
      time := now, dir := .error, text, fromId := none, hops := none, selfOrigin := false }
  | _ => none

/-- Counted as transmitted. -/
def isSent : Act → Bool
  | sent _ _ _ _ => true
  | _ => false

/-- Counted as received: a message of another node. -/
def isHeard : Act → Bool
  | delivered _ _ _ _ selfOrigin => !selfOrigin
  | _ => false

/-- The neighbours that are listed. -/
def listing : Act → Option (List String)
  | refreshed neighbours => some neighbours
  | _ => none

/-- What an iteration does before the decode loop. -/
def Own (rebuildNow : String) (mode : SimMode) (node : MeshNode) : Act → Prop
  | announced now mode' => now = rebuildNow ∧ mode' = mode
  | beaconed _ => True
  | refreshed neighbours => neighbours = node.neighbours.all.map SimLoop.neighbourLine
  | sent site text _ _ => site = .manual text ∨ site = .auto text
  | _ => False

/-- What a turn of the decode loop does. -/
def Heard [Arith] [Prost] [Aes256] (node : MeshNode) (sf : UInt8) (r : StreamDecodeResult)
    (clock : RxClock) : Act → Prop
  | delivered now text fromId hops selfOrigin => ∃ payload bins msg, r = .ok payload bins ∧
    message? (node.processRxFrame payload).1 = some msg ∧ now = clock.now ∧
    text = SimLoop.messageLabel msg.data (SimLoop.offsetHz sf bins) ∧ fromId = msg.fromNode ∧
    hops = msg.hopLimit ∧ selfOrigin = msg.selfOrigin
  | relayed site now _ => now = clock.fwdNow ∧ ∃ payload bins fwd, r = .ok payload bins ∧
    node.Relays payload site fwd
  | failed now text => now = clock.now ∧ r ≠ .none ∧ ∀ payload bins, r = .ok payload bins →
    ∃ err, (node.processRxFrame payload).1 = .error err ∧ text = err.toString
  | _ => False

end Act

namespace SimLoop

/-- Between two states the loop does `acts`, and what can be seen changes accordingly. -/
structure Does (s : SimLoop) (acts : List Act) (t : SimLoop) : Prop where
  air : aired t.calls = aired s.calls ++ acts.filterMap Act.airing
  log : t.vm.log = (acts.filterMap Act.line).foldl appendLog s.vm.log
  txCount : t.vm.txCount = s.vm.txCount + UInt64.ofNat (acts.countP Act.isSent)
  rxCount : t.vm.rxCount = s.vm.rxCount + UInt64.ofNat (acts.countP Act.isHeard)
  neighbours : t.vm.neighbours = (acts.filterMap Act.listing).getLast?.getD s.vm.neighbours

namespace Does

variable {s t u : SimLoop} {xs ys : List Act}

/-- Nothing that can be seen changes. -/
theorem of_eq (hcalls : aired t.calls = aired s.calls) (hlog : t.vm.log = s.vm.log)
    (htx : t.vm.txCount = s.vm.txCount) (hrx : t.vm.rxCount = s.vm.rxCount)
    (hneighbours : t.vm.neighbours = s.vm.neighbours) : s.Does [] t where
  air := hcalls.trans (List.append_nil _).symm
  log := hlog
  txCount := htx.trans (UInt64.add_zero _).symm
  rxCount := hrx.trans (UInt64.add_zero _).symm
  neighbours := hneighbours

theorem refl (s : SimLoop) : s.Does [] s := of_eq rfl rfl rfl rfl rfl

theorem trans (h : s.Does xs t) (h' : t.Does ys u) : s.Does (xs ++ ys) u where
  air := by rw [h'.air, h.air, List.filterMap_append, List.append_assoc]
  log := by rw [h'.log, h.log, List.filterMap_append, List.foldl_append]
  txCount := by
    rw [h'.txCount, h.txCount, List.countP_append, UInt64.ofNat_add, UInt64.add_assoc]
  rxCount := by
    rw [h'.rxCount, h.rxCount, List.countP_append, UInt64.ofNat_add, UInt64.add_assoc]
  neighbours := by
    rw [h'.neighbours, h.neighbours, List.filterMap_append, List.getLast?_append]
    cases (ys.filterMap Act.listing).getLast? <;> rfl

/-- Nothing is seen of what comes after. -/
theorem trans_quiet (h : s.Does xs t) (h' : t.Does [] u) : s.Does xs u :=
  List.append_nil xs ▸ h.trans h'

end Does

/-! ## Phases without acts -/

theorem does_clampNextTx (s : SimLoop) (intervalSamples : UInt64) :
    s.Does [] (s.clampNextTx intervalSamples) := by
  unfold clampNextTx
  split
  · exact .of_eq rfl rfl rfl rfl rfl
  · exact .refl s

section

variable [Arith]

theorem does_applyParams (s : SimLoop) (sf : UInt8) : s.Does [] (s.applyParams sf) := by
  refine applyParams_keeps (P := fun t => s.Does [] t) (.refl s) ?_ ?_ ?_ sf
  · intro t cs hcs ht
    have hair := aired_call t fun c hc => DriverCall.airing_of_setsParam (hcs c hc)
    exact ht.trans_quiet (.of_eq hair rfl rfl rfl rfl)
  · exact fun _ _ _ ht => ht.trans_quiet (.of_eq rfl rfl rfl rfl rfl)
  · exact fun _ _ _ _ ht => ht.trans_quiet (.of_eq rfl rfl rfl rfl rfl)

theorem does_tickDriver (s : SimLoop) (mixedLen : Nat) (spectra : List (List F64)) :
    s.Does [] (s.tickDriver mixedLen spectra) :=
  .of_eq ((aired_append _ _).trans (List.append_nil _)) rfl rfl rfl rfl

/-- A driver rebuild does nothing that an act is about. -/
theorem does_rebuildDriver [Features] (s : SimLoop) (uhdOpen : Except String Unit) :
    s.Does [] (s.rebuildDriver uhdOpen) := by
  obtain ⟨_, _, _, _, hvm⟩ := (swaps_rebuildDriver s uhdOpen).vm_eq
  apply Does.of_eq (aired_rebuildDriver s uhdOpen) <;> rw [hvm]

end

/-! ## Own acts -/

/-- A node rebuild is announced in the log. -/
theorem does_rebuildNode (s : SimLoop) (now : String) :
    s.Does (if s.vm.rebuildNodes then [.announced now s.vm.mode] else []) (s.rebuildNode now) := by
  unfold rebuildNode
  split
  · refine ⟨(List.append_nil _).symm, ?_, (UInt64.add_zero _).symm, (UInt64.add_zero _).symm, rfl⟩
    cases hmode : s.vm.mode <;> simp only [hmode] <;> rfl
  · exact .refl s

section

variable [Prost] [Aes256] {rebuildNow : String} {mode : SimMode}

/-- A beacon may be transmitted, and the neighbours listed. -/
theorem does_sendBeacon (s : SimLoop) (random : UInt32) (txAllowed : Bool) :
    ∃ acts, s.Does acts (s.sendBeacon random txAllowed) ∧
      ∀ a ∈ acts, a.Own rebuildNow mode s.node := by
  -- the parts: the new deadline, the transmission, and the list on display
  have hdue : ∀ at' : UInt64, s.Does [] { s with nextBeaconAt := at' } := fun _ =>
    .of_eq rfl rfl rfl rfl rfl
  have hzero : ∀ n : UInt64, n = n + UInt64.ofNat 0 := fun n => (UInt64.add_zero n).symm
  have hsend : ∀ (t : SimLoop) (frame : MeshFrame),
      t.Does [.beaconed (t.txModem.modulate frame.toBytes)] (t.transmit .beacon frame) :=
    fun t frame => ⟨aired_append _ _, rfl, hzero _, hzero _, rfl⟩
  have hview : ∀ t : SimLoop, t.node = s.node → ∃ acts, t.Does acts { t with
      vm := { t.vm with neighbours := t.node.neighbours.all.map neighbourLine } } ∧
      ∀ a ∈ acts, a.Own rebuildNow mode s.node := by
    intro t ht
    refine ⟨[.refreshed (t.node.neighbours.all.map neighbourLine)],
      ⟨(List.append_nil _).symm, rfl, hzero _, hzero _, rfl⟩, List.forall_mem_singleton.mpr ?_⟩
    rw [← ht]
    rfl
  have hwait : ∀ at' : UInt64, { s with nextBeaconAt := at' }.node = s.node := fun _ => rfl
  have hsent : ∀ (t : SimLoop) (frame : MeshFrame),
      (t.transmit .beacon frame).node = t.node := fun _ _ => rfl
  unfold sendBeacon
  split
  · have hquiet := hview { s with nextBeaconAt := s.produced + beaconInterval } (hwait _)
    -- the list is refreshed whether or not a beacon goes out
    cases txAllowed with
    | false =>
      obtain ⟨acts, hacts, hown⟩ := hquiet
      exact ⟨acts, (hdue _).trans hacts, hown⟩
    | true =>
      simp only [if_true]
      cases s.node.buildNodeinfoFrame random with
      | none =>
        obtain ⟨acts, hacts, hown⟩ := hquiet
        exact ⟨acts, (hdue _).trans hacts, hown⟩
      | some frame =>
        obtain ⟨acts, hacts, hown⟩ := hview _ ((hsent _ frame).trans (hwait _))
        exact ⟨_, (hdue _).trans ((hsend _ frame).trans hacts),
          List.forall_mem_cons.mpr ⟨trivial, hown⟩⟩
  · exact ⟨[], .refl s, fun _ ha => absurd ha List.not_mem_nil⟩

/-- A text that fits into a frame is sent. -/
theorem does_sendText (s : SimLoop) {site : TxSite} {text : String}
    (hsite : site = .manual text ∨ site = .auto text) (o : Oracle) (txDest : UInt32) :
    ∃ acts, s.Does acts (s.sendText site o txDest text) ∧
      ∀ a ∈ acts, ∀ node, a.Own rebuildNow mode node := by
  unfold sendText
  cases s.node.buildTextFrame o.random txDest text with
  | none => exact ⟨[], .refl s, fun _ ha => absurd ha List.not_mem_nil⟩
  | some frame =>
    refine ⟨[.sent site text o.now (s.txModem.modulate frame.toBytes)], ?_, ?_⟩
    · exact ⟨aired_append _ _, rfl, rfl, (UInt64.add_zero _).symm, rfl⟩
    · exact List.forall_mem_singleton.mpr fun _ => hsite

/-- The texts of the manual queue are sent one by one. -/
theorem does_sendTexts (s : SimLoop) (oracle : Nat → Oracle) (txDest : UInt32) (i : Nat)
    (texts : List String) : ∃ acts, s.Does acts (s.sendTexts oracle txDest i texts) ∧
      ∀ a ∈ acts, ∀ node, a.Own rebuildNow mode node := by
  induction texts generalizing s i with
  | nil => exact ⟨[], .refl s, fun _ ha => absurd ha List.not_mem_nil⟩
  | cons text rest ih =>
    obtain ⟨xs, hxs, hown⟩ := does_sendText s (.inl rfl) (oracle i) txDest
    obtain ⟨ys, hys, hown'⟩ := ih (s.sendText (.manual text) (oracle i) txDest text) (i + 1)
    exact ⟨xs ++ ys, hxs.trans hys, List.forall_mem_append.mpr ⟨hown, hown'⟩⟩

/-- Unless TX is off, the manual queue is sent. -/
theorem does_manualTx (s : SimLoop) (oracle : Nat → Oracle) (txAllowed : Bool) (txDest : UInt32) :
    ∃ acts, s.Does acts (s.manualTx oracle txAllowed txDest) ∧
      ∀ a ∈ acts, ∀ node, a.Own rebuildNow mode node := by
  have hdrained : s.Does [] { s with vm := { s.vm with txQueue := [] } } :=
    .of_eq rfl rfl rfl rfl rfl
  unfold manualTx
  cases txAllowed with
  | true =>
    obtain ⟨acts, hacts, hown⟩ := does_sendTexts _ oracle txDest 0 s.vm.txQueue
    exact ⟨acts, hdrained.trans hacts, hown⟩
  | false => exact ⟨[], hdrained, fun _ ha => absurd ha List.not_mem_nil⟩

/-- An automatic message may be sent. -/
theorem does_autoTx (s : SimLoop) (o : Oracle) (txAllowed : Bool) (txDest : UInt32)
    (intervalSamples : UInt64) :
    ∃ acts, s.Does acts (s.autoTx o txAllowed txDest intervalSamples) ∧
      ∀ a ∈ acts, ∀ node, a.Own rebuildNow mode node := by
  unfold autoTx
  split
  · have hclock : s.Does [] { s with
        nextTxAt := s.produced + intervalSamples, seq := s.seq + 1 } :=
      .of_eq rfl rfl rfl rfl rfl
    obtain ⟨acts, hacts, hown⟩ := does_sendText _ (.inr rfl) o txDest
    exact ⟨acts, hclock.trans hacts, hown⟩
  · exact ⟨[], .refl s, fun _ ha => absurd ha List.not_mem_nil⟩

end

/-! ## Acts of the decode loop -/

/-- A relay transmits and logs a frame, or does nothing. -/
theorem does_relay (s : SimLoop) (site : TxSite) (txAllowed : Bool) (now : String)
    (fwd : MeshFrame) : ∃ acts, s.Does acts (s.relay site txAllowed now fwd) ∧
      ∀ a ∈ acts, ∃ iq, a = .relayed site now iq := by
  have hzero : ∀ n : UInt64, n = n + UInt64.ofNat 0 := fun n => (UInt64.add_zero n).symm
  unfold relay
  cases txAllowed with
  | false => exact ⟨[], .refl s, fun _ ha => absurd ha List.not_mem_nil⟩
  | true =>
    refine ⟨[.relayed site now (s.txModem.modulate fwd.toBytes)], ?_,
      List.forall_mem_singleton.mpr ⟨_, rfl⟩⟩
    exact ⟨aired_append _ _, rfl, hzero _, hzero _, rfl⟩

section

variable [Arith] [Prost]

/-- A delivery logs and counts a message. -/
theorem does_deliver (s : SimLoop) (msg : MeshMessage) (now : String) (offHz : F64) :
    s.Does [.delivered now (messageLabel msg.data offHz) msg.fromNode msg.hopLimit msg.selfOrigin]
      (s.deliver msg now offHz) := by
  have hzero : ∀ n : UInt64, n = n + UInt64.ofNat 0 := fun n => (UInt64.add_zero n).symm
  unfold deliver
  refine ⟨(List.append_nil _).symm, ?_, ?_, ?_, ?_⟩
  · cases msg.selfOrigin <;> rfl
  · cases msg.selfOrigin <;> exact hzero _
  · -- a message of the node itself is not counted
    cases hself : msg.selfOrigin with
    | true => exact hzero _
    | false => rfl
  · cases msg.selfOrigin <;> rfl

variable [Aes256]

/-- What a decoded payload does is what the node heard in it. -/
theorem does_receive (s : SimLoop) (sf : UInt8) (txAllowed : Bool) (payload : List UInt8)
    (bins : F64) (clock : RxClock) :
    ∃ acts, s.Does acts (s.receive txAllowed payload (offsetHz sf bins) clock) ∧
      ∀ a ∈ acts, a.Heard s.node sf (.ok payload bins) clock := by
  have hnode : ∀ node : MeshNode, s.Does [] { s with node } := fun _ => .of_eq rfl rfl rfl rfl rfl
  have hzero : ∀ n : UInt64, n = n + UInt64.ofNat 0 := fun n => (UInt64.add_zero n).symm
  unfold receive
  cases hrx : s.node.processRxFrame payload with
  | mk result node =>
    -- a relayed frame is one that the node relays
    have hfwd : ∀ {msg fwd site} {acts : List Act}, result = .ok (msg, some fwd) →
        site = (if msg.isSome then TxSite.relayDelivered else .relayTransit) →
        (∀ a ∈ acts, ∃ iq, a = Act.relayed site clock.fwdNow iq) →
        ∀ a ∈ acts, a.Heard s.node sf (.ok payload bins) clock := by
      rintro msg fwd site acts rfl rfl hacts a ha
      obtain ⟨iq, rfl⟩ := hacts a ha
      exact ⟨rfl, payload, bins, fwd, rfl, MeshNode.relays_of_processRxFrame hrx⟩
    have hmsg : ∀ {msg fwd}, result = .ok (some msg, fwd) →
        Act.Heard s.node sf (.ok payload bins) clock (.delivered clock.now
          (messageLabel msg.data (offsetHz sf bins)) msg.fromNode msg.hopLimit msg.selfOrigin) := by
      rintro msg fwd rfl
      refine ⟨payload, bins, msg, rfl, ?_, rfl, rfl, rfl, rfl, rfl⟩
      rw [hrx]
      rfl
    rcases result with err | ⟨_ | msg, _ | fwd⟩
    · refine ⟨[.failed clock.now err.toString], ?_, List.forall_mem_singleton.mpr ?_⟩
      · exact ⟨(List.append_nil _).symm, rfl, hzero _, hzero _, rfl⟩
      · refine ⟨rfl, by simp, ?_⟩
        rintro payload' bins' heq
        obtain ⟨rfl, rfl⟩ := StreamDecodeResult.ok.inj heq
        exact ⟨err, congrArg Prod.fst hrx, rfl⟩
    · exact ⟨[], hnode node, fun _ ha => absurd ha List.not_mem_nil⟩
    · obtain ⟨acts, hacts, hrelayed⟩ :=
        does_relay { s with node } .relayTransit txAllowed clock.fwdNow fwd
      exact ⟨acts, (hnode node).trans hacts, hfwd rfl rfl hrelayed⟩
    · have hdeliver := does_deliver { s with node } msg clock.now (offsetHz sf bins)
      exact ⟨_, (hnode node).trans hdeliver, List.forall_mem_singleton.mpr (hmsg rfl)⟩
    · have hdeliver := does_deliver { s with node } msg clock.now (offsetHz sf bins)
      obtain ⟨acts, hacts, hrelayed⟩ := does_relay
        ({ s with node }.deliver msg clock.now (offsetHz sf bins)) .relayDelivered txAllowed
        clock.fwdNow fwd
      exact ⟨_, (hnode node).trans (hdeliver.trans hacts),
        List.forall_mem_cons.mpr ⟨hmsg rfl, hfwd rfl rfl hrelayed⟩⟩

/-- What a turn of the decode loop does is what the node heard in it. -/
theorem does_decode (s : SimLoop) (sf : UInt8) (txAllowed : Bool) (clock : RxClock)
    (r : StreamDecodeResult) : ∃ acts, s.Does acts (s.decode sf txAllowed clock r) ∧
      ∀ a ∈ acts, a.Heard s.node sf r clock := by
  have hzero : ∀ n : UInt64, n = n + UInt64.ofNat 0 := fun n => (UInt64.add_zero n).symm
  have herror : ∀ text : String, s.Does [.failed clock.now text]
      { s with vm := pushLog s.vm clock.now .error text } := fun text =>
    ⟨(List.append_nil _).symm, rfl, hzero _, hzero _, rfl⟩
  cases r with
  | ok payload bins => exact does_receive s sf txAllowed payload bins clock
  | crcFail len cr hasCrc bins =>
    exact ⟨_, herror _, List.forall_mem_singleton.mpr ⟨rfl, by simp, by simp⟩⟩
  | decodeFailed => exact ⟨_, herror _, List.forall_mem_singleton.mpr ⟨rfl, by simp, by simp⟩⟩
  | none => exact ⟨[], .of_eq rfl rfl rfl rfl rfl, fun _ ha => absurd ha List.not_mem_nil⟩

/-! ## One iteration -/

/-- The work of an iteration after the parameters are applied. -/
theorem does_work (s : SimLoop) (inp : TickInput) (intervalSamples : UInt64) (now : String)
    (mode : SimMode) : ∃ acts, s.Does acts (s.work inp intervalSamples) ∧
      ∀ a ∈ acts, a.Own now mode s.node := by
  unfold work
  generalize (s.vm.mode != .listen) = txAllowed
  obtain ⟨xs, hxs, hown⟩ : ∃ acts, s.Does acts (s.sendBeacon inp.beacon txAllowed) ∧
    ∀ a ∈ acts, a.Own now mode s.node := does_sendBeacon s inp.beacon txAllowed
  simp only
  generalize s.sendBeacon inp.beacon txAllowed = t at hxs ⊢
  -- typed texts and the automatic one do not depend on what the node has heard
  obtain ⟨ys, hys, hown'⟩ : ∃ acts, t.Does acts (t.manualTx inp.manual txAllowed t.vm.txDest) ∧
    ∀ a ∈ acts, ∀ node, a.Own now mode node := does_manualTx t inp.manual txAllowed t.vm.txDest
  generalize t.manualTx inp.manual txAllowed t.vm.txDest = u at hys ⊢
  obtain ⟨zs, hzs, hown''⟩ : ∃ acts,
      u.Does acts (u.autoTx inp.auto txAllowed t.vm.txDest intervalSamples) ∧
    ∀ a ∈ acts, ∀ node, a.Own now mode node :=
    does_autoTx u inp.auto txAllowed t.vm.txDest intervalSamples
  refine ⟨xs ++ (ys ++ zs), hxs.trans (hys.trans (hzs.trans_quiet (does_tickDriver _ _ _))), ?_⟩
  refine List.forall_mem_append.mpr ⟨hown, List.forall_mem_append.mpr ⟨?_, ?_⟩⟩
  · exact fun a ha => hown' a ha s.node
  · exact fun a ha => hown'' a ha s.node

variable [Features]

/-- An iteration does its acts once its commands are applied. -/
theorem does_tick (s : SimLoop) (inp : TickInput) :
    ∃ acts, (s.drainCommands inp.commands).Does acts (s.tick inp) ∧
      ∀ a ∈ acts, a.Own inp.rebuildNow (s.tick inp).vm.mode (s.tick inp).node := by
  cases hrun : (s.drainCommands inp.commands).vm.running with
  | false =>
    rw [tick_paused hrun]
    exact ⟨[], .refl _, fun _ ha => absurd ha List.not_mem_nil⟩
  | true =>
    have huntouched : Untouched ViewModel.mode := fun _ _ _ _ _ => rfl
    have hmode := huntouched.tick s inp
    obtain ⟨phase, htick⟩ := tick_eq_work hrun
    have hnode : (s.tick inp).node = (s.paramsApplied inp).node := by
      have hsends : Sends (fun _ _ => True) (s.paramsApplied inp) _ :=
        sends_work (fun _ _ _ _ => trivial) inp (s.rebuilt inp).vm.intervalSamples
      rw [htick]
      exact hsends.node
    -- up to the parameters at most the mode is announced
    have hparams : (s.drainCommands inp.commands).Does _ (s.paramsApplied inp) :=
      (does_rebuildNode _ inp.rebuildNow).trans_quiet
        ((does_rebuildDriver _ inp.uhdOpen).trans_quiet
          ((does_clampNextTx _ _).trans_quiet (does_applyParams _ _)))
    obtain ⟨acts, hacts, hown⟩ := does_work (s.paramsApplied inp) inp
      (s.rebuilt inp).vm.intervalSamples inp.rebuildNow (s.tick inp).vm.mode
    have hphase : ∀ t : SimLoop, t.Does [] { t with phase } := fun _ => .of_eq rfl rfl rfl rfl rfl
    have hall := hparams.trans (hacts.trans_quiet (hphase _))
    rw [← htick] at hall
    refine ⟨_, hall, List.forall_mem_append.mpr ⟨?_, hnode ▸ hown⟩⟩
    intro a ha
    split at ha
    · rw [List.mem_singleton.mp ha, hmode]
      exact ⟨rfl, rfl⟩
    · exact absurd ha List.not_mem_nil

end

end SimLoop

/-! ## Runs -/

/-- The act is of the kind that the step may do. -/
def Act.Due [Arith] [Prost] [Aes256] (s : SimLoop) (e : LoopEvent) (t : SimLoop) (a : Act) : Prop :=
  match e with
  | .tick inp => a.Own inp.rebuildNow t.vm.mode t.node
  | .decode r clock => ∃ sf txAllowed, s.phase = .rx sf txAllowed ∧ a.Heard s.node sf r clock

/-- The acts since the last `ResetStats`. A tick applies its commands before it acts. -/
def actsSinceReset (labels : List (LoopEvent × List Act)) : List Act :=
  labels.foldl (fun acts l => (if l.1.resets then [] else acts) ++ l.2) []

/-- A reset forgets the acts before it. -/
theorem actsSinceReset_concat (labels : List (LoopEvent × List Act)) (l : LoopEvent × List Act) :
    actsSinceReset (labels ++ [l]) =
      (if l.1.resets then [] else actsSinceReset labels) ++ l.2 :=
  List.foldl_concat _ _ _ _

namespace SimLoop

/-- No command touches the list of neighbours. -/
theorem neighbours_drainCommands (s : SimLoop) (commands : List Command) :
    (s.drainCommands commands).vm.neighbours = s.vm.neighbours := by
  induction commands generalizing s with
  | nil => rfl
  | cons cmd commands ih =>
    refine (ih { s with vm := cmd.apply s.vm }).trans ?_
    cases cmd <;> rfl

/-- Commands only take lines out of the log. -/
theorem mem_log_drainCommands {s : SimLoop} {commands : List Command} {entry : LogEntry}
    (h : entry ∈ (s.drainCommands commands).vm.log) : entry ∈ s.vm.log := by
  have hlog : (s.drainCommands commands).vm.log =
      if Command.resetStats ∈ commands then [] else s.vm.log :=
    reset_drainCommands (fun _ => rfl)
      (fun _ _ hcmd => congrArg Prod.fst (stats_apply hcmd)) s commands
  rw [hlog] at h
  split at h
  · exact absurd h List.not_mem_nil
  · exact h

section

variable [Arith] [Prost] [Aes256] [Features]

/-- A step with the acts that it does once its commands are applied. -/
structure Accounts (s : SimLoop) (l : LoopEvent × List Act) (t : SimLoop) : Prop where
  step : s.Step l.1 t
  does : (s.drainCommands l.1.commands).Does l.2 t
  due : ∀ a ∈ l.2, a.Due s l.1 t

variable {s t : SimLoop}

/-- Every step has acts that account for it. -/
theorem exists_accounts {e : LoopEvent} (h : s.Step e t) : ∃ acts, s.Accounts (e, acts) t := by
  rcases step_cases h with ⟨inp, rfl, -, rfl⟩ | ⟨sf, txAllowed, r, clock, rfl, hphase, rfl⟩
  · obtain ⟨acts, hdoes, hown⟩ := does_tick s inp
    exact ⟨acts, h, hdoes, hown⟩
  · obtain ⟨acts, hdoes, hheard⟩ := does_decode s sf txAllowed clock r
    exact ⟨acts, h, hdoes, fun a ha => ⟨sf, txAllowed, hphase, hheard a ha⟩⟩

omit [Arith] [Prost] [Aes256] [Features] in
/-- The history explains what can be seen. -/
structure Explains (labels : List (LoopEvent × List Act)) (t : SimLoop) : Prop where
  air : aired t.calls = (labels.flatMap Prod.snd).filterMap Act.airing
  log : t.vm.log = ((actsSinceReset labels).filterMap Act.line).rtake maxLog
  txCount : t.vm.txCount = UInt64.ofNat ((actsSinceReset labels).countP Act.isSent)
  rxCount : t.vm.rxCount = UInt64.ofNat ((actsSinceReset labels).countP Act.isHeard)
  neighbours : t.vm.neighbours =
    ((labels.flatMap Prod.snd).filterMap Act.listing).getLast?.getD []

/-- A step adds its acts to the history. -/
theorem explains_step {labels : List (LoopEvent × List Act)} {l : LoopEvent × List Act}
    (h : Explains labels s) (hstep : s.Accounts l t) : Explains (labels ++ [l]) t := by
  have hdoes := hstep.does
  have hreset : Command.resetStats ∈ l.1.commands ↔ l.1.resets = true := by
    cases hl : l.1 with
    | tick inp => rw [LoopEvent.commands, LoopEvent.resets, decide_eq_true_iff]
    | decode r clock => simp [LoopEvent.commands, LoopEvent.resets]
  -- log and counters start over together
  let stats (vm : ViewModel) := (vm.log, vm.txCount, vm.rxCount)
  have hzero : ∀ vm, stats (Command.resetStats.apply vm) = ([], 0, 0) := fun _ => rfl
  have hread := reset_drainCommands hzero (fun _ _ => stats_apply) s l.1.commands
  obtain ⟨hlog, htx, hrx⟩ :
      (s.drainCommands l.1.commands).vm.log =
        ((if l.1.resets then [] else actsSinceReset labels).filterMap Act.line).rtake maxLog ∧
      (s.drainCommands l.1.commands).vm.txCount =
        UInt64.ofNat ((if l.1.resets then [] else actsSinceReset labels).countP Act.isSent) ∧
      (s.drainCommands l.1.commands).vm.rxCount =
        UInt64.ofNat ((if l.1.resets then [] else actsSinceReset labels).countP Act.isHeard) := by
    by_cases hl : l.1.resets = true
    · rw [if_pos (hreset.mpr hl)] at hread
      obtain ⟨hlog, hcounts⟩ := Prod.mk.inj hread
      obtain ⟨htx, hrx⟩ := Prod.mk.inj hcounts
      rw [if_pos hl]
      exact ⟨hlog, htx, hrx⟩
    · rw [if_neg (mt hreset.mp hl)] at hread
      obtain ⟨hlog, hcounts⟩ := Prod.mk.inj hread
      obtain ⟨htx, hrx⟩ := Prod.mk.inj hcounts
      rw [if_neg hl]
      exact ⟨hlog.trans h.log, htx.trans h.txCount, hrx.trans h.rxCount⟩
  have hneighbours : (s.drainCommands l.1.commands).vm.neighbours = s.vm.neighbours :=
    neighbours_drainCommands s l.1.commands
  have hall : (labels ++ [l]).flatMap Prod.snd = labels.flatMap Prod.snd ++ l.2 := by
    rw [List.flatMap_append, List.flatMap_singleton]
  refine ⟨?_, ?_, ?_, ?_, ?_⟩
  · rw [hdoes.air, hall, List.filterMap_append, ← h.air]
    rfl
  · rw [hdoes.log, hlog, actsSinceReset_concat, List.filterMap_append]
    exact Fifo.foldl_push_rtake maxLog _ _
  · rw [hdoes.txCount, htx, actsSinceReset_concat, List.countP_append, UInt64.ofNat_add]
  · rw [hdoes.rxCount, hrx, actsSinceReset_concat, List.countP_append, UInt64.ofNat_add]
  · rw [hdoes.neighbours, hneighbours, h.neighbours, hall, List.filterMap_append,
      List.getLast?_append]
    cases (l.2.filterMap Act.listing).getLast? <;> rfl

omit [Prost] [Aes256] in
/-- Before anything happens there is nothing to explain. -/
theorem explains_start (random : UInt32) (probed : Bool) (uhdOpen : Except String Unit) :
    Explains [] (start (bootView random probed) uhdOpen) := by
  obtain ⟨_, _, hvm⟩ := vm_start (bootView random probed) uhdOpen
  refine ⟨aired_start _ uhdOpen, ?_, ?_, ?_, ?_⟩
  all_goals
    rw [hvm]
    cases probed <;> rfl

end

end SimLoop

section

variable [Arith] [Prost] [Aes256] [Features]

/-- Every run has a history of acts, step by step of the kind that the step may do, that
    explains all that can be seen: in order, its transmissions are those on the air and its
    last listing of the neighbours is on display; since the last `ResetStats`, the newest 200
    of its lines are in the log, and the counters say how many texts it sent and how many
    messages of other nodes it delivered. -/
theorem acts_explain_display {random : UInt32} {probed : Bool} {uhdOpen : Except String Unit}
    {es : List LoopEvent} {t : SimLoop}
    (hrun : Lts.Run SimLoop.Step (SimLoop.start (bootView random probed) uhdOpen) es t) :
    ∃ labels : List (LoopEvent × List Act), labels.map Prod.fst = es ∧
      Lts.Run SimLoop.Accounts (SimLoop.start (bootView random probed) uhdOpen) labels t ∧
      aired t.calls = (labels.flatMap Prod.snd).filterMap Act.airing ∧
      t.vm.log = ((actsSinceReset labels).filterMap Act.line).rtake maxLog ∧
      t.vm.txCount = UInt64.ofNat ((actsSinceReset labels).countP Act.isSent) ∧
      t.vm.rxCount = UInt64.ofNat ((actsSinceReset labels).countP Act.isHeard) ∧
      t.vm.neighbours =
        ((labels.flatMap Prod.snd).filterMap Act.listing).getLast?.getD [] := by
  have hfine : ∀ (a : SimLoop) (e : LoopEvent) (b : SimLoop), a.Step e b →
      ∃ l : LoopEvent × List Act, l.1 = e ∧ a.Accounts l b := by
    intro a e b hstep
    obtain ⟨acts, hacts⟩ := SimLoop.exists_accounts hstep
    exact ⟨(e, acts), rfl, hacts⟩
  -- label each step with acts that account for it
  obtain ⟨labels, hlabels, hrun'⟩ := hrun.exists_refined hfine
  obtain ⟨hair, hlog, htx, hrx, hneighbours⟩ : SimLoop.Explains labels t :=
    hrun'.history_invariant (SimLoop.explains_start random probed uhdOpen)
      fun _ _ _ _ ih hstep => SimLoop.explains_step ih hstep
  exact ⟨labels, hlabels, hrun', hair, hlog, htx, hrx, hneighbours⟩

end

section

open Samples

/-- Switched to terminal mode, node 1 sends the text it is given. -/
theorem acts_explain_display_sample : ∃ (labels : List (LoopEvent × List Act)) (t : SimLoop),
    labels.map Prod.fst = [tick [.setMode .terminal, .sendText "hi"]] ∧
      t.vm.log = ((actsSinceReset labels).filterMap Act.line).rtake maxLog ∧
      t.vm.txCount = UInt64.ofNat ((actsSinceReset labels).countP Act.isSent) := by
  have hrun : Lts.Run SimLoop.Step (boot 1) [tick [.setMode .terminal, .sendText "hi"]] _ :=
    .single (SimLoop.step_tick rfl)
  obtain ⟨labels, hlabels, -, -, hlog, htx, -⟩ := acts_explain_display hrun
  exact ⟨labels, _, hlabels, hlog, htx⟩

end

end Mesh
