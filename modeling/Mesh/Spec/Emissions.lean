import Mesh.Spec.Samples
import Mesh.Spec.Schedule

/-!
# What goes on the air

`Emits` relates two states of the loop by the transmissions between them: each
is handed to the driver once, text messages are counted, and text messages and
relayed frames are logged. The relation composes along the phases of an
iteration (`SimLoop.emits_tick`) and along the turns of the decode loop
(`SimLoop.emits_decode`).

## Key results

- `SimLoop.emits_tick`, `SimLoop.emits_decode`: the two kinds of steps
- `listen_is_silent`: an iteration in listen mode transmits nothing
-/

namespace Mesh

open Ieee (F32 F64 Arith)

namespace TxSite

/-- The text messages, typed and automatic. -/
def isText : TxSite → Bool
  | manual _ | auto _ => true
  | _ => false

/-- How a transmission is logged; beacons are not. -/
def logDir : TxSite → Option MsgDir
  | manual _ | auto _ => some .tx
  | relayDelivered | relayTransit => some .fwd
  | beacon => none

end TxSite

/-- Where samples are handed to the driver, and the samples. -/
def DriverCall.airing : DriverCall → Option (TxSite × Iq)
  | pushSamples site iq => some (site, iq)
  | _ => none

/-- Setting a parameter is no transmission. -/
theorem DriverCall.airing_of_setsParam {c : DriverCall} (h : c.setsParam) : c.airing = none := by
  cases c <;> first | rfl | exact h.elim

/-- Handing a device over is no transmission. -/
theorem DriverCall.airing_of_handsOver {c : DriverCall} (h : c.handsOver) : c.airing = none := by
  cases c <;> first | rfl | exact h.elim

/-- The transmissions among some calls. -/
def aired (calls : List DriverCall) : List (TxSite × Iq) := calls.filterMap DriverCall.airing

/-- Transmissions of calls in a row. -/
theorem aired_append (cs ds : List DriverCall) : aired (cs ++ ds) = aired cs ++ aired ds :=
  List.filterMap_append

/-- Calls none of which is a transmission. -/
theorem aired_eq_nil {cs : List DriverCall} (h : ∀ c ∈ cs, c.airing = none) : aired cs = [] :=
  List.filterMap_eq_nil_iff.mpr h

/-- The sites of the transmissions among some calls. -/
def pushed (calls : List DriverCall) : List TxSite := (aired calls).map Prod.fst

/-- Sites of calls in a row. -/
theorem pushed_append (cs ds : List DriverCall) : pushed (cs ++ ds) = pushed cs ++ pushed ds := by
  rw [pushed, aired_append, List.map_append]
  rfl

/-- The direction of an entry that stands for a transmission. -/
def LogEntry.sentDir (entry : LogEntry) : Option MsgDir :=
  match entry.dir with
  | .tx => some .tx
  | .fwd => some .fwd
  | _ => none

/-- The log after one more entry. -/
def appendLog (log : List LogEntry) (entry : LogEntry) : List LogEntry :=
  let log := log ++ [entry]
  if log.length > maxLog then log.tail else log

namespace Core

/-- The node rebuild leaves the mode alone. -/
theorem rebuild_mode (c : Core) : c.rebuild.mode = c.mode := by
  obtain ⟨_, _, hrebuild⟩ := c.rebuild_eq
  rw [hrebuild]

/-- The node rebuild leaves the queue alone. -/
theorem rebuild_txQueue (c : Core) : c.rebuild.txQueue = c.txQueue := by
  obtain ⟨_, _, hrebuild⟩ := c.rebuild_eq
  rw [hrebuild]

end Core

namespace SimLoop

/-- Between two states the loop transmits `sites`, counts the texts among them and logs
    what is to be logged. -/
structure Emits (s : SimLoop) (sites : List TxSite) (t : SimLoop) : Prop where
  pushed_eq : pushed t.calls = pushed s.calls ++ sites
  counted : t.vm.txCount = s.vm.txCount + UInt64.ofNat (sites.countP TxSite.isText)
  logged : ∃ entries : List LogEntry, t.vm.log = entries.foldl appendLog s.vm.log ∧
    entries.filterMap LogEntry.sentDir = sites.filterMap TxSite.logDir

namespace Emits

variable {s t u : SimLoop} {xs ys : List TxSite}

theorem refl (s : SimLoop) : s.Emits [] s :=
  ⟨(List.append_nil _).symm, (UInt64.add_zero _).symm, [], rfl, rfl⟩

theorem trans (h : s.Emits xs t) (h' : t.Emits ys u) : s.Emits (xs ++ ys) u := by
  obtain ⟨hpushed, hcounted, entries, hlog, hdirs⟩ := h
  obtain ⟨hpushed', hcounted', entries', hlog', hdirs'⟩ := h'
  -- transmissions, count and log of the two parts are joined
  refine ⟨?_, ?_, entries ++ entries', ?_, ?_⟩
  · rw [hpushed', hpushed, List.append_assoc]
  · rw [hcounted', hcounted, List.countP_append, UInt64.ofNat_add, UInt64.add_assoc]
  · rw [hlog', hlog, List.foldl_append]
  · rw [List.filterMap_append, hdirs, hdirs', List.filterMap_append]

/-- A phase that transmits nothing, before another one. -/
theorem quiet_trans (h : s.Emits [] t) (h' : t.Emits ys u) : s.Emits ys u := h.trans h'

/-- A phase that transmits nothing, after another one. -/
theorem trans_quiet (h : s.Emits xs t) (h' : t.Emits [] u) : s.Emits xs u :=
  List.append_nil xs ▸ h.trans h'

/-- Neither the counter nor the log nor the transmissions change. -/
theorem of_eq (hcalls : pushed t.calls = pushed s.calls) (hcount : t.vm.txCount = s.vm.txCount)
    (hlog : t.vm.log = s.vm.log) : s.Emits [] t := by
  refine ⟨?_, ?_, [], hlog, rfl⟩
  · rw [hcalls, List.append_nil]
  · rw [hcount]
    exact (UInt64.add_zero _).symm

/-- Some calls that are no transmissions. -/
theorem of_calls (cs : List DriverCall) (h : aired cs = []) (hcalls : t.calls = s.calls ++ cs)
    (hcount : t.vm.txCount = s.vm.txCount) (hlog : t.vm.log = s.vm.log) : s.Emits [] t := by
  refine .of_eq ?_ hcount hlog
  rw [hcalls, pushed, aired_append, h, List.append_nil]
  rfl

/-- One entry that stands for no transmission. -/
theorem of_log (entry : LogEntry) (hcalls : pushed t.calls = pushed s.calls)
    (hcount : t.vm.txCount = s.vm.txCount) (hlog : t.vm.log = appendLog s.vm.log entry)
    (hdir : entry.sentDir = none) : s.Emits [] t := by
  refine ⟨?_, ?_, [entry], hlog, ?_⟩
  · rw [hcalls, List.append_nil]
  · rw [hcount]
    exact (UInt64.add_zero _).symm
  · rw [List.filterMap_cons_none hdir]
    rfl

end Emits

/-! ## Phases that transmit nothing -/

theorem emits_rebuildNode (s : SimLoop) (now : String) : s.Emits [] (s.rebuildNode now) := by
  unfold rebuildNode
  split
  · exact .of_log _ rfl rfl rfl rfl
  · exact .refl s

theorem emits_clampNextTx (s : SimLoop) (intervalSamples : UInt64) :
    s.Emits [] (s.clampNextTx intervalSamples) := by
  unfold clampNextTx
  split
  · exact .of_eq rfl rfl rfl
  · exact .refl s

section

variable [Arith]

theorem emits_applyParams (s : SimLoop) (sf : UInt8) : s.Emits [] (s.applyParams sf) := by
  refine applyParams_keeps (P := fun t => s.Emits [] t) (.refl s) ?_ ?_ ?_ sf
  · intro t cs hcs ht
    have hnone := aired_eq_nil fun c hc => DriverCall.airing_of_setsParam (hcs c hc)
    exact ht.trans_quiet (.of_calls cs hnone rfl rfl rfl)
  · exact fun _ _ _ ht => ht.trans_quiet (.of_eq rfl rfl rfl)
  · exact fun _ _ _ _ ht => ht.trans_quiet (.of_eq rfl rfl rfl)

/-- Samples that come back are none that go out. -/
theorem emits_tickDriver (s : SimLoop) (mixedLen : Nat) (spectra : List (List F64)) :
    s.Emits [] (s.tickDriver mixedLen spectra) :=
  .of_calls [.tick 16000] rfl rfl rfl rfl

variable [Features]

/-- The driver rebuild calls the devices, but hands them nothing. -/
theorem aired_rebuildDriver (s : SimLoop) (uhdOpen : Except String Unit) :
    aired (s.rebuildDriver uhdOpen).calls = aired s.calls := by
  obtain ⟨cs, hcalls, hcs⟩ := (swaps_rebuildDriver s uhdOpen).calls_eq
  have hnone := aired_eq_nil fun c hc => DriverCall.airing_of_handsOver (hcs c hc)
  rw [hcalls, aired_append, hnone, List.append_nil]

/-- A driver rebuild hands nothing to the driver. -/
theorem emits_rebuildDriver (s : SimLoop) (uhdOpen : Except String Unit) :
    s.Emits [] (s.rebuildDriver uhdOpen) := by
  obtain ⟨_, _, _, _, hvm⟩ := (swaps_rebuildDriver s uhdOpen).vm_eq
  apply Emits.of_eq (congrArg (List.map Prod.fst) (aired_rebuildDriver s uhdOpen))
  · rw [hvm]
  · rw [hvm]

end

/-! ## Transmissions -/

/-- A beacon is handed to the driver unless TX is off. -/
theorem emits_sendBeacon [Prost] [Aes256] (s : SimLoop) (random : UInt32) (txAllowed : Bool) :
    ∃ n, s.Emits (List.replicate n .beacon) (s.sendBeacon random txAllowed) ∧
      (txAllowed = false → n = 0) := by
  have hdue : s.Emits [] { s with nextBeaconAt := s.produced + beaconInterval } :=
    .of_eq rfl rfl rfl
  have hview : ∀ (t : SimLoop) (neighbours : List String),
      t.Emits [] { t with vm := { t.vm with neighbours } } := fun _ _ => .of_eq rfl rfl rfl
  -- a beacon is neither counted nor logged
  have hbeacon : ∀ (t : SimLoop) (frame : MeshFrame),
      t.Emits (List.replicate 1 .beacon) (t.transmit .beacon frame) := fun t frame =>
    ⟨pushed_append _ _, (UInt64.add_zero _).symm, [], rfl, rfl⟩
  have hallowed {n : Nat} (h : true = false) : n = 0 := absurd h.symm Bool.false_ne_true
  unfold sendBeacon
  split
  · cases txAllowed with
    | false => exact ⟨0, hdue.quiet_trans (hview _ _), fun _ => rfl⟩
    | true =>
      simp only [if_true]
      cases s.node.buildNodeinfoFrame random with
      | none => exact ⟨0, hdue.quiet_trans (hview _ _), hallowed⟩
      | some frame =>
        exact ⟨1, hdue.quiet_trans ((hbeacon _ frame).trans_quiet (hview _ _)), hallowed⟩
  · exact ⟨0, .refl s, fun _ => rfl⟩

section

variable [Prost] [Aes256]

/-- A text is transmitted, counted and logged if it fits, and else nothing happens. -/
theorem emits_sendText (s : SimLoop) {site : TxSite} (hsite : site.isText = true) (o : Oracle)
    (txDest : UInt32) (text : String) :
    s.Emits (if fits text then [site] else []) (s.sendText site o txDest text) := by
  unfold sendText
  rw [← isSome_buildTextFrame s.node o.random txDest text]
  cases s.node.buildTextFrame o.random txDest text with
  | none => exact .refl s
  | some frame =>
    -- one call, one count, one entry
    have hdir : site.logDir = some .tx := by
      cases site <;> first | rfl | exact nomatch hsite
    let entry : LogEntry := {
      time := o.now, dir := .tx, text := "\"" ++ text ++ "\"", fromId := none, hops := none
      selfOrigin := false }
    refine ⟨?_, ?_, [entry], rfl, ?_⟩
    · exact pushed_append _ _
    · rw [Option.isSome_some, if_pos rfl, List.countP_singleton, hsite]
      rfl
    · rw [Option.isSome_some, if_pos rfl, List.filterMap_cons_some hdir]
      rfl

/-- The texts of the manual queue that fit, in order. -/
theorem emits_sendTexts (s : SimLoop) (oracle : Nat → Oracle) (txDest : UInt32) (i : Nat)
    (texts : List String) :
    s.Emits ((texts.filter fits).map .manual) (s.sendTexts oracle txDest i texts) := by
  induction texts generalizing s i with
  | nil => exact .refl s
  | cons text rest ih =>
    -- one text, and then the rest from the state it leaves
    have hone := emits_sendText s (show (TxSite.manual text).isText = true from rfl) (oracle i)
      txDest text
    have hall := hone.trans (ih _ (i + 1))
    rw [sendTexts]
    by_cases h : fits text = true
    · rw [List.filter_cons_of_pos h]
      rw [h] at hall
      exact hall
    · rw [List.filter_cons_of_neg h]
      rw [if_neg h] at hall
      exact hall

/-- The texts of the manual queue that fit are handed to the driver unless TX is off. -/
theorem emits_manualTx (s : SimLoop) (oracle : Nat → Oracle) (txAllowed : Bool)
    (txDest : UInt32) :
    s.Emits (if txAllowed then (s.vm.txQueue.filter fits).map .manual else [])
      (s.manualTx oracle txAllowed txDest) := by
  have hdrained : s.Emits [] { s with vm := { s.vm with txQueue := [] } } := .of_eq rfl rfl rfl
  unfold manualTx
  cases txAllowed with
  | true => exact hdrained.quiet_trans (emits_sendTexts _ oracle txDest 0 s.vm.txQueue)
  | false => exact hdrained

/-- An automatic message is handed to the driver only when one is due. -/
theorem emits_autoTx (s : SimLoop) (o : Oracle) (txAllowed : Bool) (txDest : UInt32)
    (intervalSamples : UInt64) :
    ∃ texts : List String, s.Emits (texts.map .auto)
      (s.autoTx o txAllowed txDest intervalSamples) ∧
      (s.autoDue txAllowed = false → texts = []) := by
  unfold autoTx
  rw [← autoDue]
  cases hdue : s.autoDue txAllowed with
  | false => exact ⟨[], .refl s, fun _ => rfl⟩
  | true =>
    have hno {texts : List String} (h : true = false) : texts = [] :=
      absurd h.symm Bool.false_ne_true
    -- the schedule moves first, then the text goes out if it fits
    have hclock : s.Emits [] { s with
        nextTxAt := s.produced + intervalSamples, seq := s.seq + 1 } := .of_eq rfl rfl rfl
    let text := "Test #" ++ toString (s.seq + 1).toNat
    have hsend := hclock.quiet_trans (emits_sendText _
      (show (TxSite.auto text).isText = true from rfl) o txDest text)
    by_cases hfits : fits text = true
    · rw [if_pos hfits] at hsend
      exact ⟨[text], hsend, hno⟩
    · rw [if_neg hfits] at hsend
      exact ⟨[], hsend, hno⟩

end

/-- A relayed frame is logged, but not counted. -/
theorem emits_relay (s : SimLoop) {site : TxSite} (htext : site.isText = false)
    (hdir : site.logDir = some .fwd) (txAllowed : Bool) (now : String) (fwd : MeshFrame) :
    s.Emits (if txAllowed then [site] else []) (s.relay site txAllowed now fwd) := by
  unfold relay
  cases txAllowed with
  | false => exact .refl s
  | true =>
    let entry : LogEntry := {
      time := now, dir := .fwd, text := "relay", fromId := none, hops := none
      selfOrigin := false }
    simp only [if_true]
    refine ⟨pushed_append _ _, ?_, [entry], rfl, ?_⟩
    · -- a relay is not counted as a text
      rw [List.countP_singleton, htext]
      exact (UInt64.add_zero _).symm
    · rw [List.filterMap_cons_some hdir]
      rfl

/-! ## The two kinds of steps -/

section

variable [Arith] [Prost]

theorem emits_deliver (s : SimLoop) (msg : MeshMessage) (now : String) (offHz : F64) :
    s.Emits [] (s.deliver msg now offHz) := by
  let entry : LogEntry := {
    time := now, dir := .rx, text := messageLabel msg.data offHz, fromId := some msg.fromNode
    hops := some msg.hopLimit, selfOrigin := msg.selfOrigin }
  unfold deliver
  split
  · exact .of_log entry rfl rfl rfl rfl
  · exact .of_log entry rfl rfl rfl rfl

variable [Aes256]

/-- A decoded payload leads to at most one relayed frame, and to none while TX is off. -/
theorem emits_receive (s : SimLoop) (txAllowed : Bool) (payload : List UInt8) (offHz : F64)
    (clock : RxClock) :
    ∃ sites, s.Emits sites (s.receive txAllowed payload offHz clock) ∧
      sites ⊆ [.relayDelivered, .relayTransit] ∧ (txAllowed = false → sites = []) := by
  have hnode : ∀ node : MeshNode, s.Emits [] { s with node } := fun _ => .of_eq rfl rfl rfl
  have hoff : ∀ site : TxSite, txAllowed = false → (if txAllowed then [site] else []) = [] :=
    fun _ h => if_neg (by rw [h]; exact Bool.false_ne_true)
  have hsub : ∀ site ∈ [TxSite.relayDelivered, .relayTransit],
      (if txAllowed then [site] else []) ⊆ [TxSite.relayDelivered, .relayTransit] := by
    intro site hsite
    split
    · exact List.cons_subset.mpr ⟨hsite, List.nil_subset _⟩
    · exact List.nil_subset _
  unfold receive
  cases s.node.processRxFrame payload with
  | mk result node =>
    rcases result with err | ⟨_ | msg, _ | fwd⟩
    · -- an error is logged
      let entry : LogEntry := {
        time := clock.now, dir := .error, text := err.toString, fromId := none, hops := none
        selfOrigin := false }
      exact ⟨[], .of_log entry rfl rfl rfl rfl, List.nil_subset _, fun _ => rfl⟩
    · exact ⟨[], hnode node, List.nil_subset _, fun _ => rfl⟩
    · exact ⟨_, (hnode node).quiet_trans (emits_relay _ rfl rfl txAllowed clock.fwdNow fwd),
        hsub .relayTransit (by decide), hoff .relayTransit⟩
    · exact ⟨[], (hnode node).quiet_trans (emits_deliver _ msg clock.now offHz),
        List.nil_subset _, fun _ => rfl⟩
    · exact ⟨_, (hnode node).quiet_trans ((emits_deliver _ msg clock.now offHz).quiet_trans
        (emits_relay _ rfl rfl txAllowed clock.fwdNow fwd)),
        hsub .relayDelivered (by decide), hoff .relayDelivered⟩

/-- A turn of the decode loop can only relay, and not while TX is off. -/
theorem emits_decode (s : SimLoop) (sf : UInt8) (txAllowed : Bool) (clock : RxClock)
    (r : StreamDecodeResult) :
    ∃ sites, s.Emits sites (s.decode sf txAllowed clock r) ∧
      sites ⊆ [.relayDelivered, .relayTransit] ∧ (txAllowed = false → sites = []) := by
  -- what cannot be decoded is logged and nothing more
  have herror : ∀ text : String,
      s.Emits [] { s with vm := pushLog s.vm clock.now .error text } := by
    intro text
    let entry : LogEntry := {
      time := clock.now, dir := .error, text, fromId := none, hops := none, selfOrigin := false }
    exact .of_log entry rfl rfl rfl rfl
  cases r with
  | ok payload bins => exact emits_receive s txAllowed payload _ clock
  | crcFail len cr hasCrc bins =>
    exact ⟨[], herror _, List.nil_subset _, fun _ => rfl⟩
  | decodeFailed => exact ⟨[], herror _, List.nil_subset _, fun _ => rfl⟩
  | none => exact ⟨[], .of_eq rfl rfl rfl, List.nil_subset _, fun _ => rfl⟩

variable [Features]

/-- Up to the automatic message: beacons and the manual queue; in listen mode nothing. -/
theorem emits_manualSent (s : SimLoop) (inp : TickInput) :
    ∃ n : Nat, (s.drainCommands inp.commands).Emits
      (List.replicate n .beacon ++ (if (s.drainCommands inp.commands).vm.mode = .listen then []
        else ((s.drainCommands inp.commands).vm.txQueue.filter fits).map .manual))
      (s.manualSent inp) ∧
      ((s.drainCommands inp.commands).vm.mode = .listen → n = 0) := by
  rw [manualSent, rebuilt]
  generalize s.drainCommands inp.commands = d
  -- up to the beacon nothing is transmitted, and the mode and the queue stay
  generalize hparams : SimLoop.applyParams _ _ = t
  have hquiet : d.Emits [] t := by
    rw [← hparams]
    exact (emits_rebuildNode d _).quiet_trans ((emits_rebuildDriver _ _).quiet_trans
      ((emits_clampNextTx _ _).quiet_trans (emits_applyParams _ _)))
  have ht : t.core = d.core.rebuild := by
    rw [← hparams, core_applyParams, core_clampNextTx, core_rebuildDriver, core_rebuildNode]
  have hmode : t.vm.mode = d.vm.mode := (congrArg Core.mode ht).trans d.core.rebuild_mode
  have hqueue : ∀ b : Bool, (t.sendBeacon inp.beacon b).vm.txQueue = d.vm.txQueue := fun b =>
    (congrArg Core.txQueue ((core_sendBeacon t inp.beacon b).trans ht)).trans
      d.core.rebuild_txQueue
  rw [hmode]
  have hqueue' := hqueue (d.vm.mode != .listen)
  -- beacon and manual queue follow
  obtain ⟨n, hbeacon, hn⟩ := emits_sendBeacon t inp.beacon (d.vm.mode != .listen)
  generalize t.sendBeacon inp.beacon (d.vm.mode != .listen) = u at hbeacon hqueue' ⊢
  have hmanual := emits_manualTx u inp.manual (d.vm.mode != .listen) u.vm.txDest
  rw [hqueue'] at hmanual
  have hallowed : ∀ xs : List TxSite, (if d.vm.mode = .listen then [] else xs) =
      if (d.vm.mode != .listen) = true then xs else [] := by
    intro xs
    cases d.vm.mode <;> rfl
  refine ⟨n, ?_, fun hlisten => hn (by rw [hlisten]; rfl)⟩
  rw [hallowed]
  exact hquiet.quiet_trans (hbeacon.trans hmanual)

/-- What an unpaused iteration transmits before the decode loop: beacons, the manual queue
    and automatic messages; in listen mode nothing. -/
theorem emits_tick {s : SimLoop} {inp : TickInput}
    (h : (s.drainCommands inp.commands).vm.running = true) :
    ∃ (n : Nat) (autos : List String), (s.drainCommands inp.commands).Emits
      (List.replicate n .beacon ++ ((if (s.drainCommands inp.commands).vm.mode = .listen then []
        else ((s.drainCommands inp.commands).vm.txQueue.filter fits).map .manual) ++
        autos.map .auto)) (s.tick inp) ∧
      ((s.drainCommands inp.commands).vm.mode = .listen → n = 0 ∧ autos = []) ∧
      ((s.manualSent inp).autoDue ((s.drainCommands inp.commands).vm.mode != .listen) = false →
        autos = []) := by
  obtain ⟨txDest, htick⟩ := tick_eq_autoTx h
  obtain ⟨n, hmanual, hn⟩ := emits_manualSent s inp
  obtain ⟨autos, hauto, hautos⟩ := emits_autoTx (s.manualSent inp) inp.auto
    ((s.drainCommands inp.commands).vm.mode != .listen) txDest (s.rebuilt inp).vm.intervalSamples
  -- the phase is nothing that is emitted
  have hend : ∀ (u : SimLoop) (phase : Phase), u.Emits [] { u with phase } :=
    fun _ _ => .of_eq rfl rfl rfl
  refine ⟨n, autos, ?_, fun hlisten => ⟨hn hlisten, hautos ?_⟩, hautos⟩
  · rw [htick, ← List.append_assoc]
    exact hmanual.trans (hauto.trans_quiet ((emits_tickDriver _ _ _).trans_quiet (hend _ _)))
  · rw [hlisten]
    rfl

end

end SimLoop

/-- The event is a turn of the decode loop. -/
def LoopEvent.isDecode : LoopEvent → Prop
  | .tick _ => False
  | .decode _ _ => True

section

variable [Arith] [Prost] [Aes256] [Features]

/-- Since a state nothing was transmitted, and in the decode loop TX is off. -/
private structure Muted (s t : SimLoop) : Prop where
  silent : s.Emits [] t
  off : ∀ sf txAllowed, t.phase = .rx sf txAllowed → txAllowed = false

/-- A turn of the decode loop that was entered with TX off hands nothing to the driver. -/
private theorem muted_step {s t u : SimLoop} {e : LoopEvent} (h : Muted s t) (hstep : t.Step e u)
    (hdecode : e.isDecode) : Muted s u := by
  rcases SimLoop.step_cases hstep with
    ⟨inp, rfl, -, -⟩ | ⟨sf, txAllowed, r, clock, rfl, hphase, rfl⟩
  · exact hdecode.elim
  · obtain ⟨sites, hsites, -, hnone⟩ := SimLoop.emits_decode t sf txAllowed clock r
    rw [hnone (h.off sf txAllowed hphase)] at hsites
    refine ⟨h.silent.quiet_trans hsites, ?_⟩
    intro sf' txAllowed' hphase'
    rcases SimLoop.phase_decode t sf txAllowed clock r with htop | hsame
    · rw [htop] at hphase'
      exact absurd hphase' (by simp)
    · rw [hsame] at hphase'
      exact h.off sf' txAllowed' hphase'

/-- From any state, an unpaused iteration whose commands leave the loop in listen mode,
    decode loop included, makes no transmission at any site, counts none and logs none. -/
theorem listen_is_silent {s t : SimLoop} {inp : TickInput} {ds : List LoopEvent}
    (hunpaused : (s.drainCommands inp.commands).vm.running = true)
    (hlisten : (s.drainCommands inp.commands).vm.mode = .listen)
    (hrun : Lts.Run SimLoop.Step (s.tick inp) ds t) (hdecode : ∀ e ∈ ds, e.isDecode) :
    pushed t.calls = pushed s.calls ∧
      t.vm.txCount = (s.drainCommands inp.commands).vm.txCount ∧
      ∃ entries : List LogEntry,
        t.vm.log = entries.foldl appendLog (s.drainCommands inp.commands).vm.log ∧
        ∀ entry ∈ entries, entry.dir ≠ .tx ∧ entry.dir ≠ .fwd := by
  obtain ⟨n, autos, hemits, hnone, -⟩ := SimLoop.emits_tick hunpaused
  obtain ⟨rfl, rfl⟩ := hnone hlisten
  rw [if_pos hlisten] at hemits
  -- TX stays off in the decode loop
  have hstart : Muted (s.drainCommands inp.commands) (s.tick inp) := by
    refine ⟨hemits, ?_⟩
    intro sf txAllowed hphase
    rw [SimLoop.phase_tick_eq hunpaused, hlisten] at hphase
    exact (Phase.rx.inj hphase).2.symm
  have hmuted : (∀ e ∈ ds, e.isDecode) → Muted (s.drainCommands inp.commands) t := by
    refine hrun.history_invariant (I := fun fs b => (∀ e ∈ fs, e.isDecode) → Muted _ b)
      (fun _ => hstart) ?_
    intro fs a e b ih hstep hall
    have ha := ih fun f hf => hall f (List.mem_append_left _ hf)
    exact muted_step ha hstep (hall e (List.mem_append_right _ (List.mem_singleton_self e)))
  obtain ⟨hpushed, hcounted, entries, hlog, hdirs⟩ := (hmuted hdecode).silent
  refine ⟨hpushed.trans (List.append_nil _), hcounted.trans (UInt64.add_zero _), entries, hlog, ?_⟩
  intro entry hentry
  -- an entry with such a direction would stand for a transmission
  have hdir := List.filterMap_eq_nil_iff.mp hdirs entry hentry
  constructor
  · intro h
    simp [LogEntry.sentDir, h] at hdir
  · intro h
    simp [LogEntry.sentDir, h] at hdir

end

section

open Samples

/-- A freshly booted loop listens; its first iteration makes no transmission. -/
theorem listen_is_silent_sample : ∃ inp : TickInput,
    pushed ((Samples.boot 1).tick inp).calls = pushed (Samples.boot 1).calls := by
  obtain ⟨inp, -, hcmds⟩ := exists_tick [.sendText "hi"]
  have hunpaused : ((Samples.boot 1).drainCommands inp.commands).vm.running = true := by
    rw [hcmds]
    rfl
  have hlisten : ((Samples.boot 1).drainCommands inp.commands).vm.mode = .listen := by
    rw [hcmds]
    rfl
  exact ⟨inp, (listen_is_silent hunpaused hlisten .nil nofun).1⟩

end

end Mesh
