import Mesh.Spec.Acts
import Mesh.Spec.NeighbourHistory

/-!
# A mesh of radio loops

Radio loops with a user each, on the air together. What is on the air is what the loops have
handed to their drivers: a loop may hear any of it, at any later time, any number of times,
or not at all. So the air loses, delays, reorders and duplicates, but makes nothing up. The
users rename their nodes, change modes and spreading factors and pause while frames are
underway.

## Key results

- `RadioNet.run_at`: a run of the mesh is a run of each loop
- `RadioNet.traced_run`: what is on the air started as a frame that one of the loops made up
- `transmissions_traced`, `deliveries_traced`: what is relayed and what is delivered
-/

namespace Mesh

open Ieee (F32 F64 Arith)

/-! ## What a frame says -/

section

variable [Prost] [Aes256]

/-- The `User` of a beacon. -/
def Console.user (c : Console) : User where
  id := "!" ++ c.nodeId.toHex8
  longName := c.nodeLong
  shortName := c.nodeShort
  rest := Prost.userDefault

/-- What a node under these settings puts into a frame at a site, and the destination. -/
def Console.Says (c : Console) : TxSite → Data → UInt32 → Prop
  | .beacon, data, toNode => data = User.encodeToData c.user ∧ toNode = broadcast
  | .manual text, data, toNode => data = MeshNode.textData text ∧ toNode = c.txDest
  | .auto text, data, toNode => (∃ seq : UInt32, text = "Test #" ++ toString seq.toNat) ∧
    data = MeshNode.textData text ∧ toNode = c.txDest
  | _, _, _ => False

/-- A frame that the node made up is built around what the console says. -/
theorem Console.built_of_originates {c : Console} {site : TxSite} {frame : MeshFrame}
    (h : c.node.Originates c.txDest site frame) :
    ∃ random data, c.node.buildFrame random frame.header.toNode data = some frame ∧
      c.Says site data frame.header.toNode := by
  -- a frame is addressed as it was built
  have hto : ∀ {random toNode data}, c.node.buildFrame random toNode data = some frame →
      frame.header.toNode = toNode := by
    intro random toNode data hbuild
    rw [(buildFrame_eq_some_iff.mp hbuild).2]
  cases site with
  | beacon =>
    obtain ⟨random, hbuild⟩ := h
    exact ⟨random, _, (hto hbuild).symm ▸ hbuild, rfl, hto hbuild⟩
  | manual text =>
    obtain ⟨random, hbuild⟩ := h
    exact ⟨random, _, (hto hbuild).symm ▸ hbuild, rfl, hto hbuild⟩
  | auto text =>
    obtain ⟨hseq, random, hbuild⟩ := h
    exact ⟨random, _, (hto hbuild).symm ▸ hbuild, hseq, rfl, hto hbuild⟩
  | _ => exact h.elim

/-- A node on the sender's channel relays a built frame with a hop less, if one is left and
    it is not the sender. -/
theorem MeshNode.relays_of_buildFrame {a b : MeshNode} {random toNode : UInt32} {data : Data}
    {frame fwd : MeshFrame} {site : TxSite} (hbuild : a.buildFrame random toNode data = some frame)
    {n : Nat} (hn : n < 8) (h : b.Relays (frame.withHops n).toBytes site fwd) :
    0 < n ∧ fwd = frame.withHops (n - 1) ∧ a.nodeId ≠ b.nodeId := by
  obtain ⟨heard, hchecked, ⟨-, hhop, hfar⟩, rfl, -⟩ := h
  have hrange := MeshFrame.inRange_withHops (inRange_of_buildFrame hbuild).2 hn
  -- what is heard is the frame that was built, but for its hops
  have hheard : frame.withHops n = heard := by
    have hraw := (ChannelConfig.checked_eq_some_iff.mp hchecked).1
    rw [MeshFrame.fromBytes_toBytes_of_inRange hrange] at hraw
    exact Option.some.inj hraw
  subst hheard
  have hpos : 0 < n := by
    by_contra hzero
    rw [show n = 0 by omega] at hhop
    exact hhop rfl
  refine ⟨hpos, MeshFrame.fwd_withHops frame hpos, ?_⟩
  rw [(buildFrame_eq_some_iff.mp hbuild).2] at hfar
  exact hfar

end

/-- No command changes the node id. -/
theorem Console.nodeId_after (random : UInt32) (es : List LoopEvent) :
    (Console.after random es).nodeId = random := by
  have hcommands : ∀ (cmds : List Command) (c : Console),
      (cmds.foldl Console.apply c).nodeId = c.nodeId := by
    intro cmds
    induction cmds with
    | nil => exact fun c => rfl
    | cons cmd cmds ih =>
      intro c
      rw [List.foldl_cons, ih]
      cases cmd <;> rfl
  exact hcommands _ _

/-! ## The mesh -/

/-- The loops of a mesh. -/
abbrev RadioNet (ι : Type) : Type := ι → SimLoop

/-- The events of one loop. -/
def eventsAt {ι : Type} [DecidableEq ι] (i : ι) (ls : List (ι × LoopEvent)) : List LoopEvent :=
  ls.filterMap fun l => if l.1 = i then some l.2 else none

namespace RadioNet

variable {ι : Type}

/-- Loop `i` has handed the bytes to its driver, at a site. -/
def OnAir (s : RadioNet ι) (i : ι) (site : TxSite) (raw : List UInt8) : Prop :=
  ∃ iq, (site, iq) ∈ aired (s i).calls ∧ iq.payload = raw

section

variable [Arith] [Prost] [Aes256] [Features]

/-- One loop takes a step; a payload it decodes is one that is on the air. -/
structure Step (s : RadioNet ι) (l : ι × LoopEvent) (t : RadioNet ι) : Prop where
  step : (s l.1).Step l.2 (t l.1)
  others : ∀ j, j ≠ l.1 → t j = s j
  heard : ∀ payload bins clock, l.2 = .decode (.ok payload bins) clock →
    ∃ j site, s.OnAir j site payload

omit [Prost] [Aes256] in
/-- Loops that have just been started, with the ids they drew. -/
def boot (ids : ι → UInt32) (probed : ι → Bool) (uhdOpen : ι → Except String Unit) :
    RadioNet ι :=
  fun i => SimLoop.start (bootView (ids i) (probed i)) (uhdOpen i)

variable [DecidableEq ι] {ids : ι → UInt32} {probed : ι → Bool}
  {uhdOpen : ι → Except String Unit} {ls : List (ι × LoopEvent)} {s t : RadioNet ι}

omit [Arith] [Prost] [Aes256] [Features] in
/-- The last event counts where it happens. -/
theorem eventsAt_concat (i : ι) (ls : List (ι × LoopEvent)) (l : ι × LoopEvent) :
    eventsAt i (ls ++ [l]) = eventsAt i ls ++ if l.1 = i then [l.2] else [] := by
  rw [eventsAt, List.filterMap_append]
  by_cases h : l.1 = i <;> simp [eventsAt, h]

/-- A run of the mesh is a run of each of its loops. -/
theorem run_at (hrun : Lts.Run Step s ls t) (i : ι) :
    Lts.Run SimLoop.Step (s i) (eventsAt i ls) (t i) := by
  induction hrun with
  | nil => exact .nil
  | @snoc ls u v l _ hstep ih =>
    rw [eventsAt_concat]
    by_cases h : l.1 = i
    · subst h
      rw [if_pos rfl]
      exact ih.snoc hstep.step
    · rw [if_neg h, List.append_nil, hstep.others i fun hi => h hi.symm]
      exact ih

/-- Every loop of the mesh obeys its own console. -/
theorem obeys_at (hrun : Lts.Run Step (boot ids probed uhdOpen) ls s) (i : ι) :
    (s i).Obeys (Console.after (ids i) (eventsAt i ls)) :=
  SimLoop.obeys_run (run_at hrun i)

/-- What is on the air stays on the record. -/
theorem onAir_step (hrun : Lts.Run Step (boot ids probed uhdOpen) ls s) {l : ι × LoopEvent}
    (hstep : Step s l t) {i : ι} {site : TxSite} {raw : List UInt8} (h : s.OnAir i site raw) :
    t.OnAir i site raw := by
  by_cases hi : i = l.1
  · subst hi
    obtain ⟨xs, hxs, -⟩ := SimLoop.allows_step (obeys_at hrun l.1) hstep.step
    obtain ⟨iq, hmem, hiq⟩ := h
    exact ⟨iq, hxs ▸ List.mem_append_left _ hmem, hiq⟩
  · rw [OnAir, hstep.others i hi]
    exact h

/-- The node of a loop that decodes has the identity its console says. -/
theorem node_of_decoding (hrun : Lts.Run Step (boot ids probed uhdOpen) ls s) {i : ι}
    {sf : UInt8} {txAllowed : Bool} (hphase : (s i).phase = .rx sf txAllowed) :
    (s i).node.nodeId = ids i ∧ (s i).node.channel = ChannelConfig.default := by
  have hobeys := obeys_at hrun i
  have hflag : (s i).core.rebuildNodes = false :=
    hobeys.settled.resolve_left fun htop => nomatch htop.symm.trans hphase
  obtain ⟨hlocal, hchannel⟩ := hobeys.current hflag
  refine ⟨?_, hchannel⟩
  rw [← Console.nodeId_after (ids i) (eventsAt i ls), ← hobeys.console]
  exact congrArg LocalNode.nodeId hlocal

/-! ## Where a frame comes from -/

/-- In the course of the events, loop `i` made up a frame and transmitted it at a site: in the
    last of its own events `before`, after which its console was such that it would. -/
structure Original (ids : ι → UInt32) (probed : ι → Bool) (uhdOpen : ι → Except String Unit)
    (ls : List (ι × LoopEvent)) (s : RadioNet ι) (i : ι) (before : List LoopEvent) (site : TxSite)
    (frame : MeshFrame) : Prop where
  past : before <+: eventsAt i ls
  there : ∃ earlier e u v xs iq, before = earlier ++ [e] ∧
    Lts.Run SimLoop.Step (boot ids probed uhdOpen i) earlier u ∧ u.Step e v ∧
    aired v.calls = aired u.calls ++ xs ∧ (site, iq) ∈ xs ∧ iq.payload = frame.toBytes
  onAir : s.OnAir i site frame.toBytes
  mode : (Console.after (ids i) before).mode = .terminal
  made : (Console.after (ids i) before).node.Originates (Console.after (ids i) before).txDest
    site frame
  typed : ∀ text, site = .manual text → .sendText text ∈ commandsOf before

/-- The transmission is a frame that the console's node built from what it says. -/
theorem Original.built {i : ι} {before : List LoopEvent} {site : TxSite} {frame : MeshFrame}
    (h : Original ids probed uhdOpen ls s i before site frame) :
    ∃ random data, (Console.after (ids i) before).node.buildFrame random frame.header.toNode
        data = some frame ∧ (Console.after (ids i) before).Says site data frame.header.toNode ∧
      frame.header.fromNode = ids i := by
  obtain ⟨random, data, hbuild, hsaid⟩ := Console.built_of_originates h.made
  refine ⟨random, data, hbuild, hsaid, ?_⟩
  rw [(buildFrame_eq_some_iff.mp hbuild).2]
  exact Console.nodeId_after (ids i) before

/-- The bytes are a frame that some loop made up, after it was relayed from loop to loop, each
    of which handed them to its driver with a hop less and is not its sender. -/
structure Relayed (ids : ι → UInt32) (s : RadioNet ι) (i : ι) (frame : MeshFrame)
    (relays : List ι) (raw : List UInt8) : Prop where
  length_le : relays.length ≤ 3
  raw_eq : raw = (frame.withHops (3 - relays.length)).toBytes
  foreign : ∀ k ∈ relays, ids k ≠ ids i
  onAir : ∀ n k, relays[n]? = some k → ∃ site, s.OnAir k site (frame.withHops (2 - n)).toBytes

/-- What loop `j` has transmitted at a site is traced back to a frame that some loop made up:
    it is that transmission, or `j` is the last to have relayed it. -/
def Traced (ids : ι → UInt32) (probed : ι → Bool) (uhdOpen : ι → Except String Unit)
    (ls : List (ι × LoopEvent)) (s : RadioNet ι) (j : ι) (site : TxSite) (raw : List UInt8) :
    Prop :=
  ∃ i before site₀ frame relays, Original ids probed uhdOpen ls s i before site₀ frame ∧
    Relayed ids s i frame relays raw ∧
    ((relays = [] ∧ j = i ∧ site = site₀) ∨ relays.getLast? = some j)

/-- What was made up stays so in a longer run. -/
theorem original_step (hrun : Lts.Run Step (boot ids probed uhdOpen) ls s) {l : ι × LoopEvent}
    (hstep : Step s l t) {i : ι} {before : List LoopEvent} {site : TxSite} {frame : MeshFrame}
    (h : Original ids probed uhdOpen ls s i before site frame) :
    Original ids probed uhdOpen (ls ++ [l]) t i before site frame where
  past := by
    rw [eventsAt_concat]
    exact h.past.trans (List.prefix_append _ _)
  there := h.there
  onAir := onAir_step hrun hstep h.onAir
  mode := h.mode
  made := h.made
  typed := h.typed

/-- What was relayed stays so in a longer run. -/
theorem relayed_step (hrun : Lts.Run Step (boot ids probed uhdOpen) ls s) {l : ι × LoopEvent}
    (hstep : Step s l t) {i : ι} {frame : MeshFrame} {relays : List ι} {raw : List UInt8}
    (h : Relayed ids s i frame relays raw) : Relayed ids t i frame relays raw where
  length_le := h.length_le
  raw_eq := h.raw_eq
  foreign := h.foreign
  onAir n k hk := by
    obtain ⟨site, hair⟩ := h.onAir n k hk
    exact ⟨site, onAir_step hrun hstep hair⟩

/-- A trace stays one in a longer run. -/
theorem traced_step (hrun : Lts.Run Step (boot ids probed uhdOpen) ls s) {l : ι × LoopEvent}
    (hstep : Step s l t) {j : ι} {site : TxSite} {raw : List UInt8}
    (h : Traced ids probed uhdOpen ls s j site raw) :
    Traced ids probed uhdOpen (ls ++ [l]) t j site raw := by
  obtain ⟨i, before, site₀, frame, relays, horig, hrel, hend⟩ := h
  exact ⟨i, before, site₀, frame, relays, original_step hrun hstep horig,
    relayed_step hrun hstep hrel, hend⟩

/-- The next relay. -/
theorem Relayed.concat {i k : ι} {before : List LoopEvent} {site₀ site : TxSite}
    {frame fwd : MeshFrame} {relays : List ι} {raw : List UInt8}
    (hrel : Relayed ids s i frame relays raw)
    (horig : Original ids probed uhdOpen ls s i before site₀ frame)
    {node : MeshNode} (hid : node.nodeId = ids k) (h : node.Relays raw site fwd)
    (hair : s.OnAir k site fwd.toBytes) : Relayed ids s i frame (relays ++ [k]) fwd.toBytes := by
  obtain ⟨random, data, hbuild, -, -⟩ := horig.built
  have hlen := hrel.length_le
  rw [hrel.raw_eq] at h
  obtain ⟨hpos, rfl, hne⟩ := MeshNode.relays_of_buildFrame hbuild (by omega) h
  have hsub : 3 - relays.length - 1 = 3 - (relays ++ [k]).length := by
    rw [List.length_append, List.length_singleton]
    omega
  refine ⟨?_, by rw [hsub], ?_, ?_⟩
  · rw [List.length_append, List.length_singleton]
    omega
  · intro k' hk'
    rcases List.mem_append.mp hk' with hold | hnew
    · exact hrel.foreign k' hold
    · rw [List.mem_singleton.mp hnew, ← hid]
      exact fun hsame => hne ((Console.nodeId_after (ids i) before).trans hsame.symm)
  · intro n k' hk'
    by_cases hn : n < relays.length
    · rw [List.getElem?_append_left hn] at hk'
      exact hrel.onAir n k' hk'
    · -- the new one is the last
      rw [List.getElem?_append_right (by omega)] at hk'
      have hlast : n = relays.length := by
        by_contra hne'
        rw [List.getElem?_eq_none (by rw [List.length_singleton]; omega)] at hk'
        exact nomatch hk'
      subst hlast
      rw [Nat.sub_self, List.getElem?_cons_zero] at hk'
      rw [← Option.some.inj hk', show 2 - relays.length = 3 - relays.length - 1 by omega]
      exact ⟨site, hair⟩

/-- All that is on the air is traced. -/
theorem traced_run (hrun : Lts.Run Step (boot ids probed uhdOpen) ls s) {j : ι} {site : TxSite}
    {raw : List UInt8} (h : s.OnAir j site raw) : Traced ids probed uhdOpen ls s j site raw := by
  -- by induction on the run; a relay extends the trace of what was heard
  induction hrun generalizing j site raw with
  | nil =>
    obtain ⟨iq, hmem, -⟩ := h
    rw [boot, SimLoop.aired_start] at hmem
    exact absurd hmem List.not_mem_nil
  | @snoc ls s t l hrun hstep ih =>
    have hold : s.OnAir j site raw → Traced ids probed uhdOpen (ls ++ [l]) t j site raw :=
      fun hair => traced_step hrun hstep (ih hair)
    by_cases hj : j = l.1
    · subst hj
      obtain ⟨xs, hxs, hall⟩ := SimLoop.allows_step (obeys_at hrun l.1) hstep.step
      have hair := h
      obtain ⟨iq, hmem, rfl⟩ := h
      -- an older transmission, or one of this step
      rcases List.mem_append.mp (hxs ▸ hmem) with hmem' | hnew
      · exact hold ⟨iq, hmem', rfl⟩
      · obtain ⟨hmode, frame, rfl, horig | ⟨payload, bins, clock, he, hrelays⟩⟩ := hall _ hnew
        · -- made up by the loop itself, in this step
          have hevents : eventsAt l.1 (ls ++ [l]) = eventsAt l.1 ls ++ [l.2] := by
            rw [eventsAt_concat, if_pos rfl]
          rw [← Console.after_concat, ← hevents] at hmode horig
          refine ⟨l.1, eventsAt l.1 (ls ++ [l]), site, frame, [], ?_, ?_, .inl ⟨rfl, rfl, rfl⟩⟩
          · refine ⟨List.prefix_refl _, ?_, hair, hmode, horig, ?_⟩
            · exact ⟨_, l.2, s l.1, t l.1, xs, _, hevents, run_at hrun l.1, hstep.step, hxs, hnew,
                rfl⟩
            rintro text rfl
            exact SimLoop.typed_of_originates (run_at (hrun.snoc hstep) l.1) hmem rfl horig
          · refine ⟨Nat.zero_le 3, ?_, fun k hk => absurd hk List.not_mem_nil, ?_⟩
            · obtain ⟨random, data, hbuild, -⟩ := Console.built_of_originates horig
              rw [(buildFrame_eq_some_iff.mp hbuild).2]
              rfl
            · intro n k hk
              exact nomatch hk
        · -- relayed from a payload that was on the air
          obtain ⟨j', site', hheard⟩ := hstep.heard payload bins clock he
          obtain ⟨i, before, site₀, origin, relays, horig, hrel, -⟩ := ih hheard
          have hdecode : (s l.1).Step (.decode (.ok payload bins) clock) (t l.1) := by
            rw [← he]
            exact hstep.step
          obtain ⟨sf, txAllowed, hphase⟩ := SimLoop.phase_of_decode hdecode
          have horig' := original_step hrun hstep horig
          refine ⟨i, before, site₀, origin, relays ++ [l.1], horig', ?_, .inr (by simp)⟩
          exact (relayed_step hrun hstep hrel).concat horig' (node_of_decoding hrun hphase).1
            hrelays hair
    · apply hold
      rw [OnAir, hstep.others j hj] at h
      exact h

/-- In every run of a mesh, each byte string that a loop hands to its driver is a frame that
    one of the loops made up and transmitted, in terminal mode and as its console then said,
    but for a hop less for each of at most three relays. Each relay, the last of which is the
    loop itself, has handed the frame to its driver with the hops then left, and none of them
    has the id of the sender. -/
theorem transmissions_traced (hrun : Lts.Run Step (boot ids probed uhdOpen) ls s) :
    ∀ j x, x ∈ aired (s j).calls → ∃ i before site frame relays,
      Original ids probed uhdOpen ls s i before site frame ∧
      Relayed ids s i frame relays x.2.payload ∧
      ((relays = [] ∧ j = i ∧ x.1 = site) ∨ relays.getLast? = some j) :=
  fun _ x hx => traced_run hrun ⟨x.2, hx, rfl⟩

end

end RadioNet

namespace Samples

/-- The ids of the two loops. -/
def twoIds : Fin 2 → UInt32
  | 0 => 1
  | 1 => 9

def noUsrp : Fin 2 → Bool := fun _ => false

def noDevice : Fin 2 → Except String Unit := fun _ => .error "no device"

/-- The loops of nodes 1 and 9, no USRP attached. -/
abbrev two : RadioNet (Fin 2) := RadioNet.boot twoIds noUsrp noDevice

/-- A mesh of two loops. -/
def both (a b : SimLoop) : RadioNet (Fin 2)
  | 0 => a
  | 1 => b

theorem both_second (a b : SimLoop) : both a b 1 = b := rfl

theorem two_eq_both : two = both (Samples.boot 1) (Samples.boot 9) := by
  funext i
  match i with
  | 0 => rfl
  | 1 => rfl

/-- The first of two loops takes a step. -/
theorem step_first {a b a' : SimLoop} {e : LoopEvent} (hstep : a.Step e a')
    (hheard : ∀ payload bins clock, e = .decode (.ok payload bins) clock →
      ∃ j site, (both a b).OnAir j site payload) : (both a b).Step (0, e) (both a' b) where
  step := hstep
  others
    | 0, h => absurd rfl h
    | 1, _ => rfl
  heard := hheard

/-- The second of two loops takes a step. -/
theorem step_second {a b b' : SimLoop} {e : LoopEvent} (hstep : b.Step e b')
    (hheard : ∀ payload bins clock, e = .decode (.ok payload bins) clock →
      ∃ j site, (both a b).OnAir j site payload) : (both a b).Step (1, e) (both a b') where
  step := hstep
  others
    | 0, _ => rfl
    | 1, h => absurd rfl h
  heard := hheard

/-- What the first of two loops has transmitted is on the air. -/
theorem onAir_first (a b : SimLoop) {site : TxSite} {iq : Iq} (h : (site, iq) ∈ aired a.calls) :
    (both a b).OnAir 0 site iq.payload := ⟨iq, h, rfl⟩

/-- An iteration whose samples make the next beacon due. -/
def longTick (commands : List Command) : TickInput where
  commands := commands
  rebuildNow := "12:00:00"
  uhdOpen := .error "no device"
  beacon := 3
  manual := fun _ => { random := 7, now := "12:00:00" }
  auto := { random := 8, now := "12:00:00" }
  mixedLen := 500000
  spectra := []

/-- Readings of a clock that stands still. -/
def noon : RxClock where
  now := "12:00:00"
  fwdNow := "12:00:00"

/-! Node 1 sends "hi", and in its next iteration a beacon. -/

def sender₁ : SimLoop := (boot 1).tick (longTick [.setMode .terminal, .sendText "hi"])
def sender₂ : SimLoop := sender₁.decode 11 true noon .none
def sender₃ : SimLoop := sender₂.tick (longTick [])

/-- The beacon of node 1. -/
def beaconBytes : List UInt8 := ((node 1).buildNodeinfoFrame 3).elim [] MeshFrame.toBytes

/-! Node 9 hears the beacon and the text, and lists its neighbours in its next iteration. -/

def hearer₁ : SimLoop := (boot 9).tick (longTick [])
def hearer₂ : SimLoop := hearer₁.decode 11 false noon (.ok beaconBytes 0.0)
def hearer₃ : SimLoop := hearer₂.decode 11 false noon (.ok (hi 3).toBytes 0.0)
def hearer₄ : SimLoop := hearer₃.decode 11 false noon .none
def hearer₅ : SimLoop := hearer₄.tick (longTick [])

/-- What the sender has handed to its driver. -/
theorem sender_airs : aired sender₃.calls =
    [(.manual "hi", (Tx.new 11).modulate (hi 3).toBytes),
      (.beacon, (Tx.new 11).modulate beaconBytes)] := by
  decide +kernel

/-- The run of node 1 alone. -/
theorem exists_sending : ∃ ls, Lts.Run RadioNet.Step two ls (both sender₃ (Samples.boot 9)) := by
  have h₁ : (both (Samples.boot 1) (Samples.boot 9)).Step (0, .tick _) (both sender₁ (boot 9)) :=
    step_first (SimLoop.step_tick rfl) (by simp)
  have h₂ : (both sender₁ (boot 9)).Step (0, .decode .none noon) (both sender₂ (boot 9)) :=
    step_first (SimLoop.step_decode (by decide +kernel)) (by simp)
  have h₃ : (both sender₂ (boot 9)).Step (0, .tick _) (both sender₃ (Samples.boot 9)) :=
    step_first (SimLoop.step_tick rfl) (by simp)
  rw [two_eq_both]
  exact ⟨_, ((Lts.Run.single h₁).snoc h₂).snoc h₃⟩

/-- Node 9 hears the beacon. -/
theorem exists_hearing : ∃ ls, Lts.Run RadioNet.Step two ls (both sender₃ hearer₂) := by
  obtain ⟨ls, hrun⟩ := exists_sending
  have h₁ : (both sender₃ (Samples.boot 9)).Step (1, .tick _) (both sender₃ hearer₁) :=
    step_second (SimLoop.step_tick rfl) (by simp)
  have h₂ : (both sender₃ hearer₁).Step (1, .decode (.ok beaconBytes 0.0) noon)
      (both sender₃ hearer₂) := by
    refine step_second (SimLoop.step_decode (by decide +kernel)) fun payload bins clock he => ?_
    obtain ⟨hr, -⟩ := LoopEvent.decode.inj he
    rw [← (StreamDecodeResult.ok.inj hr).1]
    have hmem : (TxSite.beacon, (Tx.new 11).modulate beaconBytes) ∈ aired sender₃.calls := by
      rw [sender_airs]
      exact List.mem_cons_of_mem _ List.mem_cons_self
    exact ⟨0, _, onAir_first _ _ hmem⟩
  exact ⟨_, (hrun.snoc h₁).snoc h₂⟩

/-- Node 9 hears the text. -/
theorem step_hearing : (both sender₃ hearer₂).Step (1, .decode (.ok (hi 3).toBytes 0.0) noon)
    (both sender₃ hearer₃) := by
  refine step_second (SimLoop.step_decode (by decide +kernel)) fun payload bins clock he => ?_
  obtain ⟨hr, -⟩ := LoopEvent.decode.inj he
  rw [← (StreamDecodeResult.ok.inj hr).1]
  have hmem : (TxSite.manual "hi", (Tx.new 11).modulate (hi 3).toBytes) ∈ aired sender₃.calls := by
    rw [sender_airs]
    exact List.mem_cons_self
  exact ⟨0, _, onAir_first _ _ hmem⟩

end Samples

namespace RadioNet

open Samples

/-- What node 1 transmits is its own. -/
theorem transmissions_traced_sample : ∃ ls : List (Fin 2 × LoopEvent),
    Lts.Run Step two ls (both sender₃ (Samples.boot 9)) ∧ (aired sender₃.calls).length = 2 ∧
    ∀ j x, x ∈ aired (both sender₃ (Samples.boot 9) j).calls → ∃ i before site frame relays,
      Original twoIds noUsrp noDevice ls (both sender₃ (Samples.boot 9)) i before site frame ∧
      Relayed twoIds (both sender₃ (Samples.boot 9)) i frame relays x.2.payload ∧
      ((relays = [] ∧ j = i ∧ x.1 = site) ∨ relays.getLast? = some j) := by
  obtain ⟨ls, hrun⟩ := exists_sending
  exact ⟨ls, hrun, congrArg List.length sender_airs, transmissions_traced hrun⟩

end RadioNet

/-! ## What is delivered -/

section

variable [Prost]

/-- The generated code reads back the messages that the program writes, and tells their two
    kinds apart. -/
structure ReadsBack : Prop where
  text : ∀ text, (Prost.encodeData (MeshNode.textData text)).length ≤ maxPayload →
    Prost.decodeData (Prost.encodeData (MeshNode.textData text)) = .ok (MeshNode.textData text)
  user : ∀ c : Console, (Prost.encodeData (User.encodeToData c.user)).length ≤ maxPayload →
    Prost.decodeData (Prost.encodeData (User.encodeToData c.user)) =
        .ok (User.encodeToData c.user) ∧
      Prost.decodeUser (Prost.encodeUser c.user) = .ok c.user
  ports : Prost.textMessageApp ≠ Prost.nodeinfoApp

/-- Whatever a console says is read back if it fits. -/
theorem ReadsBack.data (h : ReadsBack) {c : Console} {site : TxSite} {data : Data}
    {toNode : UInt32} (hsaid : c.Says site data toNode)
    (hsize : (Prost.encodeData data).length ≤ maxPayload) :
    Prost.decodeData (Prost.encodeData data) = .ok data := by
  cases site with
  | beacon =>
    obtain ⟨rfl, -⟩ := hsaid
    exact (h.user c hsize).1
  | manual text =>
    obtain ⟨rfl, -⟩ := hsaid
    exact h.text text hsize
  | auto text =>
    obtain ⟨-, rfl, -⟩ := hsaid
    exact h.text text hsize
  | _ => exact hsaid.elim

variable [Aes256]

/-- A node on the sender's channel that takes in a built frame for itself reads what was built
    into it. -/
theorem MeshNode.message_of_buildFrame {a b : MeshNode} {random toNode : UInt32} {data : Data}
    {frame : MeshFrame} (hbuild : a.buildFrame random toNode data = some frame)
    (hcodec : Prost.decodeData (Prost.encodeData data) = .ok data) (hchan : b.channel = a.channel)
    {n : Nat} (hn : n < 8) {msg : MeshMessage}
    (h : message? (b.processRxFrame (frame.withHops n).toBytes).1 = some msg) :
    (toNode = b.nodeId ∨ toNode = broadcast) ∧ msg = {
      fromNode := a.nodeId, toNode, data, hopLimit := UInt8.ofNat n
      selfOrigin := a.nodeId == b.nodeId } := by
  have hchecked := checked_of_buildFrame hbuild hchan hn
  obtain ⟨-, hus, data', hdec, rfl⟩ := (message?_eq_some_iff hchecked).mp h
  rw [body_of_buildFrame hbuild hchan, hcodec] at hdec
  obtain rfl := Except.ok.inj hdec
  obtain ⟨-, rfl⟩ := buildFrame_eq_some_iff.mp hbuild
  exact ⟨hus, rfl⟩

end

namespace Samples

/-- The wire format of short messages is read back. -/
theorem readsBack : ReadsBack where
  text text hsize := by
    have hlen : ([0x08, 0x01] ++ field 0x12 (MeshNode.textData text).payload).length ≤
      maxPayload := hsize
    apply decodeData_encodeData
    simp only [List.length_append, length_field, maxPayload] at hlen
    omega
  user c hsize := by
    have hlen : ([0x08, 0x04] ++ field 0x12 (Prost.encodeUser c.user)).length ≤
      maxPayload := hsize
    have hshort : (Prost.encodeUser c.user).length < 256 := by
      simp only [List.length_append, length_field, maxPayload] at hlen
      omega
    exact ⟨decodeData_encodeData 4 _ hshort, decodeUser_encodeUser c.user hshort⟩
  ports := by decide

end Samples

namespace RadioNet

section

variable {ι : Type} [Arith] [Prost] [Aes256] [Features] [DecidableEq ι] {ids : ι → UInt32}
  {probed : ι → Bool} {uhdOpen : ι → Except String Unit} {ls : List (ι × LoopEvent)}
  {s t : RadioNet ι}

/-- The message was built into a frame that one of the loops made up: it names that loop as
    its sender, its contents and its destination are what the sender's console then said, and
    it is addressed to loop `i`. -/
def Sent (ids : ι → UInt32) (probed : ι → Bool) (uhdOpen : ι → Except String Unit)
    (ls : List (ι × LoopEvent)) (s : RadioNet ι) (i : ι)
    (msg : MeshMessage) : Prop :=
  ∃ j before site frame, Original ids probed uhdOpen ls s j before site frame ∧
    (Console.after (ids j) before).Says site msg.data msg.toNode ∧
    msg.fromNode = ids j ∧ (msg.toNode = ids i ∨ msg.toNode = broadcast) ∧
    msg.selfOrigin = (ids j == ids i) ∧ msg.hopLimit ≤ 3

/-- What was sent stays so in a longer run. -/
theorem sent_step (hrun : Lts.Run Step (boot ids probed uhdOpen) ls s) {l : ι × LoopEvent}
    (hstep : Step s l t) {i : ι} {msg : MeshMessage} (h : Sent ids probed uhdOpen ls s i msg) :
    Sent ids probed uhdOpen (ls ++ [l]) t i msg := by
  obtain ⟨j, before, site, frame, horig, hsent⟩ := h
  exact ⟨j, before, site, frame, original_step hrun hstep horig, hsent⟩

/-- What a loop delivers was sent. -/
theorem sent_of_message (hcodec : ReadsBack)
    (hrun : Lts.Run Step (boot ids probed uhdOpen) ls s) {i j : ι} {site : TxSite}
    {payload : List UInt8} (hair : s.OnAir j site payload) {sf : UInt8} {txAllowed : Bool}
    (hphase : (s i).phase = .rx sf txAllowed) {msg : MeshMessage}
    (hmsg : message? ((s i).node.processRxFrame payload).1 = some msg) :
    Sent ids probed uhdOpen ls s i msg := by
  obtain ⟨j, before, site, frame, relays, horig, hrel, -⟩ := traced_run hrun hair
  obtain ⟨hid, hchannel⟩ := node_of_decoding hrun hphase
  obtain ⟨random, data, hbuild, hsaid, -⟩ := horig.built
  have hsize := (buildFrame_eq_some_iff.mp hbuild).1
  -- what was decoded is the frame with the hops that its relays left
  rw [hrel.raw_eq] at hmsg
  obtain ⟨hus, rfl⟩ := MeshNode.message_of_buildFrame hbuild (hcodec.data hsaid hsize) hchannel
    (by omega) hmsg
  have hsender : (Console.after (ids j) before).node.nodeId = ids j :=
    Console.nodeId_after (ids j) before
  refine ⟨j, before, site, frame, horig, hsaid, hsender, hid ▸ hus, ?_, ?_⟩
  · simp only [hsender, hid]
  · rw [UInt8.le_iff_toNat_le, UInt8.toNat_ofNat', Nat.mod_eq_of_lt (by omega)]
    exact Nat.sub_le 3 relays.length

/-- In every run of a mesh, a message that a loop delivers was built into a frame that one of
    the loops made up and transmitted: the message names that loop as its sender, it says what
    the sender's console then said, a text in it was numbered by the sender or typed into it,
    and the message is addressed to the loop that delivers it. -/
theorem deliveries_traced (hcodec : ReadsBack)
    (hrun : Lts.Run Step (boot ids probed uhdOpen) ls s) {i : ι} {payload : List UInt8} {bins : F64}
    {clock : RxClock} (hstep : Step s (i, .decode (.ok payload bins) clock) t) {msg : MeshMessage}
    (hmsg : message? ((s i).node.processRxFrame payload).1 = some msg) :
    ∃ j before site frame, Original ids probed uhdOpen ls s j before site frame ∧
      (Console.after (ids j) before).Says site msg.data msg.toNode ∧
      (∀ text, site = .manual text → .sendText text ∈ commandsOf before) ∧
      msg.fromNode = ids j ∧ (msg.toNode = ids i ∨ msg.toNode = broadcast) ∧
      msg.selfOrigin = (ids j == ids i) ∧ msg.hopLimit ≤ 3 := by
  obtain ⟨j', site', hair⟩ := hstep.heard payload bins clock rfl
  obtain ⟨sf, txAllowed, hphase⟩ := SimLoop.phase_of_decode hstep.step
  obtain ⟨j, before, site, frame, horig, hsaid, hsent⟩ :=
    sent_of_message hcodec hrun hair hphase hmsg
  exact ⟨j, before, site, frame, horig, hsaid, horig.typed, hsent⟩

end

open Samples

/-- Node 9 delivers the text of node 1. -/
theorem deliveries_traced_sample : ∃ (ls : List (Fin 2 × LoopEvent)) (msg : MeshMessage),
    Lts.Run Step two ls (both sender₃ hearer₂) ∧
    message? (hearer₂.node.processRxFrame (hi 3).toBytes).1 = some msg ∧
    ∃ j before site frame,
      Original twoIds noUsrp noDevice ls (both sender₃ hearer₂) j before site frame ∧
      (Console.after (twoIds j) before).Says site msg.data msg.toNode ∧
      (∀ text, site = .manual text → .sendText text ∈ commandsOf before) ∧
      msg.fromNode = twoIds j ∧ (msg.toNode = twoIds 1 ∨ msg.toNode = broadcast) ∧
      msg.selfOrigin = (twoIds j == twoIds 1) ∧ msg.hopLimit ≤ 3 := by
  obtain ⟨ls, hrun⟩ := exists_hearing
  have hsome : (message? (hearer₂.node.processRxFrame (hi 3).toBytes).1).isSome := by
    decide +kernel
  obtain ⟨msg, hmsg⟩ := Option.isSome_iff_exists.mp hsome
  have hsecond : message? ((both sender₃ hearer₂ 1).node.processRxFrame (hi 3).toBytes).1 =
      some msg := by
    rw [both_second]
    exact hmsg
  exact ⟨ls, msg, hrun, hmsg, deliveries_traced readsBack hrun step_hearing hsecond⟩

end RadioNet

/-! ## What is known of the others -/

/-- An update puts in one entry. -/
theorem NeighbourTable.mem_all_update {self : NeighbourTable} {new info : NodeInfo}
    (h : info ∈ (self.update new).all) : info = new ∨ info ∈ self.all := by
  obtain ⟨⟨n, found⟩, hmem, rfl⟩ := List.mem_map.mp h
  rcases List.mem_cons.mp hmem with heq | hold
  · left
    cases heq
    rfl
  · exact .inr (List.mem_map.mpr ⟨_, (List.kerase_sublist _ _).subset hold, rfl⟩)

section

variable [Prost] [Aes256]

/-- A frame puts the introduction of its sender into the table, or nothing. -/
theorem MeshNode.mem_neighbours_processRxFrame {self : MeshNode} {raw : List UInt8}
    {info : NodeInfo} (h : info ∈ (self.processRxFrame raw).2.neighbours.all) :
    info ∈ self.neighbours.all ∨ ∃ n user, self.Introduces raw n user ∧ info = infoOf n user := by
  by_cases hintro : ∃ n user, self.Introduces raw n user
  · obtain ⟨n, user, hintro⟩ := hintro
    rw [processRxFrame_introduces hintro] at h
    rcases NeighbourTable.mem_all_update h with rfl | hold
    · exact .inr ⟨n, user, hintro, rfl⟩
    · exact .inl hold
  · -- nothing is introduced, so the three outcomes leave the table alone
    left
    cases hchecked : self.channel.checked raw with
    | none => rwa [processRxFrame_unchecked hchecked] at h
    | some frame =>
      by_cases hseen : frame.header.key ∈ self.dedup.entries
      · rwa [processRxFrame_seen hchecked hseen] at h
      · rw [processRxFrame_new hchecked hseen] at h
        by_cases hus : frame.header.forUs self.nodeId
        · simp only [hus, if_true, learned] at h
          cases huser : introduction (self.body frame) with
          | none => rwa [huser] at h
          | some user =>
            obtain ⟨data, hdata, hport, hdec⟩ := introduction_eq_some_iff.mp huser
            exact absurd ⟨_, user, frame, data, hchecked, hseen, rfl, hus, hdata, hport, hdec⟩
              hintro
        · simpa only [hus, if_false] using h

/-- What a built frame introduces is the console of its sender. -/
theorem introduces_of_says (hcodec : ReadsBack) {c : Console} {site : TxSite} {random : UInt32}
    {data : Data} {frame : MeshFrame} {b : MeshNode}
    (hbuild : c.node.buildFrame random frame.header.toNode data = some frame)
    (hsaid : c.Says site data frame.header.toNode) (hchan : b.channel = ChannelConfig.default)
    {m : Nat} (hm : m < 8) {n : UInt32} {user : User}
    (h : b.Introduces (frame.withHops m).toBytes n user) :
    site = .beacon ∧ n = c.nodeId ∧ user = c.user := by
  obtain ⟨heard, data', hheard, -, rfl, -, hdec, hport, huser⟩ := h
  -- what is heard is that frame, and its body is what the console said
  rw [checked_of_buildFrame hbuild hchan hm] at hheard
  obtain rfl := Option.some.inj hheard
  have hsize := (buildFrame_eq_some_iff.mp hbuild).1
  rw [body_of_buildFrame hbuild hchan, hcodec.data hsaid hsize] at hdec
  obtain rfl := Except.ok.inj hdec
  have hfrom : (frame.withHops m).header.fromNode = c.nodeId := by
    rw [(buildFrame_eq_some_iff.mp hbuild).2]
    rfl
  cases site with
  | beacon =>
    obtain ⟨rfl, -⟩ := hsaid
    rw [Data.decodeUser, User.encodeToData, (hcodec.user c hsize).2] at huser
    exact ⟨rfl, hfrom, (Except.ok.inj huser).symm⟩
  -- a text does not go to the port of introductions
  | manual text =>
    obtain ⟨rfl, -⟩ := hsaid
    exact absurd hport hcodec.ports
  | auto text =>
    obtain ⟨-, rfl, -⟩ := hsaid
    exact absurd hport hcodec.ports
  | _ => exact hsaid.elim

end

/-- An iteration keeps the node or replaces it by a fresh one. -/
theorem Core.tick_node [Prost] (c : Core) (commands : List Command) :
    (c.tick commands).node = c.node ∨ ∃ nodeId nodeShort nodeLong, (c.tick commands).node =
      MeshNode.withId ChannelConfig.default nodeId nodeShort nodeLong := by
  -- commands alone make no node
  have hcommands : (commands.foldl apply c).node = c.node := by
    induction commands generalizing c with
    | nil => rfl
    | cons cmd commands ih =>
      refine (ih _).trans ?_
      cases cmd <;> rfl
  unfold tick rebuild
  simp only
  split
  · split
    · exact .inr ⟨_, _, _, rfl⟩
    · exact .inl hcommands
  · exact .inl hcommands

namespace RadioNet

section

variable {ι : Type} [Arith] [Prost] [Aes256] [Features] [DecidableEq ι] {ids : ι → UInt32}
  {probed : ι → Bool} {uhdOpen : ι → Except String Unit} {ls : List (ι × LoopEvent)}
  {s t : RadioNet ι}

/-- Some loop has introduced itself so in a beacon. -/
def Known (ids : ι → UInt32) (probed : ι → Bool) (uhdOpen : ι → Except String Unit)
    (ls : List (ι × LoopEvent)) (s : RadioNet ι) (info : NodeInfo) : Prop :=
  ∃ j before frame, Original ids probed uhdOpen ls s j before .beacon frame ∧ info = {
    nodeId := ids j
    shortName := (Console.after (ids j) before).nodeShort
    longName := (Console.after (ids j) before).nodeLong
    lastRssi := none }

/-- An introduction stays one in a longer run. -/
theorem known_step (hrun : Lts.Run Step (boot ids probed uhdOpen) ls s) {l : ι × LoopEvent}
    (hstep : Step s l t) {info : NodeInfo} (h : Known ids probed uhdOpen ls s info) :
    Known ids probed uhdOpen (ls ++ [l]) t info := by
  obtain ⟨j, before, frame, horig, hinfo⟩ := h
  exact ⟨j, before, frame, original_step hrun hstep horig, hinfo⟩

/-- A loop learns of a neighbour from a beacon that is on the air. -/
theorem known_of_introduces (hcodec : ReadsBack)
    (hrun : Lts.Run Step (boot ids probed uhdOpen) ls s) {j : ι} {site : TxSite} {raw : List UInt8}
    (hair : s.OnAir j site raw) {node : MeshNode} (hchannel : node.channel = ChannelConfig.default)
    {n : UInt32} {user : User} (h : node.Introduces raw n user) :
    Known ids probed uhdOpen ls s (MeshNode.infoOf n user) := by
  obtain ⟨i, before, site₀, frame, relays, horig, hrel, -⟩ := traced_run hrun hair
  obtain ⟨random, data, hbuild, hsaid, -⟩ := horig.built
  rw [hrel.raw_eq] at h
  obtain ⟨rfl, rfl, rfl⟩ := introduces_of_says hcodec hbuild hsaid hchannel (by omega) h
  refine ⟨i, before, frame, horig, ?_⟩
  rw [Console.nodeId_after]
  rfl

/-- The neighbours of a node introduced themselves. -/
theorem known_run (hcodec : ReadsBack) (hrun : Lts.Run Step (boot ids probed uhdOpen) ls s) {i : ι}
    {info : NodeInfo} (h : info ∈ (s i).node.neighbours.all) :
    Known ids probed uhdOpen ls s info := by
  -- by induction on the run; a node that is made anew knows nobody
  induction hrun generalizing i info with
  | nil =>
    have hnode : (boot ids probed uhdOpen i).node = _ :=
      congrArg Core.node (SimLoop.core_start (ids i) (probed i) (uhdOpen i))
    rw [hnode] at h
    exact absurd h List.not_mem_nil
  | @snoc ls s t l hrun hstep ih =>
    have hold : ∀ {i info}, info ∈ (s i).node.neighbours.all →
        Known ids probed uhdOpen (ls ++ [l]) t info :=
      fun hmem => known_step hrun hstep (ih hmem)
    by_cases hi : i = l.1
    · subst hi
      rcases SimLoop.step_cases hstep.step with ⟨inp, -, -, ht⟩ |
        ⟨sf, txAllowed, r, clock, he, hphase, ht⟩
      · have hnode : (t l.1).node = ((s l.1).core.tick inp.commands).node := by
          rw [ht]
          exact congrArg Core.node (SimLoop.core_tick (s l.1) inp)
        rw [hnode] at h
        rcases Core.tick_node (s l.1).core inp.commands with hsame | ⟨_, _, _, hfresh⟩
        · rw [hsame] at h
          exact hold h
        · rw [hfresh] at h
          exact absurd h List.not_mem_nil
      · have hcore := SimLoop.core_decode (s l.1) sf txAllowed clock r
        rw [← ht] at hcore
        have hnode : (t l.1).node = _ := congrArg Core.node hcore
        rw [hnode] at h
        cases r with
        | ok payload bins =>
          rcases MeshNode.mem_neighbours_processRxFrame h with hmem | ⟨n, user, hintro, rfl⟩
          · exact hold hmem
          · -- introduced by what was just heard, which some loop transmitted
            obtain ⟨j, site, hair⟩ := hstep.heard payload bins clock he
            exact known_step hrun hstep (known_of_introduces hcodec hrun hair
              (node_of_decoding hrun hphase).2 hintro)
        | _ => exact hold h
    · rw [hstep.others i hi] at h
      exact hold h

/-! ## What is on display -/

/-- A received line in the log of loop `i` shows a message that was sent to it. -/
def Shows (ids : ι → UInt32) (probed : ι → Bool) (uhdOpen : ι → Except String Unit)
    (ls : List (ι × LoopEvent)) (s : RadioNet ι) (i : ι)
    (entry : LogEntry) : Prop :=
  ∃ msg offHz, Sent ids probed uhdOpen ls s i msg ∧
    entry.text = SimLoop.messageLabel msg.data offHz ∧
    entry.fromId = some msg.fromNode ∧ entry.hops = some msg.hopLimit ∧
    entry.selfOrigin = msg.selfOrigin

/-- A received line that a step adds shows a message that was sent. -/
theorem shows_of_due (hcodec : ReadsBack) (hrun : Lts.Run Step (boot ids probed uhdOpen) ls s)
    {l : ι × LoopEvent} (hstep : Step s l t) {a : Act} (hdue : a.Due (s l.1) l.2 (t l.1))
    {entry : LogEntry} (hline : a.line = some entry) (hdir : entry.dir = .rx) :
    Shows ids probed uhdOpen ls s l.1 entry := by
  cases a with
  -- only a delivery writes a received line, and the decode loop makes it
  | delivered now text fromId hops selfOrigin =>
    obtain rfl := Option.some.inj hline
    cases he : l.2 with
    | tick inp =>
      rw [he] at hdue
      exact hdue.elim
    | decode r clock =>
      rw [he] at hdue
      obtain ⟨sf, txAllowed, hphase, payload, bins, msg, rfl, hmsg, -, rfl, rfl, rfl, rfl⟩ := hdue
      obtain ⟨j, site, hair⟩ := hstep.heard payload bins clock he
      exact ⟨msg, _, sent_of_message hcodec hrun hair hphase hmsg, rfl, rfl, rfl, rfl⟩
  | beaconed iq => exact nomatch hline
  | refreshed neighbours => exact nomatch hline
  | _ =>
    obtain rfl := Option.some.inj hline
    exact nomatch hdir

/-- A listing of the neighbours that a step does shows nodes that introduced themselves. -/
theorem known_of_due (hcodec : ReadsBack) (hrun : Lts.Run Step (boot ids probed uhdOpen) ls s)
    {l : ι × LoopEvent} (hstep : Step s l t) {a : Act} (hdue : a.Due (s l.1) l.2 (t l.1))
    {lines : List String} (hlisting : a.listing = some lines) {line : String} (h : line ∈ lines) :
    ∃ info, Known ids probed uhdOpen (ls ++ [l]) t info ∧ line = SimLoop.neighbourLine info := by
  cases a with
  -- the list on display is the node's
  | refreshed neighbours =>
    obtain rfl := Option.some.inj hlisting
    cases he : l.2 with
    | tick inp =>
      rw [he] at hdue
      rw [show neighbours = _ from hdue] at h
      obtain ⟨info, hmem, rfl⟩ := List.mem_map.mp h
      exact ⟨info, known_run hcodec (hrun.snoc hstep) hmem, rfl⟩
    | decode r clock =>
      rw [he] at hdue
      obtain ⟨_, _, -, hheard⟩ := hdue
      exact hheard.elim
  | _ => exact nomatch hlisting

/-- In every run of a mesh, each received line in the log of a loop shows a message that one of
    the loops sent to it, and each line of its list of neighbours the name under which one of
    the loops introduced itself in a beacon. -/
theorem display_traced (hcodec : ReadsBack) (hrun : Lts.Run Step (boot ids probed uhdOpen) ls s)
    (i : ι) :
    (∀ entry ∈ (s i).vm.log, entry.dir = .rx → Shows ids probed uhdOpen ls s i entry) ∧
      ∀ line ∈ (s i).vm.neighbours, ∃ info, Known ids probed uhdOpen ls s info ∧
        line = SimLoop.neighbourLine info := by
  induction hrun generalizing i with
  | nil =>
    obtain ⟨-, hlog, -, -, hneighbours⟩ :=
      SimLoop.explains_start (ids i) (probed i) (uhdOpen i)
    constructor
    · intro entry hmem
      rw [boot, hlog] at hmem
      exact absurd hmem List.not_mem_nil
    · intro line hmem
      rw [boot, hneighbours] at hmem
      exact absurd hmem List.not_mem_nil
  | @snoc ls s t l hrun hstep ih =>
    -- what was on display stays traced
    have hold : (∀ entry ∈ (s i).vm.log, entry.dir = .rx →
          Shows ids probed uhdOpen (ls ++ [l]) t i entry) ∧
        ∀ line ∈ (s i).vm.neighbours, ∃ info, Known ids probed uhdOpen (ls ++ [l]) t info ∧
          line = SimLoop.neighbourLine info := by
      obtain ⟨hlog, hneighbours⟩ := ih i
      constructor
      · intro entry hmem hdir
        obtain ⟨msg, offHz, hsent, hshown⟩ := hlog entry hmem hdir
        exact ⟨msg, offHz, sent_step hrun hstep hsent, hshown⟩
      · intro line hmem
        obtain ⟨info, hknown, hline⟩ := hneighbours line hmem
        exact ⟨info, known_step hrun hstep hknown, hline⟩
    by_cases hi : i = l.1
    · subst hi
      obtain ⟨acts, -, hdoes, hdue⟩ := SimLoop.exists_accounts hstep.step
      constructor
      · intro entry hmem hdir
        rw [hdoes.log] at hmem
        rcases Fifo.mem_of_mem_foldl_push hmem with hmem | hnew
        · exact hold.1 entry (SimLoop.mem_log_drainCommands hmem) hdir
        · obtain ⟨a, ha, hline⟩ := List.mem_filterMap.mp hnew
          obtain ⟨msg, offHz, hsent, hshown⟩ :=
            shows_of_due hcodec hrun hstep (hdue a ha) hline hdir
          exact ⟨msg, offHz, sent_step hrun hstep hsent, hshown⟩
      · intro line hmem
        rw [hdoes.neighbours, SimLoop.neighbours_drainCommands] at hmem
        cases hlast : (acts.filterMap Act.listing).getLast? with
        | none =>
          rw [hlast] at hmem
          exact hold.2 line hmem
        | some lines =>
          rw [hlast] at hmem
          obtain ⟨a, ha, hlisting⟩ := List.mem_filterMap.mp (List.mem_of_getLast? hlast)
          exact known_of_due hcodec hrun hstep (hdue a ha) hlisting hmem
    · rw [hstep.others i hi]
      exact hold

end

open Samples

/-- Node 9 shows the text of node 1 in its log, and node 1 in its list of neighbours. -/
theorem display_traced_sample : ∃ ls : List (Fin 2 × LoopEvent),
    Lts.Run Step two ls (both sender₃ hearer₅) ∧
    hearer₅.vm.log.map LogEntry.dir = [.rx, .rx] ∧
    hearer₅.vm.neighbours = ["TERM (!00000001)"] ∧
    ∀ i, (∀ entry ∈ (both sender₃ hearer₅ i).vm.log, entry.dir = .rx →
        Shows twoIds noUsrp noDevice ls (both sender₃ hearer₅) i entry) ∧
      ∀ line ∈ (both sender₃ hearer₅ i).vm.neighbours, ∃ info,
        Known twoIds noUsrp noDevice ls (both sender₃ hearer₅) info ∧
        line = SimLoop.neighbourLine info := by
  obtain ⟨ls, hrun⟩ := exists_hearing
  -- after the beacon node 9 hears the text, and lists its neighbours in its next iteration
  have h₃ := hrun.snoc step_hearing
  have h₄ : (both sender₃ hearer₃).Step (1, .decode .none noon) (both sender₃ hearer₄) :=
    step_second (SimLoop.step_decode (by decide +kernel)) (by simp)
  have h₅ : (both sender₃ hearer₄).Step (1, .tick _) (both sender₃ hearer₅) :=
    step_second (SimLoop.step_tick rfl) (by simp)
  have hall := (h₃.snoc h₄).snoc h₅
  exact ⟨_, hall, by decide +kernel, by decide +kernel, display_traced readsBack hall⟩

end RadioNet

end Mesh
