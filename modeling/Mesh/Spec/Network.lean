import Mathlib.Data.Multiset.Replicate
import Mesh.ForStd.Lts
import Mesh.Spec.AppCorrect

/-!
# A mesh of nodes

Nodes inject frames with `buildFrame` and answer what they hear with the frame
`processRxFrame` hands back. The medium puts any finite number of copies of each
transmission in flight, any node may hear any copy at any later time, and any
copy may get lost: so it loses, delays, reorders and duplicates, and every run
over a given topology, also a changing one, is a run here.

`Packet.origin` and `Packet.relays` are observations; no node reads them.

## Key results

- `Net.run_nodes`: nodes keep identity, cipher and channel
- `Net.run_sound`: what a byte string in flight looks like
- `Net.flood_safe`: hop limits, relays and termination
-/

namespace Mesh

/-- A byte string in flight, the frame it started as, and the nodes that relayed it
    since. -/
structure Packet (ι : Type) where
  raw : List UInt8
  origin : MeshFrame
  relays : List ι
deriving DecidableEq

/-- The nodes and everything in flight. -/
structure Net (ι : Type) where
  nodes : ι → MeshNode
  air : Multiset (Packet ι)

variable {ι : Type}

/-- The copies of a transmission. -/
def Packet.copies (p : Option (Packet ι)) (n : Nat) : Multiset (Packet ι) :=
  p.elim 0 (Multiset.replicate n)

/-- The medium copies packets as they are. -/
theorem Packet.mem_copies {p : Option (Packet ι)} {n : Nat} {q : Packet ι}
    (h : q ∈ Packet.copies p n) : p = some q := by
  cases p with
  | none => exact absurd h (Multiset.notMem_zero q)
  | some p => rw [Multiset.eq_of_mem_replicate h]

section

variable [Prost]

/-- What happens next in the mesh. -/
inductive NetEvent (ι : Type)
  /-- Node `i` builds `frame`, of which `copies` get into the air. -/
  | inject (i : ι) (frame : MeshFrame) (copies : Nat)
  /-- Node `i` hears a packet; `copies` of what it transmits get into the air. -/
  | receive (i : ι) (packet : Packet ι) (result : RxResult) (copies : Nat)
  | lose (packet : Packet ι)

/-- The key of the frame injected or heard. -/
def NetEvent.key? : NetEvent ι → Option Key
  | inject _ frame _ => some frame.header.key
  | receive _ p _ _ => (MeshFrame.fromBytes p.raw).map (·.header.key)
  | lose _ => none

/-- The keys that occur in a run. -/
def Net.keysOf (es : List (NetEvent ι)) : List Key := es.filterMap NetEvent.key?

/-- The event is not an injection. -/
def NetEvent.quiet : NetEvent ι → Prop
  | inject _ _ _ => False
  | receive _ _ _ _ => True
  | lose _ => True

/-- What node `i` transmits after it heard `p`. -/
def Packet.relayed (p : Packet ι) (i : ι) (result : RxResult) : Option (Packet ι) :=
  (forward? result).map fun fwd =>
    { raw := fwd.toBytes, origin := p.origin, relays := p.relays ++ [i] }

namespace Net

variable [Aes256]

/-! ## What is in flight -/

/-- `p` started as a frame injected during the run and is still that frame but for a
    hop limit lowered by one for each relay, none of which is the frame's sender. -/
structure Sound (start : Net ι) (es : List (NetEvent ι)) (p : Packet ι) : Prop where
  injected : ∃ i copies, .inject i p.origin copies ∈ es ∧
    ∃ random toNode data, (start.nodes i).buildFrame random toNode data = some p.origin
  length_le : p.relays.length ≤ 3
  raw_eq : p.raw = (p.origin.withHops (3 - p.relays.length)).toBytes
  foreign : ∀ i ∈ p.relays, (start.nodes i).nodeId ≠ p.origin.header.fromNode

namespace Sound

variable {start : Net ι} {es : List (NetEvent ι)} {p : Packet ι}

/-- What a packet says about the run so far holds of a longer run. -/
theorem mono (h : Sound start es p) (e : NetEvent ι) : Sound start (es ++ [e]) p := by
  obtain ⟨i, copies, hmem, hbuild⟩ := h.injected
  exact { h with injected := ⟨i, copies, List.mem_append_left _ hmem, hbuild⟩ }

/-- A frame as injected. -/
theorem of_inject {i : ι} {random toNode : UInt32} {data : Data} {frame : MeshFrame} {copies : Nat}
    (hmem : .inject i frame copies ∈ es)
    (h : (start.nodes i).buildFrame random toNode data = some frame) :
    Sound start es ⟨frame.toBytes, frame, []⟩ where
  injected := ⟨i, copies, hmem, random, toNode, data, h⟩
  length_le := Nat.zero_le 3
  raw_eq := by
    rw [(buildFrame_eq_some_iff.mp h).2]
    rfl
  foreign := fun i hi => absurd hi List.not_mem_nil

/-- One more relay. -/
theorem of_relayed (h : Sound start es p) {i : ι} {node : MeshNode} {q : Packet ι}
    (hid : node.nodeId = (start.nodes i).nodeId)
    (hq : p.relayed i (node.processRxFrame p.raw).1 = some q) : Sound start es q := by
  obtain ⟨fwd, hfwd, rfl⟩ := Option.map_eq_some_iff.mp hq
  obtain ⟨frame, hchk, ⟨-, hhop, hfar⟩, rfl⟩ := MeshNode.relayable_of_forward? hfwd
  obtain ⟨j, copies, hmem, random, toNode, data, hbuild⟩ := h.injected
  have hlen := h.length_le
  -- the node decoded the frame it was sent, whose hop fields are in range
  have hframe : frame = p.origin.withHops (3 - p.relays.length) := by
    have hraw := (ChannelConfig.checked_eq_some_iff.mp hchk).1
    rw [h.raw_eq, MeshFrame.fromBytes_toBytes_of_inRange
      (MeshFrame.inRange_withHops (inRange_of_buildFrame hbuild).2 (by omega))] at hraw
    exact (Option.some.inj hraw).symm
  -- so a hop was left for this relay
  have hpos : 0 < 3 - p.relays.length := by
    by_contra hzero
    rw [hframe, show 3 - p.relays.length = 0 by omega] at hhop
    exact hhop rfl
  refine ⟨⟨j, copies, hmem, random, toNode, data, hbuild⟩, ?_, ?_, ?_⟩
  · simp only [List.length_append, List.length_singleton]
    omega
  · simp only [hframe, List.length_append, List.length_singleton]
    rw [MeshFrame.fwd_withHops _ hpos, Nat.sub_sub]
  · intro k hk
    rcases List.mem_append.mp hk with hk | hk
    · exact h.foreign k hk
    · -- the last relay: `processRxFrame` hands nothing of its own back
      rw [List.mem_singleton.mp hk, ← hid]
      rw [hframe] at hfar
      exact hfar.symm

end Sound

/-- Hops left on the air. -/
def hopsLeft (p : Packet ι) : Nat :=
  (MeshFrame.fromBytes p.raw).elim 0 (·.header.hopLimit.toNat)

/-- A relay takes a hop. -/
theorem hopsLeft_relayed {p q : Packet ι} {i : ι} {node : MeshNode}
    (h : p.relayed i (node.processRxFrame p.raw).1 = some q) : hopsLeft q < hopsLeft p := by
  obtain ⟨fwd, hrx, rfl⟩ := Option.map_eq_some_iff.mp h
  obtain ⟨frame, hchk, ⟨-, hhop, -⟩, rfl⟩ := MeshNode.relayable_of_forward? hrx
  have hraw := (ChannelConfig.checked_eq_some_iff.mp hchk).1
  have hr := MeshFrame.inRange_of_fromBytes hraw
  have hne : frame.header.hopLimit.toNat ≠ 0 := fun h0 => hhop (UInt8.toNat_inj.mp h0)
  have hfwd := MeshFrame.fromBytes_toBytes_of_inRange (MeshFrame.inRange_fwd hr hhop)
  rw [hopsLeft, hopsLeft, hraw, hfwd]
  -- no wrap: `route` hands nothing back at hop limit zero
  change (frame.header.hopLimit - 1).toNat < frame.header.hopLimit.toNat
  rw [toNat_sub_one hhop]
  omega

/-! ## Steps -/

variable [DecidableEq ι]

/-- One event of the mesh. -/
inductive Step : Net ι → NetEvent ι → Net ι → Prop
  | inject {s : Net ι} {i : ι} {random toNode : UInt32} {data : Data} {frame : MeshFrame}
      (copies : Nat) (h : (s.nodes i).buildFrame random toNode data = some frame) :
      Step s (.inject i frame copies)
        { s with
          air := s.air + Packet.copies (some ⟨frame.toBytes, frame, []⟩) copies }
  | receive {s : Net ι} {p : Packet ι} {rest : Multiset (Packet ι)} (i : ι) (copies : Nat)
      (h : s.air = p ::ₘ rest) :
      Step s (.receive i p ((s.nodes i).processRxFrame p.raw).1 copies)
        { nodes := Function.update s.nodes i ((s.nodes i).processRxFrame p.raw).2
          air := rest + Packet.copies
            (p.relayed i ((s.nodes i).processRxFrame p.raw).1) copies }
  | lose {s : Net ι} {p : Packet ι} {rest : Multiset (Packet ι)} (h : s.air = p ::ₘ rest) :
      Step s (.lose p) { s with air := rest }

/-! ## Identities -/

/-- Whatever happens, a node changes in its cache and neighbour table only. -/
theorem run_nodes {s t : Net ι} {es : List (NetEvent ι)} (h : Lts.Run Step s es t) (i : ι) :
    ∃ dedup neighbours, t.nodes i = { s.nodes i with dedup, neighbours } := by
  refine h.invariant (I := fun t => ∃ dedup neighbours,
    t.nodes i = { s.nodes i with dedup, neighbours }) ⟨_, _, rfl⟩ ?_
  intro a e b ⟨dedup, neighbours, ha⟩ hstep
  cases hstep with
  | inject copies h => exact ⟨dedup, neighbours, ha⟩
  | lose h => exact ⟨dedup, neighbours, ha⟩
  -- only the node that receives a packet changes
  | @receive p rest j copies h =>
    by_cases hij : i = j
    · subst hij
      obtain ⟨dedup', neighbours', hrx⟩ := (a.nodes i).processRxFrame_snd p.raw
      refine ⟨dedup', neighbours', ?_⟩
      simp only [Function.update_self, hrx]
      simp only [ha]
    · refine ⟨dedup, neighbours, ?_⟩
      simp only [Function.update_of_ne hij, ha]

/-- No run changes a node id. -/
theorem nodeId_of_run {s t : Net ι} {es : List (NetEvent ι)} (h : Lts.Run Step s es t) (i : ι) :
    (t.nodes i).nodeId = (s.nodes i).nodeId := by
  obtain ⟨dedup, neighbours, hi⟩ := run_nodes h i
  rw [hi]
  rfl

/-- What a node builds does not depend on what it has heard. -/
theorem buildFrame_of_run {s t : Net ι} {es : List (NetEvent ι)} (h : Lts.Run Step s es t) (i : ι)
    (random toNode : UInt32) (data : Data) :
    (t.nodes i).buildFrame random toNode data = (s.nodes i).buildFrame random toNode data := by
  obtain ⟨dedup, neighbours, hi⟩ := run_nodes h i
  rw [hi]
  rfl

/-! ## Runs -/

/-- Every byte string in flight is sound. -/
theorem run_sound {start t : Net ι} {es : List (NetEvent ι)} (hair : start.air = 0)
    (hrun : Lts.Run Step start es t) : ∀ p ∈ t.air, Sound start es p := by
  induction hrun with
  | nil =>
    intro p hp
    rw [hair] at hp
    exact absurd hp (Multiset.notMem_zero p)
  | @snoc es t u e hrun hstep ih =>
    have hid := fun i => nodeId_of_run hrun i
    have hbuild := fun i => buildFrame_of_run hrun i
    intro p hp
    cases hstep with
    | @inject i random toNode data frame copies h =>
      rcases Multiset.mem_add.mp hp with hp | hp
      · exact (ih p hp).mono _
      · -- a copy of the new frame; its sender's identity is the one it started with
        obtain rfl := Option.some.inj (Packet.mem_copies hp)
        rw [hbuild] at h
        exact Sound.of_inject (List.mem_append_right _ (List.mem_singleton.mpr rfl)) h
    | @receive q rest i copies h =>
      rcases Multiset.mem_add.mp hp with hp | hp
      · exact (ih p (h ▸ Multiset.mem_cons_of_mem hp)).mono _
      · -- a copy of what node `i` made of `q`
        have hq := ih q (h ▸ Multiset.mem_cons_self q rest)
        exact (hq.of_relayed (hid i) (Packet.mem_copies hp)).mono _
    | lose h => exact (ih p (h ▸ Multiset.mem_cons_of_mem hp)).mono _

/-- A step that is no injection takes one packet out of the air and puts finitely many
    with fewer hops left back. -/
theorem step_hopsLeft {s t : Net ι} {e : NetEvent ι} (hstep : Step s e t) (hquiet : e.quiet) :
    ∃ (rest new : Multiset (Packet ι)) (p : Packet ι), s.air = p ::ₘ rest ∧ t.air = rest + new ∧
      ∀ q ∈ new, hopsLeft q < hopsLeft p := by
  cases hstep with
  | inject copies h => exact hquiet.elim
  | @receive p rest i copies h =>
    exact ⟨rest, _, p, h, rfl, fun q hq => hopsLeft_relayed (Packet.mem_copies hq)⟩
  | @lose p rest h =>
    exact ⟨rest, 0, p, h, (add_zero rest).symm, fun q hq => absurd hq (Multiset.notMem_zero q)⟩

/-- In every run from an empty air, every byte string in flight is the `toBytes` of a
    frame `F` that was injected, but for the low three bits of byte 12, which hold
    `3 - k` after `k ≤ 3` relays, none of them by a node with the id of `F`'s sender.
    Whatever the nodes' caches hold, only finitely many steps follow the last injection. -/
theorem flood_safe (start : Net ι) (hair : start.air = 0) :
    (∀ es t, Lts.Run Step start es t → ∀ p ∈ t.air,
      (∃ i copies, .inject i p.origin copies ∈ es ∧
        ∃ random toNode data, (start.nodes i).buildFrame random toNode data = some p.origin) ∧
      p.relays.length ≤ 3 ∧
      p.raw = p.origin.toBytes.set 12
        ((p.origin.toBytes.getD 12 0 &&& 0xF8) ||| UInt8.ofNat (3 - p.relays.length)) ∧
      ∀ i ∈ p.relays, (start.nodes i).nodeId ≠ p.origin.header.fromNode) ∧
    ¬ ∃ run : Nat → Net ι, ∀ n, ∃ e : NetEvent ι, e.quiet ∧ Step (run n) e (run (n + 1)) := by
  constructor
  · intro es t hrun p hp
    have hsound := run_sound hair hrun p hp
    refine ⟨hsound.injected, hsound.length_le, ?_, hsound.foreign⟩
    rw [hsound.raw_eq, MeshFrame.toBytes_withHops _ (by omega)]
  · -- the hops left in the air are a multiset that every quiet step lowers
    exact @Lts.no_infinite_run _ _ (fun s t => ∃ e : NetEvent ι, e.quiet ∧ Step s e t)
      Net.air hopsLeft fun s t ⟨e, hquiet, hstep⟩ => step_hopsLeft hstep hquiet

end Net

end

/-- Two nodes, with ids 1 and 2. -/
def Samples.pair : Net (Fin 2) := ⟨fun i => Samples.node (if i = 0 then 1 else 2), 0⟩

/-- Node 1 sends "hi" and node 2 hears it; one copy of what it relays is in flight. -/
theorem Samples.run_pair :
    ∃ es t, Lts.Run (@Net.Step _ Samples.shortProst Samples.blockAes _) Samples.pair es t ∧
      @Net.keysOf _ Samples.shortProst es = [(1, 7), (1, 7)] ∧
      ⟨(Samples.hi 2).toBytes, Samples.hi 3, [1]⟩ ∈ t.air := by
  let p₀ : Packet (Fin 2) := ⟨(Samples.hi 3).toBytes, Samples.hi 3, []⟩
  let p₁ : Packet (Fin 2) := ⟨(Samples.hi 2).toBytes, Samples.hi 3, [1]⟩
  have hbuild : @MeshNode.buildFrame Samples.shortProst Samples.blockAes (Samples.pair.nodes 0) 7
      broadcast (@MeshNode.textData Samples.shortProst "hi") = some (Samples.hi 3) := by
    decide +kernel
  -- node 9 relays one copy with a hop less
  have hrelay : @Packet.relayed _ Samples.shortProst p₀ 1 (@MeshNode.processRxFrame
      Samples.shortProst Samples.blockAes (Samples.pair.nodes 1) p₀.raw).1 = some p₁ := by
    decide +kernel
  have hrun := (Lts.Run.single (@Net.Step.inject _ Samples.shortProst Samples.blockAes _
    Samples.pair 0 7 broadcast _ _ 1 hbuild)).snoc
    (@Net.Step.receive _ Samples.shortProst Samples.blockAes _ _ p₀ 0 1 1 (by rfl))
  have hair : p₁ ∈ (0 : Multiset (Packet (Fin 2))) + Packet.copies (some p₁) 1 :=
    Multiset.mem_add.mpr (.inr (Multiset.mem_replicate.mpr ⟨one_ne_zero, rfl⟩))
  rw [← hrelay] at hair
  exact ⟨_, _, hrun, rfl, hair⟩

/-- The relayed copy is the frame sent with a hop less. -/
theorem Net.flood_safe_sample :
    ∃ es t, Lts.Run (@Step _ Samples.shortProst Samples.blockAes _) Samples.pair es t ∧
      ∃ p ∈ t.air, p.relays = [1] ∧
        p.raw = p.origin.toBytes.set 12
          ((p.origin.toBytes.getD 12 0 &&& 0xF8) ||| UInt8.ofNat (3 - 1)) := by
  obtain ⟨es, t, hrun, -, hair⟩ := Samples.run_pair
  have hsafe := (@flood_safe _ Samples.shortProst Samples.blockAes _ Samples.pair rfl).1
    _ _ hrun _ hair
  exact ⟨es, t, hrun, _, hair, rfl, hsafe.2.2.1⟩

end Mesh
