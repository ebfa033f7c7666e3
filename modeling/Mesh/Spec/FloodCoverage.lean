import Mathlib.Algebra.BigOperators.Group.Finset.Basic
import Mathlib.Combinatorics.SimpleGraph.Finite
import Mesh.ForStd.Graph
import Mesh.Spec.DedupCorrect

/-!
# How far a flood reaches

One broadcast over a graph of nodes on one channel, with lossless links and in
rounds. Round `r` of the flood is round `r` of a breadth-first search
(`SimpleGraph.frontier`) as long as hops are left: a node that hears the packet
for the first time in round `r` lies in frontier `r + 1`, delivers it, and sends
it on in the next round unless the hops are used up.

## Key results

- `MeshNode.results_new`, `MeshNode.results_seen`: several copies heard in one round
- `Rounds.inv`: what was sent and what is in the caches after `r` rounds
- `Rounds.flood_coverage`: who delivers and who relays
-/

namespace Mesh

namespace Rounds

/-- The initial hop limit. -/
def hops (frame : MeshFrame) : Nat := frame.header.hopLimit.toNat

/-- What the senders of round `r` send: the packet with `r` hops used up. -/
def packet (raw : List UInt8) (frame : MeshFrame) : Nat → List UInt8
  | 0 => raw
  | r + 1 => (frame.withHops (hops frame - (r + 1))).toBytes

/-- The hop limit has three bits. -/
theorem hops_lt {raw : List UInt8} {frame : MeshFrame} (h : MeshFrame.fromBytes raw = some frame) :
    hops frame < 8 :=
  UInt8.lt_iff_toNat_lt.mp (MeshFrame.inRange_of_fromBytes h).1

/-- A frame has its own hops. -/
theorem withHops_hops (frame : MeshFrame) : frame.withHops (hops frame) = frame := by
  rw [MeshFrame.withHops, hops, UInt8.ofNat_toNat]

/-- Frontiers are distances. -/
private theorem mem_frontier_succ_iff {V : Type} {G : SimpleGraph V} {o v : V} {r : Nat} :
    v ∈ G.frontier o (r + 1) ↔ G.dist o v = r + 1 := by
  rw [SimpleGraph.frontier_eq_sphere, SimpleGraph.mem_sphere]
  constructor
  · exact And.right
  · intro hd
    -- unreachable vertices are at distance zero
    have hreach : G.Reachable o v := by
      by_contra hnot
      rw [SimpleGraph.dist_eq_zero_of_not_reachable hnot] at hd
      omega
    exact ⟨hreach, hd⟩

end Rounds

section

variable {V : Type} [Prost] [Aes256]

namespace MeshNode

variable {self : MeshNode} {raw : List UInt8} {frame : MeshFrame}

/-- What a node answers to a sequence of inputs. -/
def results (self : MeshNode) : List (List UInt8) → List RxResult
  | [] => []
  | raw :: rest => (self.processRxFrame raw).1 :: (self.processRxFrame raw).2.results rest

@[simp] theorem feed_nodeId (self : MeshNode) (inputs : List (List UInt8)) :
    (self.feed inputs).nodeId = self.nodeId := by
  induction inputs generalizing self with
  | nil => rfl
  | cons raw inputs ih =>
    rw [feed, List.foldl_cons]
    exact (ih _).trans (processRxFrame_nodeId self raw)

/-- Copies of a packet seen before. -/
theorem results_seen (h : self.channel.checked raw = some frame)
    (hseen : frame.header.key ∈ self.dedup.entries) (n : Nat) :
    self.results (List.replicate n raw) = List.replicate n (.ok (none, none)) ∧
      self.feed (List.replicate n raw) = self := by
  induction n with
  | zero => exact ⟨rfl, rfl⟩
  | succ n ih =>
    have hdrop := processRxFrame_seen h hseen
    rw [List.replicate_succ, results, feed, List.foldl_cons, hdrop]
    exact ⟨congrArg _ ih.1, ih.2⟩

/-- Copies of a new packet: the first counts, the others are duplicates of it. -/
theorem results_new (h : self.channel.checked raw = some frame) (n : Nat) :
    self.results (List.replicate (n + 1) raw) =
        (self.processRxFrame raw).1 :: List.replicate n (.ok (none, none)) ∧
      self.feed (List.replicate (n + 1) raw) = (self.processRxFrame raw).2 := by
  have hchan : (self.processRxFrame raw).2.channel.checked raw = some frame := by
    rw [processRxFrame_channel, h]
  -- the first copy enters the key in the cache
  have hseen : frame.header.key ∈ (self.processRxFrame raw).2.dedup.entries := by
    rw [processRxFrame_entries, h]
    exact Fifo.mem_insert_self _ _ _
  obtain ⟨hres, hfeed⟩ := results_seen hchan hseen n
  rw [List.replicate_succ, results, feed, List.foldl_cons]
  exact ⟨congrArg _ hres, hfeed⟩

end MeshNode

/-! ## Rounds -/

/-- A flood in rounds: in each round a node hears, in some order, all byte strings its
    neighbours sent, and sends in the next round what it hands back for them. -/
structure Rounds [DecidableEq V] (G : SimpleGraph V) [G.LocallyFinite] (start : V → MeshNode)
    (o : V) (raw : List UInt8) where
  nodes : Nat → V → MeshNode
  sent : Nat → V → List (List UInt8)
  heard : Nat → V → List (List UInt8)
  nodes_zero : nodes 0 = start
  sent_zero : sent 0 = fun v => if v = o then [raw] else []
  heard_perm : ∀ r v, (heard r v : Multiset (List UInt8)) =
    ∑ u ∈ G.neighborFinset v, (sent r u : Multiset (List UInt8))
  nodes_succ : ∀ r v, nodes (r + 1) v = (nodes r v).feed (heard r v)
  sent_succ : ∀ r v, sent (r + 1) v =
    (((nodes r v).results (heard r v)).filterMap forward?).map MeshFrame.toBytes

namespace Rounds

/-! ## One packet on one channel -/

/-- What a flood starts from: nodes with distinct ids on one channel, none of which knows
    the packet, and a decodable broadcast of that channel from the origin. -/
structure Fresh (start : V → MeshNode) (o : V) (raw : List UInt8) (channel : ChannelConfig)
    (frame : MeshFrame) (data : Data) : Prop where
  ids : Function.Injective fun v => (start v).nodeId
  channel_eq : ∀ v, (start v).channel = channel
  new : ∀ v, frame.header.key ∉ (start v).dedup.entries
  decoded : MeshFrame.fromBytes raw = some frame
  admitted : channel.admits frame.header
  fromNode_eq : frame.header.fromNode = (start o).nodeId
  toNode_eq : frame.header.toNode = broadcast
  body : Prost.decodeData (MeshCrypto.decrypt ⟨channel.psk⟩ frame.header.id frame.header.fromNode
    frame.payload) = .ok data

variable {start : V → MeshNode} {o : V} {raw : List UInt8} {channel : ChannelConfig}
  {frame : MeshFrame} {data : Data}

namespace Fresh

/-- Every node of the channel checks the packet in every round. -/
theorem checked (h : Fresh start o raw channel frame data) {node : MeshNode}
    (hchan : node.channel = channel) (r : Nat) :
    node.channel.checked (packet raw frame r) = some (frame.withHops (hops frame - r)) := by
  rw [hchan]
  cases r with
  | zero =>
    rw [Nat.sub_zero, withHops_hops]
    exact ChannelConfig.checked_eq_some_iff.mpr ⟨h.decoded, h.admitted⟩
  | succ r =>
    -- what a relay encoded is decoded as it was
    have hlt := hops_lt h.decoded
    exact ChannelConfig.checked_toBytes (MeshFrame.inRange_withHops
      (MeshFrame.inRange_of_fromBytes h.decoded).2 (by omega)) h.admitted

/-- A node that hears the packet for the first time, `r` hops used up, delivers it. -/
theorem processRxFrame_eq (h : Fresh start o raw channel frame data) {node : MeshNode}
    (hchan : node.channel = channel) (hnew : frame.header.key ∉ node.dedup.entries) (r : Nat) :
    (node.processRxFrame (packet raw frame r)).1 =
      .ok (some (node.messageOf (frame.withHops (hops frame - r)) data),
        node.forwardOf (frame.withHops (hops frame - r))) := by
  have hdec : Prost.decodeData (node.body (frame.withHops (hops frame - r))) = .ok data := by
    -- all nodes of the channel hold its key
    have hcrypto : node.crypto = ⟨channel.psk⟩ := by
      rw [← hchan, ← node.crypto_psk]
    rw [MeshNode.body, hcrypto]
    exact h.body
  have hus : (frame.withHops (hops frame - r)).header.forUs node.nodeId := .inr h.toNode_eq
  rw [MeshNode.processRxFrame_decodable (h.checked hchan r) hnew hdec, if_pos hus]

end Fresh

/-! ## A round -/

variable [DecidableEq V] {G : SimpleGraph V} [G.LocallyFinite]

/-- The messages node `v` delivers in round `r`. -/
def messages (run : Rounds G start o raw) (r : Nat) (v : V) : List MeshMessage :=
  ((run.nodes r v).results (run.heard r v)).filterMap message?

/-- If the senders of a round all send `pkt`, a node hears nothing but copies of it, and at
    least one if a neighbour is a sender. -/
theorem heard_eq_replicate (run : Rounds G start o raw) (r : Nat) (S : Set V) (pkt : List UInt8)
    (hsent : ∀ u, u ∈ S → run.sent r u = [pkt]) (hquiet : ∀ u, u ∉ S → run.sent r u = []) (v : V) :
    ∃ n, run.heard r v = List.replicate n pkt ∧ (n ≠ 0 ↔ ∃ u ∈ S, G.Adj u v) := by
  -- the order of arrival does not matter for what is heard
  have hmem : ∀ x, x ∈ run.heard r v ↔ ∃ u, G.Adj u v ∧ x ∈ run.sent r u := by
    intro x
    rw [← Multiset.mem_coe, run.heard_perm, Multiset.mem_sum]
    simp only [SimpleGraph.mem_neighborFinset, G.adj_comm v, Multiset.mem_coe]
  have hcopy : ∀ x ∈ run.heard r v, x = pkt := by
    intro x hx
    obtain ⟨u, -, hxu⟩ := (hmem x).mp hx
    by_cases hu : u ∈ S
    · rw [hsent u hu] at hxu
      exact List.mem_singleton.mp hxu
    · rw [hquiet u hu] at hxu
      exact absurd hxu List.not_mem_nil
  refine ⟨_, List.eq_replicate_of_mem hcopy, ?_⟩
  -- something is heard exactly if a neighbour sends
  rw [Ne, List.length_eq_zero_iff]
  constructor
  · intro hne
    obtain ⟨x, hx⟩ := List.exists_mem_of_ne_nil _ hne
    obtain ⟨u, hadj, hxu⟩ := (hmem x).mp hx
    have hu : u ∈ S := by
      by_contra hu
      rw [hquiet u hu] at hxu
      exact absurd hxu List.not_mem_nil
    exact ⟨u, hu, hadj⟩
  · rintro ⟨u, hu, hadj⟩
    have hx : pkt ∈ run.sent r u := hsent u hu ▸ List.mem_singleton_self _
    exact List.ne_nil_of_mem ((hmem pkt).mpr ⟨u, hadj, hx⟩)

/-! ## The invariant -/

/-- No round changes a node id. -/
theorem nodes_nodeId (run : Rounds G start o raw) (r : Nat) (v : V) :
    (run.nodes r v).nodeId = (start v).nodeId := by
  induction r with
  | zero => rw [run.nodes_zero]
  | succ r ih => rw [run.nodes_succ, MeshNode.feed_nodeId, ih]

/-- No round changes a channel. -/
theorem nodes_channel (run : Rounds G start o raw) (r : Nat) (v : V) :
    (run.nodes r v).channel = (start v).channel := by
  induction r with
  | zero => rw [run.nodes_zero]
  | succ r ih => rw [run.nodes_succ, MeshNode.feed_channel, ih]

/-- After `r` rounds: the senders are frontier `r` while hops are left, and the packet is in
    the caches of the frontiers before. -/
structure Inv (run : Rounds G start o raw) (frame : MeshFrame) (r : Nat) : Prop where
  sent_eq : r ≤ hops frame → ∀ v ∈ G.frontier o r, run.sent r v = [packet raw frame r]
  quiet : ∀ v, v ∉ G.frontier o r ∨ hops frame < r → run.sent r v = []
  seen : ∀ v, v ≠ o → (frame.header.key ∈ (run.nodes r v).dedup.entries ↔
    ∃ q ≤ r, q ≤ hops frame + 1 ∧ v ∈ G.frontier o q)

variable {run : Rounds G start o raw} {r : Nat} {v : V}

/-- At first only the origin has sent. -/
theorem inv_zero (h : Fresh start o raw channel frame data) : run.Inv frame 0 where
  sent_eq _ v hv := by
    rw [run.sent_zero]
    exact if_pos (SimpleGraph.mem_frontier_zero.mp hv)
  quiet v hv := by
    rw [run.sent_zero]
    refine if_neg fun ho => ?_
    exact hv.elim (fun hn => hn (SimpleGraph.mem_frontier_zero.mpr ho)) (by omega)
  seen v hv := by
    rw [run.nodes_zero]
    constructor
    · exact fun hk => absurd hk (h.new v)
    · rintro ⟨q, hq, -, hmem⟩
      obtain rfl : q = 0 := by omega
      exact absurd (SimpleGraph.mem_frontier_zero.mp hmem) hv

/-- A round after the last hop: nothing is heard. -/
theorem heard_late (hinv : run.Inv frame r) (hr : hops frame < r) (v : V) :
    run.heard r v = [] := by
  obtain ⟨n, hn, hne⟩ := run.heard_eq_replicate r ∅ raw
    (fun u hu => absurd hu (Set.notMem_empty u)) (fun u _ => hinv.quiet u (.inr hr)) v
  have hzero : n = 0 := by
    by_contra h
    obtain ⟨u, hu, -⟩ := hne.mp h
    exact absurd hu (Set.notMem_empty u)
  rw [hn, hzero, List.replicate_zero]

/-- A round with hops left: copies of the packet, from the frontier. -/
theorem heard_early (hinv : run.Inv frame r) (hr : r ≤ hops frame) (v : V) :
    ∃ n, run.heard r v = List.replicate n (packet raw frame r) ∧
      (n ≠ 0 ↔ ∃ u ∈ G.frontier o r, G.Adj u v) :=
  run.heard_eq_replicate r _ _ (hinv.sent_eq hr) (fun u hu => hinv.quiet u (.inl hu)) v

/-- The origin hands nothing back. -/
theorem origin_quiet (h : Fresh start o raw channel frame data) (hinv : run.Inv frame r)
    (hr : r ≤ hops frame) : run.sent (r + 1) o = [] := by
  have hchan : (run.nodes r o).channel = channel := by rw [run.nodes_channel, h.channel_eq]
  obtain ⟨n, hn, -⟩ := heard_early hinv hr o
  rw [run.sent_succ, hn]
  -- the first echo is new to the origin, which did not enter its own packet in the cache
  by_cases hseen : frame.header.key ∈ (run.nodes r o).dedup.entries
  · rw [(MeshNode.results_seen (h.checked hchan r) hseen n).1]
    simp [forward?]
  · cases n with
    | zero => rfl
    | succ n =>
      have hown : (run.nodes r o).forwardOf (frame.withHops (hops frame - r)) = none := by
        refine if_pos (.inr ?_)
        rw [run.nodes_nodeId]
        exact h.fromNode_eq
      rw [(MeshNode.results_new (h.checked hchan r) n).1, h.processRxFrame_eq hchan hseen, hown]
      simp [forward?]

/-- A node of frontier `r + 1` delivers the packet and hands it back if a hop is left. -/
theorem frontier_hears (h : Fresh start o raw channel frame data) (hinv : run.Inv frame r)
    (hr : r ≤ hops frame) (hv : v ∈ G.frontier o (r + 1)) :
    run.messages r v = [(start v).messageOf (frame.withHops (hops frame - r)) data] ∧
      run.sent (r + 1) v = (if r < hops frame then [packet raw frame (r + 1)] else []) ∧
      frame.header.key ∈ (run.nodes (r + 1) v).dedup.entries := by
  obtain ⟨hadj, hnot⟩ := SimpleGraph.mem_frontier_succ.mp hv
  have ho : v ≠ o := fun ho => hnot 0 (Nat.zero_le r) (SimpleGraph.mem_frontier_zero.mpr ho)
  -- the round before left the node on its channel
  have hchan : (run.nodes r v).channel = channel := by rw [run.nodes_channel, h.channel_eq]
  have hnew : frame.header.key ∉ (run.nodes r v).dedup.entries := by
    intro hk
    obtain ⟨q, hq, -, hmem⟩ := (hinv.seen v ho).mp hk
    exact hnot q hq hmem
  -- of the copies heard the first counts
  obtain ⟨n, hn, hne⟩ := heard_early hinv hr v
  obtain ⟨m, rfl⟩ := Nat.exists_eq_succ_of_ne_zero (hne.mpr hadj)
  obtain ⟨hres, hfeed⟩ := MeshNode.results_new (h.checked hchan r) m
  have hrx := h.processRxFrame_eq hchan hnew r
  have hmsg : (run.nodes r v).messageOf (frame.withHops (hops frame - r)) data =
      (start v).messageOf (frame.withHops (hops frame - r)) data := by
    rw [MeshNode.messageOf, run.nodes_nodeId]
    rfl
  have hfwd : (run.nodes r v).forwardOf (frame.withHops (hops frame - r)) =
      if r < hops frame then some (frame.withHops (hops frame - (r + 1))) else none := by
    split
    · rename_i hlt
      have hlt' := hops_lt h.decoded
      rw [MeshNode.forwardOf_eq_some_iff, MeshFrame.fwd_withHops _ (by omega), Nat.sub_sub]
      refine ⟨⟨ofNat_ne_zero (by omega) (by omega), ?_⟩, rfl⟩
      rw [run.nodes_nodeId]
      change frame.header.fromNode ≠ (start v).nodeId
      rw [h.fromNode_eq]
      exact fun heq => ho (h.ids heq.symm)
    · -- the last hop is used up
      rename_i hge
      refine if_pos (.inl ?_)
      rw [show hops frame - r = 0 by omega]
      rfl
  refine ⟨?_, ?_, ?_⟩
  · rw [messages, hn, hres, hrx, hmsg]
    simp [message?]
  · rw [run.sent_succ, hn, hres, hrx, hfwd]
    split <;> simp [forward?, packet]
  · rw [run.nodes_succ, hn, hfeed, MeshNode.processRxFrame_entries, h.checked hchan r]
    exact Fifo.mem_insert_self _ _ _

/-- Any other node but the origin delivers and sends nothing and keeps its cache. -/
theorem others_quiet (h : Fresh start o raw channel frame data) (hinv : run.Inv frame r)
    (hr : r ≤ hops frame) (hv : v ∉ G.frontier o (r + 1)) (ho : v ≠ o) :
    run.messages r v = [] ∧ run.sent (r + 1) v = [] ∧
      run.nodes (r + 1) v = run.nodes r v := by
  have hchan : (run.nodes r v).channel = channel := by rw [run.nodes_channel, h.channel_eq]
  obtain ⟨n, hn, hne⟩ := heard_early hinv hr v
  rw [messages, run.sent_succ, run.nodes_succ, hn]
  by_cases hseen : frame.header.key ∈ (run.nodes r v).dedup.entries
  · obtain ⟨hres, hfeed⟩ := MeshNode.results_seen (h.checked hchan r) hseen n
    rw [hres, hfeed]
    simp [message?, forward?]
  · -- not heard before and not in the next frontier: no neighbour sends
    have hzero : n = 0 := by
      by_contra hn0
      refine hv (SimpleGraph.mem_frontier_succ.mpr ⟨hne.mp hn0, fun q hq hmem => hseen ?_⟩)
      exact (hinv.seen v ho).mpr ⟨q, hq, by omega, hmem⟩
    rw [hzero]
    exact ⟨rfl, rfl, rfl⟩

/-- A round keeps the invariant: the nodes it reaches are the next frontier. -/
theorem inv_succ (h : Fresh start o raw channel frame data) (hinv : run.Inv frame r) :
    run.Inv frame (r + 1) := by
  by_cases hr : r ≤ hops frame
  · refine ⟨fun hr' v hv => ?_, fun v hv => ?_, fun v ho => ?_⟩
    · rw [(frontier_hears h hinv hr hv).2.1, if_pos (by omega)]
    · by_cases hmem : v ∈ G.frontier o (r + 1)
      · rw [(frontier_hears h hinv hr hmem).2.1, if_neg]
        exact fun hlt => hv.elim (fun hn => hn hmem) (by omega)
      · by_cases ho : v = o
        · rw [ho]
          exact origin_quiet h hinv hr
        · exact (others_quiet h hinv hr hmem ho).2.1
    · by_cases hmem : v ∈ G.frontier o (r + 1)
      · exact iff_of_true (frontier_hears h hinv hr hmem).2.2 ⟨r + 1, le_rfl, by omega, hmem⟩
      · -- the cache is as before, and so is the list of frontiers that count
        rw [(others_quiet h hinv hr hmem ho).2.2, hinv.seen v ho]
        constructor
        · rintro ⟨q, hq, hq', hmem'⟩
          exact ⟨q, by omega, hq', hmem'⟩
        · rintro ⟨q, hq, hq', hmem'⟩
          have hne : q ≠ r + 1 := fun heq => hmem (heq ▸ hmem')
          exact ⟨q, by omega, hq', hmem'⟩
  · -- the hops are used up and the round is silent
    have hlate : ∀ v, run.heard r v = [] := heard_late hinv (by omega)
    refine ⟨fun hr' => absurd hr' (by omega), fun v _ => ?_, fun v ho => ?_⟩
    · rw [run.sent_succ, hlate]
      rfl
    · rw [run.nodes_succ, hlate]
      change frame.header.key ∈ (run.nodes r v).dedup.entries ↔ _
      rw [hinv.seen v ho]
      constructor
      · rintro ⟨q, hq, hq', hmem⟩
        exact ⟨q, by omega, hq', hmem⟩
      · rintro ⟨q, hq, hq', hmem⟩
        exact ⟨q, by omega, hq', hmem⟩

/-- The invariant holds after every round. -/
theorem inv (h : Fresh start o raw channel frame data) (run : Rounds G start o raw) (r : Nat) :
    run.Inv frame r := by
  induction r with
  | zero => exact inv_zero h
  | succ r ih => exact inv_succ h ih

/-- Once the hops are used up nobody hears anything. -/
theorem messages_late (hinv : run.Inv frame r) (hr : hops frame < r) (v : V) :
    run.messages r v = [] := by
  rw [messages, heard_late hinv hr]
  rfl

/-- With `L` hops at the start: nothing is sent after round `L`; a node other than the
    origin delivers the packet once, in round `d - 1` for `d` its distance from the
    origin, with `L - (d - 1)` hops left, if `1 ≤ d ≤ L + 1`, and never otherwise; a node
    relays it once, in round `d`, if `1 ≤ d ≤ L`, and never otherwise. -/
theorem flood_coverage (h : Fresh start o raw channel frame data) (run : Rounds G start o raw) :
    let L := hops frame
    (∀ r v, L < r → run.sent r v = []) ∧
    (∀ r v, v ≠ o → run.messages r v =
      if G.dist o v = r + 1 ∧ G.dist o v ≤ L + 1 then
        [{ fromNode := (start o).nodeId, toNode := broadcast, data,
           hopLimit := UInt8.ofNat (L - (G.dist o v - 1)), selfOrigin := false }]
      else []) ∧
    (∀ r v, run.sent (r + 1) v =
      if G.dist o v = r + 1 ∧ G.dist o v ≤ L then
        [{ frame with header := { frame.header with
           hopLimit := UInt8.ofNat (L - G.dist o v) } }.toBytes]
      else []) := by
  -- round by round, from the invariant
  intro L
  have hinv := fun r => inv h run r
  refine ⟨fun r v hr => (hinv r).quiet v (.inr hr), fun r v ho => ?_, fun r v => ?_⟩
  · by_cases hr : r ≤ L
    · by_cases hd : G.dist o v = r + 1
      · rw [if_pos ⟨hd, by omega⟩, (frontier_hears h (hinv r) hr (mem_frontier_succ_iff.mpr hd)).1]
        -- ids are distinct, so the message is not marked as the node's own
        have hself : ((start o).nodeId == (start v).nodeId) = false :=
          beq_eq_false_iff_ne.mpr fun heq => ho (h.ids heq.symm)
        simp only [MeshNode.messageOf, MeshFrame.withHops, h.fromNode_eq, h.toNode_eq, hself, hd,
          Nat.add_sub_cancel]
        rfl
      · rw [if_neg (fun hc => hd hc.1)]
        exact (others_quiet h (hinv r) hr (mt mem_frontier_succ_iff.mp hd) ho).1
    · rw [messages_late (hinv r) (by omega), if_neg]
      exact fun hc => absurd hc.2 (by omega)
  · by_cases hd : G.dist o v = r + 1 ∧ G.dist o v ≤ L
    · have hr : r + 1 ≤ hops frame := by omega
      rw [if_pos hd, (hinv (r + 1)).sent_eq hr v (mem_frontier_succ_iff.mpr hd.1), hd.1]
      rfl
    · rw [if_neg hd]
      refine (hinv (r + 1)).quiet v ?_
      by_cases hmem : v ∈ G.frontier o (r + 1)
      · have hd' := mem_frontier_succ_iff.mp hmem
        exact .inr (by omega)
      · exact .inl hmem

/-- The state after `r` rounds when every node hears its neighbours in one fixed order. -/
noncomputable def play (G : SimpleGraph V) [G.LocallyFinite] (start : V → MeshNode) (o : V)
    (raw : List UInt8) : Nat → (V → MeshNode) × (V → List (List UInt8))
  | 0 => (start, fun v => if v = o then [raw] else [])
  | r + 1 =>
    let s := play G start o raw r
    let heard := fun v => (G.neighborFinset v).toList.flatMap s.2
    (fun v => (s.1 v).feed (heard v),
      fun v => (((s.1 v).results (heard v)).filterMap forward?).map MeshFrame.toBytes)

/-- Whatever it starts from, a flood can be played. -/
theorem exists_run (G : SimpleGraph V) [G.LocallyFinite] (start : V → MeshNode) (o : V)
    (raw : List UInt8) : Nonempty (Rounds G start o raw) := by
  refine ⟨{
    nodes := fun r => (play G start o raw r).1
    sent := fun r => (play G start o raw r).2
    heard := fun r v => (G.neighborFinset v).toList.flatMap (play G start o raw r).2
    nodes_zero := rfl
    sent_zero := rfl
    heard_perm := fun r v => ?_
    nodes_succ := fun r v => rfl
    sent_succ := fun r v => rfl }⟩
  rw [← Multiset.coe_bind, Finset.coe_toList]
  rfl

end Rounds

end

section

open Samples

/-- Two nodes in range of each other, one hop: node 2 delivers and relays, once each. -/
theorem Rounds.flood_coverage_sample :
    ∃ run : Rounds (⊤ : SimpleGraph (Fin 2)) (fun i => node (if i = 0 then 1 else 2)) 0
        (hi 1).toBytes,
      (∀ r, (run.messages r 1).length = if r = 0 then 1 else 0) ∧
      (∀ r, run.sent (r + 1) 1 = if r = 0 then [(hi 0).toBytes] else []) ∧
      (∀ r v, 1 < r → run.sent r v = []) := by
  -- two neighbours on one channel, neither of which knows the packet
  have hfresh : Fresh (fun i : Fin 2 => node (if i = 0 then 1 else 2)) 0 (hi 1).toBytes
      ChannelConfig.default (hi 1) (MeshNode.textData "hi") := by
    refine ⟨by decide, by decide, by decide, by decide, by decide, by decide, rfl, by rfl⟩
  obtain ⟨run⟩ := exists_run (⊤ : SimpleGraph (Fin 2)) (fun i => node (if i = 0 then 1 else 2)) 0
    (hi 1).toBytes
  have hdist : (⊤ : SimpleGraph (Fin 2)).dist 0 1 = 1 :=
    SimpleGraph.dist_eq_one_iff_adj.mpr (by decide)
  obtain ⟨hend, hmsg, hsent⟩ := flood_coverage hfresh run
  refine ⟨run, fun r => ?_, fun r => ?_, fun r v hr => hend r v hr⟩
  · -- delivered one hop away, in the first round
    rw [hmsg r 1 (by decide), hdist]
    by_cases hr : r = 0 <;> simp [hr]
  · rw [hsent r 1, hdist]
    by_cases hr : r = 0
    · simp only [hr, hops]
      rfl
    · simp [hr]

end

end Mesh
