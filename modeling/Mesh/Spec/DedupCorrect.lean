import Mesh.Spec.AppCorrect

/-!
# The duplicate law

Over any sequence of inputs to a fresh node, the cache is a function of the keys
of the checked inputs: the last `dedupCapacity` entries of the ledger
`Fifo.accepted`, which takes in a key unless it is among the last
`dedupCapacity` entries at that moment. So a hit does not refresh its key and an
evicted key is accepted anew.

The router takes a key in before the body is looked at. So a frame whose body turns out
not to decode is refused with its key in the cache, unlike an input that never got as far
as the router (`rejected_frame_leaves`).
-/

namespace Mesh

/-- The keys of the checked inputs, in order. -/
def ChannelConfig.checkedKeys (self : ChannelConfig) (inputs : List (List UInt8)) : List Key :=
  inputs.filterMap fun raw => (self.checked raw).map (·.header.key)

/-- The `dedupCapacity` most recently accepted keys. -/
def ChannelConfig.recent (self : ChannelConfig) (inputs : List (List UInt8)) : List Key :=
  (Fifo.accepted dedupCapacity (self.checkedKeys inputs)).rtake dedupCapacity

section

variable [Prost] [Aes256]

/-- The node after a sequence of inputs. -/
def MeshNode.feed (self : MeshNode) (inputs : List (List UInt8)) : MeshNode :=
  inputs.foldl (fun node raw => (node.processRxFrame raw).2) self

/-- A checked input is dropped as a duplicate: no message, no frame to relay, and the
    node as it was. -/
def MeshNode.dropsDuplicate (self : MeshNode) (raw : List UInt8) : Prop :=
  self.processRxFrame raw = (.ok (none, none), self)

namespace MeshNode

variable {self : MeshNode} {raw : List UInt8} {frame : MeshFrame}

@[simp] theorem feed_channel (self : MeshNode) (inputs : List (List UInt8)) :
    (self.feed inputs).channel = self.channel := by
  induction inputs generalizing self with
  | nil => rfl
  | cons raw inputs ih =>
    rw [feed, List.foldl_cons]
    exact (ih _).trans (processRxFrame_channel self raw)

/-- Feeding is inserting the checked keys one by one. -/
theorem feed_entries (self : MeshNode) (inputs : List (List UInt8)) :
    (self.feed inputs).dedup.entries =
      (self.channel.checkedKeys inputs).foldl (fun xs k => Fifo.insert dedupCapacity k xs)
        self.dedup.entries := by
  induction inputs generalizing self with
  | nil => rfl
  | cons raw inputs ih =>
    have hstep := processRxFrame_entries self raw
    have hrest := ih (self.processRxFrame raw).2
    rw [processRxFrame_channel] at hrest
    rw [feed, List.foldl_cons]
    refine hrest.trans ?_
    rw [hstep, ChannelConfig.checkedKeys, ChannelConfig.checkedKeys, List.filterMap_cons]
    cases self.channel.checked raw <;> rfl

/-- The refinement: the cache of a fresh node is the tail of the ledger. -/
theorem feed_ofLocal_entries (channel : ChannelConfig) (localNode : LocalNode)
    (inputs : List (List UInt8)) :
    ((ofLocal channel localNode).feed inputs).dedup.entries = channel.recent inputs := by
  rw [feed_entries]
  exact Fifo.foldl_insert_eq_rtake (by decide) _

/-- A new key is inserted, so the node changes. -/
theorem dropsDuplicate_iff (h : self.channel.checked raw = some frame) :
    self.dropsDuplicate raw ↔ frame.header.key ∈ self.dedup.entries := by
  constructor
  · -- had the key been new, it would be in the cache now
    intro hdrop
    have hentries := processRxFrame_entries self raw
    rw [hdrop, h] at hentries
    change self.dedup.entries = Fifo.insert dedupCapacity frame.header.key _ at hentries
    rw [hentries]
    exact Fifo.mem_insert_self _ _ _
  · exact processRxFrame_seen h

/-- For every sequence of inputs to a fresh node and every next input: the cache is
    `recent`, bounded and without repetition; an unchecked input leaves it alone; a
    checked one is dropped as a duplicate exactly if its key is in `recent`, and
    otherwise its key becomes the newest entry. -/
theorem duplicate_law (channel : ChannelConfig) (localNode : LocalNode)
    (inputs : List (List UInt8)) :
    let node := (ofLocal channel localNode).feed inputs
    let recent := channel.recent inputs
    node.dedup.entries = recent ∧ recent.length ≤ dedupCapacity ∧ recent.Nodup ∧
    (∀ raw, channel.checked raw = none → (node.processRxFrame raw).2.dedup = node.dedup) ∧
    (∀ raw frame, channel.checked raw = some frame →
      (node.dropsDuplicate raw ↔ frame.header.key ∈ recent) ∧
      (frame.header.key ∉ recent →
        (node.processRxFrame raw).2.dedup.entries =
          (recent ++ [frame.header.key]).rtake dedupCapacity)) := by
  intro node recent
  have hchan : node.channel = channel := feed_channel _ _
  have hentries : node.dedup.entries = recent := feed_ofLocal_entries channel localNode inputs
  refine ⟨hentries, ?_, ?_, ?_, ?_⟩
  · rw [← hentries]
    exact node.dedup.length_le
  · rw [← hentries]
    exact node.dedup.nodup
  · intro raw hraw
    rw [← hchan] at hraw
    have he := processRxFrame_unchecked hraw
    rw [he]
  · intro raw frame hraw
    rw [← hchan] at hraw
    refine ⟨by rw [dropsDuplicate_iff hraw, hentries], fun hnew => ?_⟩
    -- the ledger's tail is short enough to be its own tail
    have hkey : recent.rtake dedupCapacity = recent := by
      have hlen : recent.length ≤ dedupCapacity := hentries ▸ node.dedup.length_le
      rw [List.rtake, Nat.sub_eq_zero_of_le hlen, List.drop_zero]
    -- `recent` is its own ledger, which takes the key in
    have hins := @Fifo.insert_rtake _ _ dedupCapacity (by decide) recent frame.header.key
    rw [hkey, Fifo.accept, hkey, if_neg hnew] at hins
    rw [processRxFrame_entries, hraw, hentries]
    exact hins

end MeshNode

end

/-- After a frame was heard, a copy of it with a hop less is dropped; one that the
    channel check refuses leaves the cache alone. -/
theorem MeshNode.duplicate_law_sample :
    let node := @MeshNode.feed Samples.shortProst Samples.blockAes (Samples.node 9)
      [(Samples.hi 3).toBytes]
    @dropsDuplicate Samples.shortProst Samples.blockAes node (Samples.hi 2).toBytes ∧
      (@processRxFrame Samples.shortProst Samples.blockAes node []).2.dedup = node.dedup := by
  obtain ⟨-, -, -, hunchecked, hchecked⟩ := @duplicate_law Samples.shortProst Samples.blockAes
    ChannelConfig.default (LocalNode.withId 9 "TERM" "Mesh Terminal") [(Samples.hi 3).toBytes]
  exact ⟨(hchecked (Samples.hi 2).toBytes (Samples.hi 2) (by decide)).1.mpr (by decide),
    hunchecked [] (by decide)⟩

namespace MeshNode

/-! ## Rejected inputs -/

/-- No error changes the neighbour table. One of an unchecked input changes nothing at all.
    A body that does not decode has been through the router: the frame was new and addressed
    here, its key is in the cache, and the next frame with that key is dropped. -/
theorem rejected_frame_leaves [Prost] [Aes256] (self : MeshNode) (raw : List UInt8)
    (e : ProcessError) (h : (self.processRxFrame raw).1 = .error e) :
    (self.processRxFrame raw).2.neighbours = self.neighbours ∧
    (e = .malformed ∨ e = .wrongChannel → (self.processRxFrame raw).2 = self) ∧
    (∀ p, e = .proto p → ∃ frame, self.channel.checked raw = some frame ∧
      frame.header.key ∉ self.dedup.entries ∧ frame.header.forUs self.nodeId ∧
      (self.processRxFrame raw).2 = self.accept frame.header ∧
      ∀ later copy, self.channel.checked later = some copy →
        copy.header.key = frame.header.key →
        (self.processRxFrame raw).2.dropsDuplicate later) := by
  cases hchecked : self.channel.checked raw with
  | none =>
    rw [processRxFrame_unchecked hchecked] at h ⊢
    refine ⟨rfl, fun _ => rfl, fun p hp => ?_⟩
    -- the body was not looked at
    have hrefused : refusal raw = .proto p := (Except.error.inj h).trans hp
    rw [refusal] at hrefused
    split at hrefused <;> cases hrefused
  | some frame =>
    by_cases hseen : frame.header.key ∈ self.dedup.entries
    · rw [processRxFrame_seen hchecked hseen] at h
      cases h
    · have hnew := processRxFrame_new hchecked hseen
      rw [hnew] at h ⊢
      by_cases hus : frame.header.forUs self.nodeId
      · cases hdata : Prost.decodeData (self.body frame) with
        | error p =>
          have hlearned : self.learned frame.header.fromNode (self.body frame) =
              self.neighbours := by
            simp [learned, introduction, hdata]
          simp only [hus, if_true, hdata, hlearned] at h ⊢
          obtain rfl := Except.error.inj h
          refine ⟨trivial, by simp, fun _ _ => ⟨frame, rfl, hseen, hus, rfl, ?_⟩⟩
          intro later copy hlater hkey
          have hthen : (self.accept frame.header).channel.checked later = some copy := hlater
          refine (dropsDuplicate_iff hthen).mpr ?_
          show copy.header.key ∈ (self.dedup.checkAndInsert _ _).2.entries
          rw [hkey, DedupCache.entries_checkAndInsert]
          exact Fifo.mem_insert_self _ _ _
        | ok data =>
          simp only [hus, if_true, hdata] at h
          cases h
      · simp only [hus, if_false] at h
        cases h

open Samples in
/-- Node 9 refuses a body that is no `Data`: its table stays, and the frame with the same header
    over "hi" is dropped. -/
theorem rejected_frame_leaves_sample :
    ((node 9).processRxFrame garbled.toBytes).2.neighbours = (node 9).neighbours ∧
      ((node 9).processRxFrame garbled.toBytes).2.dropsDuplicate (hi 3).toBytes := by
  obtain ⟨hneighbours, -, hproto⟩ :=
    rejected_frame_leaves (node 9) garbled.toBytes (.proto ()) rfl
  obtain ⟨frame, hchecked, -, -, -, hdrops⟩ := hproto () rfl
  have hgarbled : (node 9).channel.checked garbled.toBytes = some garbled := by decide
  obtain rfl := Option.some.inj (hgarbled.symm.trans hchecked)
  exact ⟨hneighbours, hdrops (hi 3).toBytes (hi 3) (by decide) rfl⟩

open Samples in
/-- A body that is no `Data` hides the frame that follows it under the same key: node 9
    would have delivered it. -/
theorem undecodable_body_blocks_copy :
    (∃ p, ((node 9).processRxFrame garbled.toBytes).1 = .error (.proto p)) ∧
      (node 9).dedup.entries = [] ∧
      ((node 9).processRxFrame garbled.toBytes).2.dedup.entries = [(1, 7)] ∧
      (message? ((node 9).processRxFrame (hi 3).toBytes).1).isSome ∧
      ((node 9).processRxFrame garbled.toBytes).2.dropsDuplicate (hi 3).toBytes := by
  have hentries : ((node 9).processRxFrame garbled.toBytes).2.dedup.entries = [(1, 7)] := by
    decide +kernel
  refine ⟨⟨(), rfl⟩, rfl, hentries, by decide +kernel, ?_⟩
  have hchecked : ((node 9).processRxFrame garbled.toBytes).2.channel.checked (hi 3).toBytes =
      some (hi 3) := by
    rw [processRxFrame_channel]
    decide
  rw [dropsDuplicate_iff hchecked, hentries]
  decide

end MeshNode

end Mesh
