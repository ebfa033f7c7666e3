import Mesh.ForStd.Lts
import Mesh.Spec.DedupCorrect

/-!
# The neighbour table and the frames a node was given

One call writes at most one entry of the table: that of the sender of a new frame,
addressed here, whose body is a `NODEINFO_APP` message with a `User` in it. So the table
is a register for each id, written by the frames that introduce that id. The table is not
told which id is the node's own.

## Key results

- `processRxFrame_introduces`, `get_processRxFrame_of_not`: one call
- `neighbours_follow_history`: over every sequence of calls
- `own_entry_absent_iff`: when a node is not its own neighbour
- `own_beacon_enters_table`: a looped back beacon
-/

namespace Mesh

namespace NeighbourTable

/-- Every entry stands under its own id. -/
def Keyed (self : NeighbourTable) : Prop := ∀ n info, self.get n = some info → info.nodeId = n

/-- An empty table is keyed. -/
theorem keyed_default : default.Keyed := fun _ _ h => absurd h (by simp)

/-- An update stands under its own id. -/
theorem Keyed.update {self : NeighbourTable} (h : self.Keyed) (info : NodeInfo) :
    (self.update info).Keyed := by
  intro n found hfound
  by_cases hn : n = info.nodeId
  · subst hn
    rw [get_update_self] at hfound
    rw [← Option.some.inj hfound]
  · rw [get_update_of_ne self info hn] at hfound
    exact h n found hfound

/-- The listing holds what the look-ups find. -/
theorem Keyed.mem_all_iff {self : NeighbourTable} (h : self.Keyed) {info : NodeInfo} :
    info ∈ self.all ↔ self.get info.nodeId = some info := by
  have hentry : ∀ n, self.get n = some info ↔ ⟨n, info⟩ ∈ self.nodes.entries :=
    fun n => AList.mem_lookup_iff
  rw [all, List.mem_map, hentry]
  constructor
  · rintro ⟨⟨n, found⟩, hmem, rfl⟩
    rw [h n found ((hentry n).mpr hmem)]
    exact hmem
  · intro hmem
    exact ⟨_, hmem, rfl⟩

end NeighbourTable

namespace MeshNode

section

variable [Prost] [Aes256]

/-- The input is a new frame of `n`, right for the channel and addressed here, whose body is a
    `NODEINFO_APP` message with this `User` in it. -/
def Introduces (self : MeshNode) (raw : List UInt8) (n : UInt32) (user : User) : Prop :=
  ∃ frame data, self.channel.checked raw = some frame ∧ frame.header.key ∉ self.dedup.entries ∧
    frame.header.fromNode = n ∧ frame.header.forUs self.nodeId ∧
    Prost.decodeData (self.body frame) = .ok data ∧ data.portnum = Prost.nodeinfoApp ∧
    Data.decodeUser data = .ok user

/-! ## One call -/

variable {self : MeshNode} {raw : List UInt8} {n : UInt32}

/-- An input that introduces a neighbour updates the table. -/
theorem processRxFrame_introduces {user : User} (h : self.Introduces raw n user) :
    (self.processRxFrame raw).2.neighbours = self.neighbours.update (infoOf n user) := by
  obtain ⟨frame, data, hchecked, hnew, rfl, hus, hdata, hport, huser⟩ := h
  have hintro : introduction (self.body frame) = some user :=
    introduction_eq_some_iff.mpr ⟨data, hdata, hport, huser⟩
  rw [processRxFrame_new hchecked hnew]
  simp [hus, learned, hintro]

/-- Every other input leaves the entry of `n` alone. -/
theorem get_processRxFrame_of_not (h : ∀ user, ¬ self.Introduces raw n user) :
    (self.processRxFrame raw).2.neighbours.get n = self.neighbours.get n := by
  cases hchecked : self.channel.checked raw with
  | none =>
    have he := processRxFrame_unchecked hchecked
    rw [he]
  | some frame =>
    by_cases hseen : frame.header.key ∈ self.dedup.entries
    · rw [processRxFrame_seen hchecked hseen]
    · rw [processRxFrame_new hchecked hseen]
      by_cases hus : frame.header.forUs self.nodeId
      · simp only [hus, if_true, learned]
        cases hintro : introduction (self.body frame) with
        | none => rfl
        | some user =>
          -- an introduction, so of another node
          obtain ⟨data, hdata, hport, huser⟩ := introduction_eq_some_iff.mp hintro
          have hother : n ≠ frame.header.fromNode := fun hn =>
            h user ⟨frame, data, hchecked, hseen, hn.symm, hus, hdata, hport, huser⟩
          exact self.neighbours.get_update_of_ne _ hother
      · simp only [hus, if_false]

/-! ## Runs -/

/-- The last of a list of inputs is processed last. -/
theorem feed_concat (self : MeshNode) (inputs : List (List UInt8)) (raw : List UInt8) :
    self.feed (inputs ++ [raw]) = ((self.feed inputs).processRxFrame raw).2 := by
  rw [feed, List.foldl_append]
  rfl

/-- Whatever is heard, every entry stands under its own id. -/
theorem keyed_feed {self : MeshNode} (h : self.neighbours.Keyed) (inputs : List (List UInt8)) :
    (self.feed inputs).neighbours.Keyed := by
  induction inputs using List.reverseRecOn with
  | nil => exact h
  | append_singleton inputs raw ih =>
    rw [feed_concat]
    by_cases hintro : ∃ n user, (self.feed inputs).Introduces raw n user
    · obtain ⟨n, user, hintro⟩ := hintro
      rw [processRxFrame_introduces hintro]
      exact ih.update _
    · -- every look-up finds what it found before
      intro n info hfound
      have hnot : ∀ user, ¬ (self.feed inputs).Introduces raw n user :=
        fun user hu => hintro ⟨n, user, hu⟩
      rw [get_processRxFrame_of_not hnot] at hfound
      exact ih n info hfound

/-- The entry of `n` is a register that the introductions of `n` write. -/
theorem get_eq_of_introduces (n : UInt32) (self : MeshNode) (raw : List UInt8) (info : NodeInfo)
    (h : ∃ user, self.Introduces raw n user ∧ info = infoOf n user) :
    (self.processRxFrame raw).2.neighbours.get n = some info := by
  obtain ⟨user, hintro, rfl⟩ := h
  rw [processRxFrame_introduces hintro]
  exact self.neighbours.get_update_self (infoOf n user)

/-- An input that does not introduce `n` leaves its entry alone. -/
theorem get_keep (n : UInt32) (self : MeshNode) (raw : List UInt8)
    (h : ∀ info, ¬ ∃ user, self.Introduces raw n user ∧ info = infoOf n user) :
    (self.processRxFrame raw).2.neighbours.get n = self.neighbours.get n :=
  get_processRxFrame_of_not fun user hintro => h _ ⟨user, hintro, rfl⟩

/-- An id has an entry exactly if some input of the history introduced it. -/
theorem isSome_get_feed_iff (channel : ChannelConfig) (localNode : LocalNode)
    (inputs : List (List UInt8)) (n : UInt32) :
    (((ofLocal channel localNode).feed inputs).neighbours.get n).isSome ↔
      ∃ before raw after user, inputs = before ++ raw :: after ∧
        ((ofLocal channel localNode).feed before).Introduces raw n user := by
  refine (Lts.register_isSome_iff (fun node raw => (processRxFrame node raw).2)
    (fun node => node.neighbours.get n) (get_eq_of_introduces n) (get_keep n)
    (s := ofLocal channel localNode) rfl).trans ?_
  constructor
  · rintro ⟨before, raw, after, info, hinputs, user, hintro, -⟩
    exact ⟨before, raw, after, user, hinputs, hintro⟩
  · rintro ⟨before, raw, after, user, hinputs, hintro⟩
    exact ⟨before, raw, after, _, hinputs, user, hintro, rfl⟩

/-- The table of a fresh node, as a function of what it was given: the entry of `n` is the
    last introduction of `n`. -/
theorem neighbours_follow_history (channel : ChannelConfig) (localNode : LocalNode)
    (inputs : List (List UInt8)) (n : UInt32) :
    let node := (ofLocal channel localNode).feed
    (((node inputs).neighbours.get n).isSome ↔ ∃ before raw after user,
      inputs = before ++ raw :: after ∧ (node before).Introduces raw n user) ∧
    (∀ info, (node inputs).neighbours.get n = some info ↔ ∃ before raw after user,
      inputs = before ++ raw :: after ∧ (node before).Introduces raw n user ∧
        info = { nodeId := n, shortName := user.shortName, longName := user.longName,
                 lastRssi := none } ∧
        ∀ mid later rest other, after = mid ++ later :: rest →
          ¬ (node (before ++ raw :: mid)).Introduces later n other) ∧
    (∀ raw, (∀ user, ¬ (node inputs).Introduces raw n user) →
      ((node inputs).processRxFrame raw).2.neighbours.get n = (node inputs).neighbours.get n) := by
  intro node
  refine ⟨isSome_get_feed_iff channel localNode inputs n, fun info => ?_,
    fun raw h => get_processRxFrame_of_not h⟩
  -- the entry of `n` is a register that its introductions write to
  refine (Lts.register_eq_some_iff (fun node raw => (processRxFrame node raw).2)
    (fun node => node.neighbours.get n) (get_eq_of_introduces n) (get_keep n)
    (s := ofLocal channel localNode) rfl).trans ?_
  constructor
  · rintro ⟨before, raw, after, hinputs, ⟨user, hintro, hinfo⟩, hlast⟩
    exact ⟨before, raw, after, user, hinputs, hintro, hinfo,
      fun mid later rest other hafter hlater =>
        hlast mid later rest _ hafter ⟨other, hlater, rfl⟩⟩
  · rintro ⟨before, raw, after, user, hinputs, hintro, hinfo, hlast⟩
    exact ⟨before, raw, after, hinputs, ⟨user, hintro, hinfo⟩,
      fun mid later rest c hafter ⟨other, hlater, _⟩ =>
        hlast mid later rest other hafter hlater⟩

omit [Prost] [Aes256] in
/-- Node 9 learns of node 1 from its beacon, and noise leaves that alone. -/
theorem neighbours_follow_history_sample :
    ∃ beacon, @buildNodeinfoFrame Samples.shortProst Samples.blockAes (Samples.node 1) 7 =
        some beacon ∧
      (∃ before raw after user, [beacon.toBytes] = before ++ raw :: after ∧
        @Introduces Samples.shortProst Samples.blockAes
          (@feed Samples.shortProst Samples.blockAes (Samples.node 9) before) raw 1 user) ∧
      (@feed Samples.shortProst Samples.blockAes (Samples.node 9)
        [beacon.toBytes, []]).neighbours.get 1 = some {
          nodeId := 1, shortName := "TERM", longName := "Mesh Terminal", lastRssi := none } := by
  refine ⟨_, rfl, ?_, ?_⟩
  · obtain ⟨hlisted, -, -⟩ := @neighbours_follow_history Samples.shortProst Samples.blockAes
      ChannelConfig.default (LocalNode.withId 9 "TERM" "Mesh Terminal") [_] 1
    exact hlisted.mp (by decide +kernel)
  · obtain ⟨-, -, hkeep⟩ := @neighbours_follow_history Samples.shortProst Samples.blockAes
      ChannelConfig.default (LocalNode.withId 9 "TERM" "Mesh Terminal") [_] 1
    refine (hkeep [] ?_).trans (by decide +kernel)
    rintro user ⟨frame, data, hchecked, -⟩
    -- there is no header in it
    obtain ⟨hraw, -⟩ := ChannelConfig.checked_eq_some_iff.mp hchecked
    simp [MeshFrame.fromBytes, MeshHeader.decode, headerLen] at hraw

/-! ## The node's own id -/

/-- One of the inputs is a frame of the node itself, right for the channel, addressed here and
    not among the recent ones, whose body is a `NODEINFO_APP` message with a `User` in it. -/
def HearsItself (self : MeshNode) (inputs : List (List UInt8)) : Prop :=
  ∃ before raw after frame data user, inputs = before ++ raw :: after ∧
    self.channel.checked raw = some frame ∧ frame.header.key ∉ self.channel.recent before ∧
    frame.header.fromNode = self.nodeId ∧ frame.header.forUs self.nodeId ∧
    Prost.decodeData (self.body frame) = .ok data ∧ data.portnum = Prost.nodeinfoApp ∧
    Data.decodeUser data = .ok user

/-- Inputs change the cache and the table alone. -/
theorem feed_snd (self : MeshNode) (inputs : List (List UInt8)) :
    ∃ dedup neighbours, self.feed inputs = { self with dedup, neighbours } := by
  induction inputs using List.reverseRecOn with
  | nil => exact ⟨self.dedup, self.neighbours, rfl⟩
  | append_singleton inputs raw ih =>
    obtain ⟨_, _, hfed⟩ := ih
    obtain ⟨dedup, neighbours, hnext⟩ := (self.feed inputs).processRxFrame_snd raw
    exact ⟨dedup, neighbours, by rw [feed_concat, hnext, hfed]⟩

/-- Whether a fresh node takes an input for an introduction is up to that input and the
    recent ones. -/
theorem introduces_feed_iff (channel : ChannelConfig) (localNode : LocalNode)
    (inputs : List (List UInt8)) (raw : List UInt8) (n : UInt32) (user : User) :
    ((ofLocal channel localNode).feed inputs).Introduces raw n user ↔
      ∃ frame data, channel.checked raw = some frame ∧
        frame.header.key ∉ channel.recent inputs ∧ frame.header.fromNode = n ∧
        frame.header.forUs localNode.nodeId ∧
        Prost.decodeData ((ofLocal channel localNode).body frame) = .ok data ∧
        data.portnum = Prost.nodeinfoApp ∧ Data.decodeUser data = .ok user := by
  let self := ofLocal channel localNode
  have hentries := feed_ofLocal_entries channel localNode inputs
  -- of the node fed so far only the cache matters
  obtain ⟨_, _, hfed⟩ := feed_snd self inputs
  have hchannel : (self.feed inputs).channel = channel := by rw [hfed]; rfl
  have hid : (self.feed inputs).nodeId = localNode.nodeId := by rw [hfed]; rfl
  have hbody : ∀ frame, (self.feed inputs).body frame = self.body frame := by
    intro frame
    rw [hfed]
    rfl
  simp only [Introduces, hentries, hchannel, hid, hbody, self]

/-- A fresh node is not its own neighbour exactly as long as it does not take a beacon of its
    own for a new frame. -/
theorem own_entry_absent_iff (channel : ChannelConfig) (localNode : LocalNode)
    (inputs : List (List UInt8)) :
    let self := ofLocal channel localNode
    (∀ info ∈ (self.feed inputs).neighbours.all, info.nodeId ≠ self.nodeId) ↔
      ¬ self.HearsItself inputs := by
  intro self
  have hkeyed : (self.feed inputs).neighbours.Keyed := keyed_feed NeighbourTable.keyed_default _
  -- entries stand under their own ids, so a list can be looked up
  have hlisted : (∃ info ∈ (self.feed inputs).neighbours.all, info.nodeId = self.nodeId) ↔
      ((self.feed inputs).neighbours.get self.nodeId).isSome := by
    rw [Option.isSome_iff_exists]
    constructor
    · rintro ⟨info, hmem, hid⟩
      exact ⟨info, hid ▸ hkeyed.mem_all_iff.mp hmem⟩
    · rintro ⟨info, hfound⟩
      have hid := hkeyed _ info hfound
      exact ⟨info, hkeyed.mem_all_iff.mpr (hid ▸ hfound), hid⟩
  -- and the entry is there exactly if the node introduced itself to itself
  have hheard : ((self.feed inputs).neighbours.get self.nodeId).isSome ↔
      self.HearsItself inputs := by
    refine (isSome_get_feed_iff channel localNode inputs self.nodeId).trans ?_
    simp only [introduces_feed_iff]
    constructor
    · rintro ⟨before, raw, after, user, hinputs, frame, data, hheard⟩
      exact ⟨before, raw, after, frame, data, user, hinputs, hheard⟩
    · rintro ⟨before, raw, after, frame, data, user, hinputs, hheard⟩
      exact ⟨before, raw, after, user, hinputs, frame, data, hheard⟩
  rw [← hheard, ← hlisted]
  simp

end

/-- The first beacon of node 1 loops back to it: node 1 lists itself. -/
theorem own_beacon_enters_table :
    ∃ beacon, @buildNodeinfoFrame Samples.shortProst Samples.blockAes (Samples.node 1) 7 =
        some beacon ∧
      (@feed Samples.shortProst Samples.blockAes (Samples.node 1)
        [beacon.toBytes]).neighbours.all =
      [{ nodeId := 1, shortName := "TERM", longName := "Mesh Terminal", lastRssi := none }] :=
  ⟨_, rfl, by decide +kernel⟩

end MeshNode

end Mesh
