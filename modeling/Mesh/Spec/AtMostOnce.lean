import Mesh.Spec.Network

/-!
# At most one delivery and one relay

As long as no more than `dedupCapacity` keys occur in a run, no cache is ever
full when a new key comes, so no key is evicted and a key is new to a node once
at most.
-/

namespace Mesh

section

variable {ι : Type} [Prost]

namespace NetEvent

variable [DecidableEq ι]

/-- Node `i` hears a frame with key `k` and the result satisfies `observe`. -/
def shows (observe : RxResult → Bool) (i : ι) (k : Key) : NetEvent ι → Bool
  | inject _ _ _ => false
  | receive j p result _ =>
    decide (j = i ∧ (MeshFrame.fromBytes p.raw).map (·.header.key) = some k) && observe result
  | lose _ => false

/-- Node `i` returns a message for a frame with key `k`. -/
def delivers (i : ι) (k : Key) : NetEvent ι → Bool := shows (fun r => (message? r).isSome) i k

/-- Node `i` returns a forward frame for a frame with key `k`. -/
def forwards (i : ι) (k : Key) : NetEvent ι → Bool := shows (fun r => (forward? r).isSome) i k

end NetEvent

namespace Net

/-- Keys are collected event by event. -/
theorem keysOf_append (es fs : List (NetEvent ι)) : keysOf (es ++ fs) = keysOf es ++ keysOf fs :=
  List.filterMap_append

/-- A longer run has no fewer keys. -/
theorem card_keysOf_le (es fs : List (NetEvent ι)) :
    (keysOf es).toFinset.card ≤ (keysOf (es ++ fs)).toFinset.card := by
  apply Finset.card_le_card
  intro k hk
  rw [keysOf_append, List.toFinset_append]
  exact Finset.mem_union_left _ hk

variable [DecidableEq ι]

/-- The run so far, seen from node `i`: its cache holds keys of the run, and it has shown
    `observe` once at most for a key in the cache and never for another. -/
structure Once (observe : RxResult → Bool) (es : List (NetEvent ι)) (s : Net ι) (i : ι) : Prop where
  known : ∀ k ∈ (s.nodes i).dedup.entries, k ∈ keysOf es
  shown : ∀ k, es.countP (NetEvent.shows observe i k) ≤
    if k ∈ (s.nodes i).dedup.entries then 1 else 0

/-- `observe` sees nothing when an input is refused or dropped. -/
def Silent (observe : RxResult → Bool) : Prop :=
  observe (.ok (none, none)) = false ∧ ∀ e, observe (.error e) = false

namespace Once

variable {observe : RxResult → Bool} {es : List (NetEvent ι)} {s t : Net ι} {e : NetEvent ι} {i : ι}

/-- An event that leaves node `i` as it is and shows nothing. -/
theorem frame (h : Once observe es s i) (hnode : t.nodes i = s.nodes i)
    (hshow : ∀ k, NetEvent.shows observe i k e = false) :
    Once observe (es ++ [e]) t i ∧ (s.nodes i).dedup.entries <+: (t.nodes i).dedup.entries := by
  refine ⟨⟨?_, ?_⟩, by rw [hnode]⟩
  · intro k hk
    rw [hnode] at hk
    rw [keysOf_append]
    exact List.mem_append_left _ (h.known k hk)
  · intro k
    rw [List.countP_append, List.countP_singleton, hshow k, hnode]
    simpa using h.shown k

/-- An event by which the new key `k₀` enters the cache of node `i`. -/
theorem push (h : Once observe es s i) {k₀ : Key} (hnew : k₀ ∉ (s.nodes i).dedup.entries)
    (hnode : (t.nodes i).dedup.entries = (s.nodes i).dedup.entries ++ [k₀])
    (hkey : k₀ ∈ keysOf (es ++ [e]))
    (hshow : ∀ k, k ≠ k₀ → NetEvent.shows observe i k e = false) :
    Once observe (es ++ [e]) t i ∧ (s.nodes i).dedup.entries <+: (t.nodes i).dedup.entries := by
  refine ⟨⟨fun k hk => ?_, fun k => ?_⟩, hnode ▸ List.prefix_append _ _⟩
  · rw [hnode] at hk
    rcases List.mem_append.mp hk with hk | hk
    · rw [keysOf_append]
      exact List.mem_append_left _ (h.known k hk)
    · rw [List.mem_singleton.mp hk]
      exact hkey
  · have hcount := h.shown k
    rw [List.countP_append, List.countP_singleton, hnode]
    by_cases hk : k = k₀
    · -- never shown before, so once at most now
      subst hk
      rw [if_neg hnew] at hcount
      rw [if_pos (List.mem_append_right _ (List.mem_singleton.mpr rfl))]
      split <;> omega
    · rw [hshow k hk]
      simpa [hk] using hcount

/-- A cache with keys of the run only has room for another key of the run. -/
theorem room (h : Once observe es s i) {k : Key} (hk : k ∈ keysOf (es ++ [e]))
    (hnew : k ∉ (s.nodes i).dedup.entries)
    (hcap : (keysOf (es ++ [e])).toFinset.card ≤ dedupCapacity) :
    (s.nodes i).dedup.entries.length < dedupCapacity := by
  have hnodup : (k :: (s.nodes i).dedup.entries).Nodup :=
    List.nodup_cons.mpr ⟨hnew, (s.nodes i).dedup.nodup⟩
  have hsub : (k :: (s.nodes i).dedup.entries).toFinset ⊆ (keysOf (es ++ [e])).toFinset := by
    intro k' hk'
    rw [List.mem_toFinset] at hk' ⊢
    rcases List.mem_cons.mp hk' with rfl | hk'
    · exact hk
    · rw [keysOf_append]
      exact List.mem_append_left _ (h.known k' hk')
  -- the cache and the new key are distinct keys of the run, so fifty at most together
  have hcard := Finset.card_le_card hsub
  rw [List.toFinset_card_of_nodup hnodup, List.length_cons] at hcard
  omega

variable [Aes256]

/-- One step keeps `Once` and evicts nothing, as long as the keys fit into a cache. -/
theorem step (hsilent : Silent observe) (hstep : Step s e t)
    (hcap : (keysOf (es ++ [e])).toFinset.card ≤ dedupCapacity) (h : Once observe es s i) :
    Once observe (es ++ [e]) t i ∧ (s.nodes i).dedup.entries <+: (t.nodes i).dedup.entries := by
  cases hstep with
  | inject copies hbuild => exact h.frame rfl fun _ => rfl
  | lose hair => exact h.frame rfl fun _ => rfl
  | @receive p rest j copies hair =>
    by_cases hji : j = i
    · subst hji
      -- the three outcomes at the node that hears it
      cases hchk : (s.nodes j).channel.checked p.raw with
      | none =>
        have herr := MeshNode.processRxFrame_unchecked hchk
        refine h.frame (by simp only [Function.update_self, herr]) fun k => ?_
        simp [NetEvent.shows, herr, hsilent.2]
      | some frame =>
        have hraw := (ChannelConfig.checked_eq_some_iff.mp hchk).1
        by_cases hseen : frame.header.key ∈ (s.nodes j).dedup.entries
        · have hdrop := MeshNode.processRxFrame_seen hchk hseen
          refine h.frame (by simp only [Function.update_self, hdrop]) fun k => ?_
          simp [NetEvent.shows, hdrop, hsilent.1]
        · have hkey : frame.header.key ∈ keysOf (es ++
              [.receive j p ((s.nodes j).processRxFrame p.raw).1 copies]) := by
            rw [keysOf_append]
            apply List.mem_append_right
            simp [keysOf, NetEvent.key?, hraw]
          have hlen := h.room hkey hseen hcap
          refine h.push hseen ?_ hkey fun k hk => ?_
          · -- there is room, so the key is appended and nothing pushed out
            simp only [Function.update_self, MeshNode.processRxFrame_entries, hchk]
            rw [Fifo.insert_of_not_mem hseen, if_neg (by omega)]
          · simp [NetEvent.shows, hraw, Ne.symm hk]
    · have hij : i ≠ j := fun hij => hji hij.symm
      refine h.frame (Function.update_of_ne hij _ _) fun k => ?_
      simp [NetEvent.shows, hji]

/-- `step` over a run. -/
theorem run (hsilent : Silent observe) {fs : List (NetEvent ι)} (hrun : Lts.Run Step s fs t)
    (hcap : (keysOf (es ++ fs)).toFinset.card ≤ dedupCapacity) (h : Once observe es s i) :
    Once observe (es ++ fs) t i ∧ (s.nodes i).dedup.entries <+: (t.nodes i).dedup.entries := by
  induction hrun with
  | nil =>
    rw [List.append_nil]
    exact ⟨h, List.prefix_rfl⟩
  | @snoc fs t u e hrun hstep ih =>
    rw [← List.append_assoc] at hcap ⊢
    -- fewer keys occur in the first part
    obtain ⟨hmid, hpre⟩ := ih ((card_keysOf_le _ _).trans hcap)
    obtain ⟨hend, hpre'⟩ := step hsilent hstep hcap hmid
    exact ⟨hend, hpre.trans hpre'⟩

end Once

/-- A refused or dropped input delivers nothing. -/
theorem silent_message : Silent fun r => (message? r).isSome := ⟨rfl, fun _ => rfl⟩

/-- A refused or dropped input forwards nothing. -/
theorem silent_forward : Silent fun r => (forward? r).isSome := ⟨rfl, fun _ => rfl⟩

variable [Aes256] {start t : Net ι} {es : List (NetEvent ι)}

/-- While the keys of a run fit into a cache, no node shows anything of a key twice. -/
theorem once_of_run {observe : RxResult → Bool} (hsilent : Silent observe)
    (hempty : ∀ i, (start.nodes i).dedup = DedupCache.new) (hrun : Lts.Run Step start es t)
    (hkeys : (keysOf es).toFinset.card ≤ dedupCapacity) (i : ι) : Once observe es t i := by
  have hstart : Once observe [] start i := by
    refine ⟨fun k hk => ?_, fun k => Nat.zero_le _⟩
    rw [hempty i] at hk
    exact absurd hk List.not_mem_nil
  rw [← List.nil_append es] at hkeys ⊢
  exact (hstart.run hsilent hrun hkeys).1

/-- No node hands back a frame of its own. -/
theorem countP_forwards_own (hrun : Lts.Run Step start es t) {i : ι} {k : Key}
    (hk : k.1 = (start.nodes i).nodeId) : es.countP (NetEvent.forwards i k) = 0 := by
  induction hrun with
  | nil => rfl
  | @snoc es t u e hrun hstep ih =>
    rw [List.countP_append, ih, List.countP_singleton]
    have hnot : NetEvent.forwards i k e = false := by
      cases hstep with
      | inject copies hbuild => rfl
      | lose hair => rfl
      | @receive p rest j copies hair =>
        -- the frame relayed would have the node's own id as its sender
        by_contra htrue
        rw [Bool.not_eq_false, NetEvent.forwards, NetEvent.shows, Bool.and_eq_true,
          decide_eq_true_iff] at htrue
        obtain ⟨⟨rfl, hkey⟩, hsome⟩ := htrue
        obtain ⟨fwd, hfwd⟩ := Option.isSome_iff_exists.mp hsome
        obtain ⟨frame, hchk, ⟨-, -, hfar⟩, -⟩ := MeshNode.relayable_of_forward? hfwd
        rw [(ChannelConfig.checked_eq_some_iff.mp hchk).1] at hkey
        rw [nodeId_of_run hrun, ← hk, ← Option.some.inj hkey] at hfar
        exact hfar rfl
    rw [hnot]
    rfl

/-- With at most `dedupCapacity` keys in the whole run and empty caches at its start, every
    node returns at most one message and at most one forward frame for each key, none for
    a key of its own, and no cache ever loses a key. -/
theorem at_most_once (hempty : ∀ i, (start.nodes i).dedup = DedupCache.new)
    (hrun : Lts.Run Step start es t) (hkeys : (keysOf es).toFinset.card ≤ dedupCapacity) :
    (∀ i k, es.countP (NetEvent.delivers i k) ≤ 1) ∧
    (∀ i k, es.countP (NetEvent.forwards i k) ≤ 1) ∧
    (∀ i k, k.1 = (start.nodes i).nodeId → es.countP (NetEvent.forwards i k) = 0) ∧
    (∀ before after mid, es = before ++ after → Lts.Run Step start before mid →
      Lts.Run Step mid after t →
      ∀ i, (mid.nodes i).dedup.entries <+: (t.nodes i).dedup.entries) := by
  -- deliveries and forwards are two readings of one result
  have hshown : ∀ observe, Silent observe → ∀ i k,
      es.countP (NetEvent.shows observe i k) ≤ 1 := by
    intro observe hsilent i k
    have hcount := (once_of_run hsilent hempty hrun hkeys i).shown k
    split at hcount <;> omega
  refine ⟨hshown _ silent_message, hshown _ silent_forward,
    fun i k hk => countP_forwards_own hrun hk, ?_⟩
  rintro before after mid rfl hbefore hafter i
  -- a part of the run has no more keys than all of it
  have hmid := once_of_run silent_message hempty hbefore
    ((card_keysOf_le before after).trans hkeys) i
  exact (hmid.run silent_message hafter hkeys).2

end Net

end

/-- Node 1 hears two copies of one frame. -/
theorem Net.at_most_once_sample :
    ∃ es t, Lts.Run (@Step _ Samples.shortProst Samples.blockAes _) Samples.pair es t ∧
      @keysOf _ Samples.shortProst es = [(1, 7), (1, 7)] ∧
      es.countP (@NetEvent.delivers _ Samples.shortProst _ 1 (1, 7)) ≤ 1 ∧
      es.countP (@NetEvent.forwards _ Samples.shortProst _ 1 (1, 7)) ≤ 1 := by
  obtain ⟨es, t, hrun, hkeys, -⟩ := Samples.run_pair
  have honce := @at_most_once _ Samples.shortProst _ Samples.blockAes Samples.pair t es
    (fun _ => rfl) hrun (by rw [hkeys]; decide)
  exact ⟨es, t, hrun, hkeys, honce.1 1 (1, 7), honce.2.1 1 (1, 7)⟩

end Mesh
