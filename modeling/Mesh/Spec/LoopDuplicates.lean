import Mesh.Spec.RadioCorrect
import Mesh.Spec.Samples

/-!
# Duplicates in a run of the loop

The cache lives in the node, and the loop replaces the node whenever a command has
raised `rebuildNodes`. So a key is remembered as long as no such command is applied
and fewer than `dedupCapacity` other keys are accepted, and is forgotten at the first
unpaused tick after such a command.

## Key results

- `SimLoop.Remembers`, `remembers_step`: what one step keeps of the newest keys
- `rebuild_empties_cache`: what such a command does at the next unpaused tick
- `duplicates_stay_suppressed`: over a run without such commands
- `rename_forgets_keys`: over a run with one
-/

namespace Mesh

open Ieee (F64)

/-- Commands that have the node rebuilt. -/
def Command.rebuildsNode : Command → Prop
  | .setMode _ | .setNodeShort _ | .setNodeLong _ => True
  | _ => False

/-- The event applies no command that has the node rebuilt. -/
def LoopEvent.keepsNode : LoopEvent → Prop
  | .tick inp => ∀ cmd ∈ inp.commands, ¬ cmd.rebuildsNode
  | .decode _ _ => True

namespace Core

variable {c : Core} {cmd : Command}

/-- A command that rebuilds no node leaves the node alone. -/
theorem apply_keeps (h : ¬ cmd.rebuildsNode) :
    (c.apply cmd).node = c.node ∧ (c.apply cmd).rebuildNodes = c.rebuildNodes := by
  cases cmd with
  | setMode m => exact absurd trivial h
  | setNodeShort s => exact absurd trivial h
  | setNodeLong s => exact absurd trivial h
  | _ => exact ⟨rfl, rfl⟩

/-- Commands that rebuild no node leave the node alone. -/
theorem commands_keep {commands : List Command} (h : ∀ cmd ∈ commands, ¬ cmd.rebuildsNode) :
    (commands.foldl apply c).node = c.node ∧
      (commands.foldl apply c).rebuildNodes = c.rebuildNodes := by
  induction commands generalizing c with
  | nil => exact ⟨rfl, rfl⟩
  | cons cmd commands ih =>
    obtain ⟨hcmd, hrest⟩ := List.forall_mem_cons.mp h
    have hone := apply_keeps (c := c) hcmd
    have hmany := ih (c := c.apply cmd) hrest
    exact ⟨hmany.1.trans hone.1, hmany.2.trans hone.2⟩

/-- The flag goes up with such a command and stays up. -/
theorem commands_raise {commands : List Command}
    (h : c.rebuildNodes = true ∨ ∃ cmd ∈ commands, cmd.rebuildsNode) :
    (commands.foldl apply c).rebuildNodes = true := by
  induction commands generalizing c with
  | nil => simpa using h
  | cons cmd commands ih =>
    apply ih
    simp only [List.mem_cons, exists_eq_or_imp, ← or_assoc] at h
    refine h.imp_left fun hfirst => ?_
    cases cmd with
    | setMode m => rfl
    | setNodeShort s => rfl
    | setNodeLong s => rfl
    | _ => exact hfirst.resolve_right id

/-- An unpaused tick with a rebuild pending starts from a fresh node. -/
theorem tick_rebuilds [Prost] {commands : List Command}
    (hrun : (commands.foldl apply c).running = true)
    (hflag : (commands.foldl apply c).rebuildNodes = true) :
    ∃ nodeId nodeShort nodeLong, (c.tick commands).node =
      MeshNode.withId ChannelConfig.default nodeId nodeShort nodeLong := by
  unfold tick rebuild
  simp only [hrun, hflag, if_true]
  exact ⟨_, _, _, rfl⟩

/-- Without a pending rebuild, a tick that raises none keeps the node. -/
theorem tick_keeps [Prost] {commands : List Command} (hflag : c.rebuildNodes = false)
    (h : ∀ cmd ∈ commands, ¬ cmd.rebuildsNode) :
    (c.tick commands).node = c.node ∧ (c.tick commands).rebuildNodes = false := by
  obtain ⟨hnode, hkeep⟩ := commands_keep (c := c) h
  have hfalse : (commands.foldl apply c).rebuildNodes = false := hkeep.trans hflag
  unfold tick rebuild
  simp only [hfalse, Bool.false_eq_true, if_false]
  split
  · exact ⟨hnode, rfl⟩
  · exact ⟨hnode, hfalse⟩

/-- An unpaused tick leaves no rebuild pending. -/
theorem tick_rebuildNodes [Prost] {commands : List Command}
    (h : (commands.foldl apply c).running = true) : (c.tick commands).rebuildNodes = false := by
  unfold tick rebuild
  simp only [h, if_true]
  split
  · rfl
  · rename_i hflag
    exact Bool.not_eq_true _ ▸ hflag

end Core

namespace SimLoop

/-! ## Keys accepted in a run -/

/-- The key an event has the node accept: that of a checked frame that is not in the cache. -/
def accepted (s : SimLoop) : LoopEvent → Option Key
  | .tick _ => none
  | .decode r _ =>
    match r with
    | .ok payload _ => (s.node.channel.checked payload).bind fun frame =>
      if frame.header.key ∈ s.node.dedup.entries then none else some frame.header.key
    | _ => none

/-- The keys accepted among some labels. -/
def acceptedKeys (labels : List (LoopEvent × Option Key)) : List Key := labels.filterMap Prod.snd

/-- What is accepted was not in the cache. -/
theorem accepted_not_mem {s : SimLoop} {e : LoopEvent} {k : Key} (h : s.accepted e = some k) :
    k ∉ s.node.dedup.entries := by
  unfold accepted at h
  split at h
  · exact nomatch h
  · split at h
    · obtain ⟨frame, -, hkey⟩ := Option.bind_eq_some_iff.mp h
      split at hkey
      · exact nomatch hkey
      · rename_i hnew
        exact Option.some.inj hkey ▸ hnew
    · exact nomatch h

/-- No rebuild is pending, and the newest keys in the cache are `k` and then `newer`. -/
structure Remembers (k : Key) (newer : List Key) (s : SimLoop) : Prop where
  settled : s.core.rebuildNodes = false
  suffix : k :: newer <:+ s.node.dedup.entries

/-- Fewer than `dedupCapacity` other distinct keys fit in beside `k`. -/
theorem Remembers.length_lt {s : SimLoop} {k a : Key} {newer : List Key}
    (h : Remembers k newer s) (hnew : a ∉ s.node.dedup.entries)
    (hfew : ((newer ++ [a]).toFinset.erase k).card < dedupCapacity) :
    newer.length + 1 < dedupCapacity := by
  have hnodup : (k :: (newer ++ [a])).Nodup := by
    have hold : (k :: newer).Nodup := h.suffix.sublist.nodup s.node.dedup.nodup
    have ha : a ∉ k :: newer := fun hmem => hnew (h.suffix.subset hmem)
    rw [← List.cons_append, List.nodup_append_comm]
    exact List.nodup_cons.mpr ⟨ha, hold⟩
  obtain ⟨hk, hall⟩ := List.nodup_cons.mp hnodup
  rw [Finset.erase_eq_of_notMem (by rwa [List.mem_toFinset]), List.toFinset_card_of_nodup hall,
    List.length_append, List.length_singleton] at hfew
  exact hfew

section

variable [Ieee.Arith] [Prost] [Aes256]

/-- A turn of the decode loop changes the cache by the key it has the node accept. -/
theorem entries_decode (s : SimLoop) (sf : UInt8) (txAllowed : Bool) (clock : RxClock)
    (r : StreamDecodeResult) :
    (s.decode sf txAllowed clock r).node.dedup.entries =
      match s.accepted (.decode r clock) with
      | some k => Fifo.insert dedupCapacity k s.node.dedup.entries
      | none => s.node.dedup.entries := by
  have hnode : (s.decode sf txAllowed clock r).node = _ :=
    congrArg Core.node (core_decode s sf txAllowed clock r)
  rw [hnode]
  cases r with
  -- only a payload that is checked and new is put into the cache
  | ok payload bins =>
    rw [accepted]
    refine (MeshNode.processRxFrame_entries s.node payload).trans ?_
    cases s.node.channel.checked payload with
    | none => rfl
    | some frame =>
      by_cases hseen : frame.header.key ∈ s.node.dedup.entries
      · simp [hseen, Fifo.insert_of_mem]
      · simp [hseen]
  | _ => rfl

/-- A turn of the decode loop leaves the rebuild flag alone. -/
theorem rebuildNodes_decode (s : SimLoop) (sf : UInt8) (txAllowed : Bool) (clock : RxClock)
    (r : StreamDecodeResult) :
    (s.decode sf txAllowed clock r).core.rebuildNodes = s.core.rebuildNodes := by
  rw [core_decode]
  cases r <;> rfl

variable [Features]

/-- A step, labelled with its event and the key it accepts. -/
def Observed (s : SimLoop) (l : LoopEvent × Option Key) (t : SimLoop) : Prop :=
  s.Step l.1 t ∧ l.2 = s.accepted l.1

/-! ## No rebuild is pending while frames are decoded -/

/-- A rebuild is pending at the top of the loop only. -/
def Settled (s : SimLoop) : Prop := s.phase = .top ∨ s.core.rebuildNodes = false

variable {s t : SimLoop} {e : LoopEvent} {k : Key}

/-- An unpaused iteration settles the rebuild before it decodes anything. -/
theorem settled_step (h : s.Settled) (hstep : s.Step e t) : t.Settled := by
  rcases step_cases hstep with ⟨inp, rfl, htop, rfl⟩ | ⟨sf, txAllowed, r, clock, rfl, hrx, rfl⟩
  · by_cases hrun : (s.drainCommands inp.commands).vm.running = true
    · right
      rw [core_tick]
      exact Core.tick_rebuildNodes (core_drainCommands s inp.commands ▸ hrun)
    · -- paused: still at the top
      left
      rw [tick]
      simp only [hrun]
      exact htop
  · have hflag : s.core.rebuildNodes = false := h.resolve_left (by simp [hrx])
    exact .inr ((rebuildNodes_decode s sf txAllowed clock r).trans hflag)

/-- An unpaused tick that applies a command to rebuild the node forgets every key. -/
theorem rebuild_empties_cache {inp : TickInput}
    (hrun : (inp.commands.foldl Core.apply s.core).running = true)
    (hcmd : ∃ cmd ∈ inp.commands, cmd.rebuildsNode) :
    (s.tick inp).node.dedup.entries = [] := by
  obtain ⟨nodeId, nodeShort, nodeLong, hfresh⟩ :=
    Core.tick_rebuilds hrun (Core.commands_raise (.inr hcmd))
  have hnode : (s.tick inp).node = _ := congrArg Core.node (core_tick s inp)
  rw [hnode, hfresh]
  rfl

/-! ## The newest keys -/

/-- The step that accepts a key makes it the newest. -/
theorem remembers_accepted (h : s.Settled) (hstep : s.Step e t) (hacc : s.accepted e = some k) :
    Remembers k [] t := by
  rcases step_cases hstep with ⟨inp, rfl, -, rfl⟩ | ⟨sf, txAllowed, r, clock, rfl, hrx, rfl⟩
  · exact nomatch hacc
  · have hflag : s.core.rebuildNodes = false := h.resolve_left (by simp [hrx])
    have hlast : [k] <:+ Fifo.insert dedupCapacity k s.node.dedup.entries := by
      rw [Fifo.insert_of_not_mem (accepted_not_mem hacc)]
      exact List.suffix_append _ _
    constructor
    · rw [rebuildNodes_decode, hflag]
    · rw [entries_decode, hacc]
      exact hlast

/-- One step keeps the newest keys and adds the one it accepts. -/
theorem remembers_step {newer : List Key} (h : Remembers k newer s) (hstep : s.Step e t)
    (hkeep : e.keepsNode)
    (hfew : ((newer ++ (s.accepted e).toList).toFinset.erase k).card < dedupCapacity) :
    Remembers k (newer ++ (s.accepted e).toList) t := by
  rcases step_cases hstep with ⟨inp, rfl, -, rfl⟩ | ⟨sf, txAllowed, r, clock, rfl, -, rfl⟩
  · -- a tick keeps the node and accepts nothing
    obtain ⟨hnode, hflag⟩ := Core.tick_keeps h.settled hkeep
    rw [← core_tick] at hnode hflag
    have hsame : (s.tick inp).node = s.node := hnode
    constructor
    · exact hflag
    · rw [hsame]
      simpa [accepted] using h.suffix
  · constructor
    · rw [rebuildNodes_decode, h.settled]
    · rw [entries_decode]
      cases hacc : s.accepted (.decode r clock) with
      | none => simpa using h.suffix
      | some a =>
        -- `k` stays put: the cache is full only if something older can go
        have hnew := accepted_not_mem hacc
        rw [hacc] at hfew
        exact Fifo.suffix_insert s.node.dedup.length_le h.suffix hnew (h.length_lt hnew hfew)

/-- Between the two states a frame was neither delivered nor relayed: the node, the count and
    the calls are the same, and the log is too, up to an error. -/
structure Ignores (s t : SimLoop) : Prop where
  node : t.node = s.node
  calls : t.calls = s.calls
  rxCount : t.vm.rxCount = s.vm.rxCount
  log : t.vm.log = s.vm.log ∨ ∃ now text, t.vm.log = (pushLog s.vm now .error text).log

/-- A frame whose key is in the cache is ignored. -/
theorem ignores_of_mem {payload : List UInt8} {bins : F64} {clock : RxClock} {frame : MeshFrame}
    (hstep : s.Step (.decode (.ok payload bins) clock) t)
    (hframe : MeshFrame.fromBytes payload = some frame)
    (hseen : frame.header.key ∈ s.node.dedup.entries) : s.Ignores t := by
  rcases step_cases hstep with ⟨inp, he, -, -⟩ | ⟨sf, txAllowed, r, clock', he, -, rfl⟩
  · exact nomatch he
  · obtain ⟨rfl, rfl⟩ := LoopEvent.decode.inj he
    rw [decode]
    by_cases hpass : s.node.channel.admits frame.header
    · have hchecked := ChannelConfig.checked_eq_some_iff.mpr ⟨hframe, hpass⟩
      rw [receive_dropped _ _ _ (MeshNode.processRxFrame_seen hchecked hseen)]
      exact ⟨rfl, rfl, rfl, .inl rfl⟩
    · -- a frame of another channel is an error in the log
      have hchecked : s.node.channel.checked payload = none := by
        rw [ChannelConfig.checked, hframe, Option.filter_some, decide_eq_false hpass]
        rfl
      have herr := MeshNode.processRxFrame_unchecked hchecked
      rw [receive_error _ _ _ herr]
      exact ⟨rfl, rfl, rfl, .inr ⟨_, _, rfl⟩⟩

/-- A run without rebuild keeps the newest keys as long as few are accepted. -/
theorem remembers_run {labels : List (LoopEvent × Option Key)}
    (hrun : Lts.Run Observed s labels t) (h : Remembers k [] s)
    (hkeep : ∀ l ∈ labels, l.1.keepsNode)
    (hfew : ((acceptedKeys labels).toFinset.erase k).card < dedupCapacity) :
    Remembers k (acceptedKeys labels) t := by
  -- the bounds on the whole run bound every part of it, so they go into the invariant
  refine hrun.history_invariant (I := fun labels t => (∀ l ∈ labels, l.1.keepsNode) →
    ((acceptedKeys labels).toFinset.erase k).card < dedupCapacity →
    Remembers k (acceptedKeys labels) t) (fun _ _ => h) ?_ hkeep hfew
  rintro labels t l u ih ⟨hstep, hacc⟩ hkeep hfew
  obtain ⟨hkeeps, hkeepl⟩ := List.forall_mem_append.mp hkeep
  have hkeys : acceptedKeys (labels ++ [l]) =
      acceptedKeys labels ++ (t.accepted l.1).toList := by
    rw [← hacc, acceptedKeys, acceptedKeys, List.filterMap_append]
    cases hl : l.2 <;> simp [hl]
  rw [hkeys] at hfew ⊢
  -- so far even fewer keys were accepted
  have hsub : ((acceptedKeys labels).toFinset.erase k).card ≤
      ((acceptedKeys labels ++ (t.accepted l.1).toList).toFinset.erase k).card := by
    apply Finset.card_le_card
    apply Finset.erase_subset_erase
    rw [List.toFinset_append]
    exact Finset.subset_union_left
  have hrem := ih hkeeps (by omega)
  exact remembers_step hrem hstep (hkeepl l (List.mem_singleton.mpr rfl)) hfew

/-- From the start of a run on: once a frame with key `k` was accepted, a later frame with
    that key is ignored as long as no command in between has the node rebuilt and fewer
    than `dedupCapacity` other distinct keys are accepted in between. -/
theorem duplicates_stay_suppressed {random : UInt32} {probed : Bool}
    {uhdOpen : Except String Unit} {before between : List (LoopEvent × Option Key)}
    {s₀ s₁ s₂ t : SimLoop} {e : LoopEvent} {k : Key} {payload : List UInt8} {bins : F64}
    {clock : RxClock} {frame : MeshFrame}
    (hbefore : Lts.Run Observed (start (bootView random probed) uhdOpen) before s₀)
    (haccept : Observed s₀ (e, some k) s₁)
    (hbetween : Lts.Run Observed s₁ between s₂)
    (hkeep : ∀ l ∈ between, l.1.keepsNode)
    (hfew : ((acceptedKeys between).toFinset.erase k).card < dedupCapacity)
    (hlast : s₂.Step (.decode (.ok payload bins) clock) t)
    (hframe : MeshFrame.fromBytes payload = some frame) (hkey : frame.header.key = k) :
    s₂.Ignores t := by
  have hstart : (start (bootView random probed) uhdOpen).Settled :=
    .inr (congrArg Core.rebuildNodes (core_start random probed uhdOpen))
  have hsettled : s₀.Settled :=
    hbefore.invariant hstart fun _ _ _ h hstep => settled_step h hstep.1
  -- `k` enters last, and fewer than a cache of other keys enter after it
  have hrem := remembers_run hbetween (remembers_accepted hsettled haccept.1 haccept.2.symm)
    hkeep hfew
  exact ignores_of_mem hlast hframe (hkey ▸ hrem.suffix.subset List.mem_cons_self)

end

end SimLoop

section

open Samples SimLoop

/-- Node 9 hears the text "hi", and an iteration that applies one more command follows. -/
private theorem heard_then (cmd : Command) (hcmd : ∀ c : Core, (c.apply cmd).running = c.running) :
    ∃ (s₀ s₁ s₂ : SimLoop) (sf : UInt8) (txAllowed : Bool),
      Lts.Run Observed (boot 9) [(Samples.tick [], none)] s₀ ∧
      Observed s₀ (decoded (hi 3), some (hi 3).header.key) s₁ ∧
      Lts.Run Observed s₁ [(idle, none), (Samples.tick [cmd], none)] s₂ ∧
      s₂.phase = .rx sf txAllowed ∧ s₂.core = s₁.core.tick [cmd] ∧
      s₁.core = { (boot 9).core with node := ((node 9).processRxFrame (hi 3).toBytes).2 } := by
  obtain ⟨inp, hinp, hcmds⟩ := exists_tick []
  obtain ⟨inp', hinp', hcmds'⟩ := exists_tick [cmd]
  rw [hinp, hinp']
  have hboot := core_start 9 false (.error "no device")
  rw [← boot] at hboot
  -- the first iteration changes nothing in the core
  let s₀ := (boot 9).tick inp
  have hcore₀ : s₀.core = (boot 9).core := by
    rw [core_tick, hcmds, hboot]
    rfl
  have hnode₀ : s₀.node = node 9 := by
    have := congrArg Core.node hcore₀
    rwa [hboot] at this
  obtain ⟨sf₀, tx₀, hphase₀⟩ : ∃ sf txAllowed, s₀.phase = .rx sf txAllowed :=
    phase_tick (by rw [hcmds, hboot]; rfl)
  let clock : RxClock := { now := "12:00:00", fwdNow := "12:00:00" }
  let s₁ := s₀.receive tx₀ (hi 3).toBytes (offsetHz sf₀ 0.0) clock
  have hcore₁ : s₁.core =
      { (boot 9).core with node := ((node 9).processRxFrame (hi 3).toBytes).2 } := by
    rw [core_receive, hcore₀, hnode₀]
  have hrunning₁ : s₁.core.running = true := by rw [hcore₁, hboot]
  let s' : SimLoop := { s₁ with phase := .top }
  obtain ⟨sf, tx, hphase⟩ : ∃ sf txAllowed, (s'.tick inp').phase = .rx sf txAllowed :=
    phase_tick (by rw [hcmds']; exact (hcmd _).trans hrunning₁)
  refine ⟨s₀, s₁, s'.tick inp', sf, tx, ?_, ⟨?_, ?_⟩, ?_, hphase, ?_, hcore₁⟩
  · exact Lts.Run.nil.snoc ⟨step_tick rfl, rfl⟩
  · exact step_decode hphase₀
  · rw [decoded, accepted, hnode₀]
    decide
  · have hphase₁ : s₁.phase = .rx sf₀ tx₀ := (phase_receive _ _ _ _ _).trans hphase₀
    have hidle : Observed s₁ (idle, none) s' := ⟨step_decode hphase₁, rfl⟩
    exact (Lts.Run.nil.snoc hidle).snoc ⟨step_tick rfl, rfl⟩
  · rw [core_tick, hcmds']
    rfl

/-- Renamed after it has heard a frame, the node delivers the frame once more. -/
theorem rename_forgets_keys :
    ∃ (before between : List (LoopEvent × Option Key)) (s₀ s₁ s₂ t : SimLoop) (k : Key),
      Lts.Run Observed (boot 9) before s₀ ∧ Observed s₀ (decoded (hi 3), some k) s₁ ∧
      Lts.Run Observed s₁ between s₂ ∧
      ((acceptedKeys between).toFinset.erase k).card < dedupCapacity ∧
      (hi 3).header.key = k ∧ s₂.Step (decoded (hi 3)) t ∧
      t.vm.rxCount = s₂.vm.rxCount + 1 := by
  obtain ⟨s₀, s₁, s₂, sf, tx, hbefore, haccept, hbetween, hphase, hcore₂, hcore₁⟩ :=
    heard_then (.setNodeShort "X") fun _ => rfl
  -- the rename has made a node that remembers nothing
  have hnode : s₂.node = MeshNode.withId ChannelConfig.default 9 "X" "Mesh Terminal" := by
    have hnode := congrArg Core.node hcore₂
    rw [hcore₁, boot, core_start] at hnode
    exact hnode
  obtain ⟨msg, fwd, node, hrx, hself⟩ : ∃ msg fwd node,
      s₂.node.processRxFrame (hi 3).toBytes = (.ok (some msg, fwd), node) ∧
        msg.selfOrigin = false := by
    rw [hnode]
    exact ⟨_, _, _, rfl, rfl⟩
  exact ⟨_, _, s₀, s₁, s₂, _, _, hbefore, haccept, hbetween, by decide, rfl,
    step_decode hphase, rxCount_receive _ _ _ hrx hself⟩

/-- Where the destination is changed instead, the second copy is ignored. -/
theorem SimLoop.duplicates_stay_suppressed_sample :
    ∃ (before between : List (LoopEvent × Option Key)) (s₀ s₁ s₂ t : SimLoop) (k : Key),
      Lts.Run Observed (boot 9) before s₀ ∧ Observed s₀ (decoded (hi 3), some k) s₁ ∧
      Lts.Run Observed s₁ between s₂ ∧ (hi 3).header.key = k ∧
      s₂.Step (decoded (hi 3)) t ∧ s₂.Ignores t := by
  obtain ⟨s₀, s₁, s₂, sf, tx, hbefore, haccept, hbetween, hphase, -, -⟩ :=
    heard_then (.setTxDest 4) fun _ => rfl
  have hlast : s₂.Step (decoded (hi 3)) _ := step_decode hphase
  have hkeep : ∀ l ∈ [(idle, none), (Samples.tick [.setTxDest 4], (none : Option Key))],
      l.1.keepsNode := by
    simp [idle, Samples.tick, quiet, LoopEvent.keepsNode, Command.rebuildsNode]
  have hrange : (hi 3).header.InRange := by decide
  exact ⟨_, _, s₀, s₁, s₂, _, _, hbefore, haccept, hbetween, rfl, hlast,
    duplicates_stay_suppressed hbefore haccept hbetween hkeep (by decide) hlast
      (MeshFrame.fromBytes_toBytes_of_inRange hrange) rfl⟩

end

end Mesh
