import Mesh.Spec.DeviceCorrect

/-!
# One device at a time

The driver rebuild moves drivers between the two variables of the loop and a local,
one assignment after the other (`SimLoop.moves`). Between any two of them at most one
UHD device exists, and `UhdDevice::new` is called only while none does.

## Key results

- `SimLoop.step_moves`: the assignments lead from the slots before a step to those
  after it, and open what the step opens
- `SimLoop.loading_shown`: who looks on sees that a device is loading
- `SimLoop.careful_moves`: every moment of a step is safe
- `device_life_cycle`: both, over every run
-/

namespace Mesh

open Ieee (F32 F64 Arith)

/-- Where a driver can be held: in use, parked, or in a local on its way. -/
structure Slots where
  active : Option Driver
  parked : Option Driver
  hand : Option Driver

namespace Slots

/-- No driver anywhere. -/
def empty : Slots := { active := none, parked := none, hand := none }

/-- An overwritten driver is dropped. -/
def apply (x : Slots) : Move → Slots
  | .openUhd args opened => if opened then { x with hand := some (.uhd args) } else x
  | .channel noiseSigma signalAmp => { x with active := some (.channel noiseSigma signalAmp) }
  | .dropParked => { x with parked := none }
  | .takeParked => { x with parked := none, hand := x.parked }
  | .install => { x with active := x.hand, hand := none }
  | .replace noiseSigma signalAmp =>
    { x with active := some (.channel noiseSigma signalAmp), hand := x.active }
  | .stow => { x with parked := x.hand, hand := none }

/-- The number of UHD devices in existence. -/
def alive (x : Slots) : Nat :=
  (x.active.toList ++ x.parked.toList ++ x.hand.toList).countP Driver.isParkable

/-- At most one device exists, and one is parked only while a channel is in use. -/
structure Safe (x : Slots) : Prop where
  one : x.alive ≤ 1
  exclusive : x.parked.isSome = true → ∃ noiseSigma signalAmp,
    x.active = some (.channel noiseSigma signalAmp)

/-- Every moment of some moves is safe, and a device is opened only while none exists. -/
def Careful (x : Slots) : List Move → Prop
  | [] => x.Safe
  | m :: ms => x.Safe ∧ (m.opening.isSome = true → x.alive = 0) ∧ Careful (x.apply m) ms

/-- A move that opens nothing. -/
theorem careful_quiet {x : Slots} {m : Move} {ms : List Move} (hm : m.opening = none)
    (hx : x.Safe) (hms : (x.apply m).Careful ms) : x.Careful (m :: ms) := by
  refine ⟨hx, ?_, hms⟩
  intro hopen
  rw [hm] at hopen
  exact absurd hopen Bool.false_ne_true

/-- A device opened while none exists. -/
theorem careful_open {x : Slots} {m : Move} {ms : List Move} (hx : x.Safe) (hnone : x.alive = 0)
    (hms : (x.apply m).Careful ms) : x.Careful (m :: ms) :=
  ⟨hx, fun _ => hnone, hms⟩

/-- With nothing parked it is enough to count. -/
theorem safe_of_none_parked {active hand : Option Driver}
    (h : alive { active, parked := none, hand } ≤ 1) : Safe { active, parked := none, hand } :=
  ⟨h, fun hparked => absurd hparked Bool.false_ne_true⟩

/-- A single driver, in use. -/
theorem safe_active (d : Driver) : Safe { active := some d, parked := none, hand := none } :=
  safe_of_none_parked List.countP_le_length

/-- A channel in use and another driver on its way. -/
theorem safe_hand (noiseSigma signalAmp : F32) (d : Driver) :
    Safe { active := some (.channel noiseSigma signalAmp), parked := none, hand := some d } := by
  refine safe_of_none_parked ?_
  cases d
  · exact Nat.zero_le 1
  · exact le_refl 1

/-- A channel in use and a device parked. -/
theorem safe_parked (noiseSigma signalAmp : F32) (args : String) :
    Safe { active := some (.channel noiseSigma signalAmp), parked := some (.uhd args)
           hand := none } :=
  ⟨le_refl 1, fun _ => ⟨noiseSigma, signalAmp, rfl⟩⟩

end Slots

/-! ## The assignments lead to the state after the step -/

/-- The slots of a rig between two steps. -/
def Rig.slots (g : Rig) : Slots where
  active := some g.driver
  parked := g.parkedUhd.map Prod.fst
  hand := none

namespace SimLoop

/-- The slots between two steps. -/
def slots (s : SimLoop) : Slots := s.rig.slots

/-- From a state, some moves lead to the slots of another, and open what it has opened since. -/
structure Leads (s : SimLoop) (ms : List Move) (t : SimLoop) : Prop where
  slots : ms.foldl Slots.apply s.slots = t.slots
  opened : openings t.calls = openings s.calls ++ ms.filterMap Move.opening

section

variable [Arith]

/-- The assignments of `openUhd` lead to its result. -/
theorem leads_openUhd (s : SimLoop) (uhdOpen : Except String Unit) :
    s.Leads (openMoves s.vm uhdOpen) (s.openUhd uhdOpen) := by
  cases uhdOpen <;> exact ⟨rfl, openings_append _ _⟩

variable [Features]

/-- The assignments of `makeDriver` lead to the fresh driver. -/
theorem leads_remakeDriver (s : SimLoop) (uhdOpen : Except String Unit) :
    s.Leads (makeMoves s.vm uhdOpen) (s.remakeDriver uhdOpen) := by
  by_cases huhd : (Features.uhd && s.vm.useUhd) = true
  · simp only [makeMoves, remakeDriver, makeDriver, huhd, if_true]
    cases uhdOpen <;> exact ⟨rfl, openings_append _ _⟩
  · simp only [makeMoves, remakeDriver, makeDriver, huhd]
    exact ⟨rfl, openings_append _ _⟩

omit [Features] in
/-- The assignments of the rebuild with UHD enabled lead to its result. -/
theorem leads_enableUhd (s : SimLoop) (uhdOpen : Except String Unit) :
    s.Leads (if s.driver.isParkable && s.activeUhdArgs == s.vm.uhdArgs then []
      else match s.parkedUhd with
        | some (_, args) =>
          if args = s.vm.uhdArgs then [.takeParked, .install] else openMoves s.vm uhdOpen
        | none => openMoves s.vm uhdOpen) (s.enableUhd uhdOpen) := by
  -- opening is one and the same in the two branches without a matching parked device
  obtain ⟨hslots, hopened⟩ := leads_openUhd s uhdOpen
  unfold enableUhd
  simp only
  split
  · exact ⟨rfl, openings_append _ _⟩
  · cases hparked : s.parkedUhd with
    | none => exact ⟨hslots, hopened⟩
    | some p =>
      simp only
      split
      · constructor
        · simp only [Slots.apply, List.foldl, slots, rig, Rig.slots, call, hparked]
          rfl
        · exact openings_append _ _
      · exact ⟨hslots, hopened⟩

/-- The assignments of the rebuild with UHD disabled lead to its result. -/
theorem leads_disableUhd (s : SimLoop) (uhdOpen : Except String Unit) :
    s.Leads (if s.driver.isParkable then [.replace s.vm.noiseSigma s.vm.signalAmp, .stow]
      else makeMoves s.vm uhdOpen) (s.disableUhd uhdOpen) := by
  unfold disableUhd
  split
  · exact ⟨rfl, openings_append _ _⟩
  · exact leads_remakeDriver s uhdOpen

/-- The assignments of the driver rebuild lead to its result. -/
theorem leads_rebuildDriver (s : SimLoop) (uhdOpen : Except String Unit) :
    s.Leads (s.rebuildMoves uhdOpen) (s.rebuildDriver uhdOpen) := by
  unfold rebuildMoves rebuildDriver
  simp only
  split
  · -- neither the flag nor the clocks are in the slots
    have hclocks : ∀ {ms : List Move} {t : SimLoop},
        { s with vm := { s.vm with rebuildDriver := false } }.Leads ms t → s.Leads ms { t with
          produced := 0, nextTxAt := srHz, nextBeaconAt := srHz / 2 } :=
      fun h => ⟨h.slots, h.opened⟩
    apply hclocks
    split
    · split
      · exact leads_enableUhd _ uhdOpen
      · exact leads_disableUhd _ uhdOpen
    · exact leads_remakeDriver _ uhdOpen
  · exact ⟨rfl, (List.append_nil _).symm⟩

end

/-! ## Every moment is safe -/

/-- Parking is what ends the use of a device. -/
theorem channel_of_parked {s : SimLoop} (h : s.devices.Sound) {p : Driver × String}
    (hparked : s.parkedUhd = some p) :
    ∃ noiseSigma signalAmp args, s.driver = .channel noiseSigma signalAmp ∧ p.1 = .uhd args := by
  have hlabel : s.devices.parked = some (p.1.args, p.2) := congrArg (Option.map _) hparked
  -- a parked driver is a device, and what is in use then is not
  obtain ⟨hnone, hsome⟩ := h.exclusive _ hlabel
  obtain ⟨args, hargs⟩ := Option.isSome_iff_exists.mp hsome
  have hdriver : s.driver.args = none := hnone
  cases hd : s.driver with
  | channel noiseSigma signalAmp => exact ⟨_, _, args, rfl, Driver.eq_uhd_of_args hargs⟩
  | uhd a => rw [hd] at hdriver; exact nomatch hdriver

theorem slots_of_none {s : SimLoop} (hparked : s.parkedUhd = none) :
    s.slots = { active := some s.driver, parked := none, hand := none } := by
  rw [slots, Rig.slots, rig, hparked]
  rfl

/-- The slots while a device is parked: the driver is a channel. -/
theorem slots_of_parked {s : SimLoop} (h : s.devices.Sound) {p : Driver × String}
    (hparked : s.parkedUhd = some p) : ∃ noiseSigma signalAmp args, s.slots = {
      active := some (.channel noiseSigma signalAmp), parked := some (.uhd args)
      hand := none } := by
  obtain ⟨noiseSigma, signalAmp, args, hdriver, hdev⟩ := channel_of_parked h hparked
  refine ⟨noiseSigma, signalAmp, args, ?_⟩
  rw [slots, Rig.slots, rig, hparked, hdriver, Option.map_some, hdev]

/-- The slots while a device is in use: nothing is parked. -/
theorem slots_of_isParkable {s : SimLoop} (h : s.devices.Sound)
    (hactive : s.driver.isParkable = true) :
    ∃ args, s.slots = { active := some (.uhd args), parked := none, hand := none } := by
  cases hdriver : s.driver with
  | channel noiseSigma signalAmp => rw [hdriver] at hactive; exact nomatch hactive
  | uhd args =>
    cases hparked : s.parkedUhd with
    | none => exact ⟨args, by rw [slots_of_none hparked, hdriver]⟩
    | some p =>
      obtain ⟨_, _, _, hchannel, _⟩ := channel_of_parked h hparked
      exact nomatch hdriver.symm.trans hchannel

/-- Between two steps at most one device exists. -/
theorem safe_slots {s : SimLoop} (h : s.devices.Sound) : s.slots.Safe := by
  cases hparked : s.parkedUhd with
  | none => exact slots_of_none hparked ▸ Slots.safe_active s.driver
  | some p =>
    obtain ⟨noiseSigma, signalAmp, args, hslots⟩ := slots_of_parked h hparked
    exact hslots ▸ Slots.safe_parked noiseSigma signalAmp args

/-- Both old drivers are dropped before a device is opened. -/
theorem careful_openMoves {s : SimLoop} (h : s.slots.Safe) (uhdOpen : Except String Unit) :
    s.slots.Careful (openMoves s.vm uhdOpen) := by
  have hdropped := Slots.safe_active s.driver
  have hchannel := Slots.safe_active (.channel 0.0 1.0)
  -- by then both old drivers are gone
  have hnew := Slots.safe_hand 0.0 1.0 (.uhd s.vm.uhdArgs)
  have hopened := Slots.safe_active (.uhd s.vm.uhdArgs)
  cases uhdOpen with
  | ok u =>
    -- drop the parked device, drop the one in use, open, install
    exact Slots.careful_quiet rfl h (Slots.careful_quiet rfl hdropped
      (Slots.careful_open hchannel rfl (Slots.careful_quiet rfl hnew hopened)))
  | error e =>
    exact Slots.careful_quiet rfl h (Slots.careful_quiet rfl hdropped
      (Slots.careful_open hchannel rfl hchannel))

section

variable [Arith] [Features]

/-- Every assignment of a driver rebuild keeps the slots safe. -/
theorem careful_rebuildMoves (huhd : Features.uhd = true) {s : SimLoop} (h : s.devices.Sound)
    (uhdOpen : Except String Unit) : s.slots.Careful (s.rebuildMoves uhdOpen) := by
  have hsafe := safe_slots h
  unfold rebuildMoves
  simp only [huhd, if_true]
  split
  · split
    · -- keep the device in use, take the parked one, or open one
      split
      · exact hsafe
      · split
        · rename_i dev args hparked
          split
          · obtain ⟨noiseSigma, signalAmp, a, hslots⟩ := slots_of_parked h hparked
            rw [hslots] at hsafe ⊢
            exact Slots.careful_quiet rfl hsafe
              (Slots.careful_quiet rfl (Slots.safe_hand _ _ _) (Slots.safe_active _))
          · exact careful_openMoves hsafe uhdOpen
        · exact careful_openMoves hsafe uhdOpen
    · rename_i huse
      split
      · -- a device in use goes to the empty slot
        rename_i hactive
        obtain ⟨args, hslots⟩ := slots_of_isParkable h hactive
        rw [hslots] at hsafe ⊢
        exact Slots.careful_quiet rfl hsafe
          (Slots.careful_quiet rfl (Slots.safe_hand _ _ _) (Slots.safe_parked _ _ _))
      · -- one channel takes the place of another
        have huse' : s.vm.useUhd = false := Bool.not_eq_true _ ▸ huse
        have hoff : (Features.uhd && s.vm.useUhd) = false := by rw [huse', Bool.and_false]
        simp only [makeMoves, hoff, Bool.false_eq_true, if_false]
        apply Slots.careful_quiet rfl hsafe
        cases hparked : s.parkedUhd with
        | none =>
          rw [slots_of_none hparked]
          exact Slots.safe_active _
        | some p =>
          obtain ⟨noiseSigma, signalAmp, args, hslots⟩ := slots_of_parked h hparked
          rw [hslots]
          exact Slots.safe_parked _ _ _
  · exact hsafe

variable [Prost] [Aes256]

/-- The assignments of a step lead to the slots after it. -/
theorem step_moves {s t : SimLoop} {e : LoopEvent} (h : s.Step e t) :
    s.Leads (s.moves e) t := by
  have hsame : ∀ a b : SimLoop, b.rig = a.rig → a.Leads [] b := fun a b hrig =>
    ⟨(congrArg Rig.slots hrig).symm, (congrArg Rig.opened hrig).trans (List.append_nil _).symm⟩
  rcases step_cases h with ⟨inp, rfl, -, rfl⟩ | ⟨sf, txAllowed, r, clock, rfl, -, rfl⟩
  · unfold moves
    simp only
    split
    · rename_i hrun
      -- the node rebuild before and everything after leave the rig alone
      have hbefore := rig_rebuildNode (s.drainCommands inp.commands) inp.rebuildNow
      have hafter := rig_tick hrun
      obtain ⟨hslots, hopened⟩ := leads_rebuildDriver
        ((s.drainCommands inp.commands).rebuildNode inp.rebuildNow) inp.uhdOpen
      have hfrom : ((s.drainCommands inp.commands).rebuildNode inp.rebuildNow).slots = s.slots :=
        (congrArg Rig.slots hbefore :)
      have hopens : openings ((s.drainCommands inp.commands).rebuildNode inp.rebuildNow).calls =
        openings s.calls := (congrArg Rig.opened hbefore :)
      rw [hfrom] at hslots
      rw [hopens] at hopened
      exact ⟨hslots.trans (congrArg Rig.slots hafter).symm,
        (congrArg Rig.opened hafter).trans hopened⟩
    · rename_i hrun
      rw [tick_paused (Bool.not_eq_true _ ▸ hrun)]
      exact ⟨rfl, (List.append_nil _).symm⟩
  · exact hsame _ _ (rig_decode s sf txAllowed clock r)

omit [Prost] [Aes256] in
/-- A rebuild that opens a device goes through a state that says so. -/
theorem exists_loadingStage {s : SimLoop} {uhdOpen : Except String Unit}
    (h : openings (s.rebuildDriver uhdOpen).calls ≠ openings s.calls) :
    ∃ u ∈ s.loadingStages uhdOpen, u.vm.uhdLoading = true := by
  have hany : ((s.rebuildMoves uhdOpen).any fun m => m.opening.isSome) = true := by
    by_contra hnone
    refine h ?_
    -- without an opening among the assignments nothing was opened
    have hmoves : (s.rebuildMoves uhdOpen).filterMap Move.opening = [] := by
      rw [List.filterMap_eq_nil_iff]
      intro m hm
      simp only [List.any_eq_true, not_exists, not_and] at hnone
      exact Option.not_isSome_iff_eq_none.mp (hnone m hm)
    rw [(leads_rebuildDriver s uhdOpen).opened, hmoves, List.append_nil]
  refine ⟨{ s with vm := { s.vm with rebuildDriver := false } }.openingUhd, ?_, rfl⟩
  rw [loadingStages, if_pos hany]
  exact List.mem_singleton_self _

/-- While an iteration opens a device, the view-model on display says that one is loading. -/
theorem loading_shown {s : SimLoop} {inp : TickInput}
    (h : openings (s.tick inp).calls ≠ openings s.calls) :
    ∃ vm ∈ s.tickViews inp, vm.uhdLoading = true := by
  unfold tickViews
  simp only
  split
  · rename_i hrun
    -- all openings of an iteration are those of its driver rebuild
    have hafter := (congrArg Rig.opened (rig_tick hrun) :)
    have hbefore := (congrArg Rig.opened
      (rig_rebuildNode (s.drainCommands inp.commands) inp.rebuildNow) :)
    have hopened : openings (((s.drainCommands inp.commands).rebuildNode
        inp.rebuildNow).rebuildDriver inp.uhdOpen).calls ≠
          openings ((s.drainCommands inp.commands).rebuildNode inp.rebuildNow).calls :=
      fun hsame => h (hafter.trans (hsame.trans hbefore))
    obtain ⟨u, hu, hloading⟩ := exists_loadingStage hopened
    refine ⟨u.vm, List.mem_map_of_mem ?_, hloading⟩
    simp only [runStages, List.mem_append]
    exact .inl (.inl (.inl (.inl (.inl (.inr hu)))))
  · rename_i hrun
    -- a paused iteration opens nothing
    rw [tick_paused (Bool.not_eq_true _ ▸ hrun)] at h
    exact absurd rfl h

/-- What is on display in the end is the view-model after the iteration. -/
theorem getLast?_tickViews (s : SimLoop) (inp : TickInput) :
    (s.tickViews inp).getLast? = some (s.tick inp).vm := by
  unfold tickViews tick
  simp only
  split
  · rw [runStages, List.map_append]
    exact List.getLast?_concat
  · rfl

/-- The devices are sound throughout a run. -/
theorem sound_run (huhd : Features.uhd = true) {random : UInt32} {probed : Bool}
    {uhdOpen : Except String Unit} {es : List LoopEvent} {s : SimLoop}
    (hrun : Lts.Run Step (start (bootView random probed) uhdOpen) es s) : s.devices.Sound := by
  refine hrun.invariant (I := fun t => t.devices.Sound) ?_ ?_
  · rw [devices_start huhd]
    exact .boot probed uhdOpen
  · intro a e b ha hstep
    rcases step_cases hstep with ⟨inp, rfl, -, rfl⟩ | ⟨sf, txAllowed, r, clock, rfl, -, rfl⟩
    · rw [devices_tick huhd]
      exact ha.tick inp.commands inp.uhdOpen
    · rw [devices_decode]
      exact ha

omit [Prost] [Aes256] in
/-- Every assignment of a step keeps the slots safe. -/
theorem careful_moves (huhd : Features.uhd = true) {s : SimLoop} (h : s.devices.Sound)
    (e : LoopEvent) : s.slots.Careful (s.moves e) := by
  cases e with
  | tick inp =>
    unfold moves
    simp only
    split
    · -- commands and the node rebuild move no driver
      have hbefore := rig_rebuildNode (s.drainCommands inp.commands) inp.rebuildNow
      have hfrom : ((s.drainCommands inp.commands).rebuildNode inp.rebuildNow).slots = s.slots :=
        (congrArg Rig.slots hbefore :)
      rw [← hfrom]
      apply careful_rebuildMoves huhd
      rw [devices, hbefore, ← devices, devices_drainCommands]
      exact h.commanded inp.commands
    · exact safe_slots h
  | decode r clock => exact safe_slots h

omit [Prost] [Aes256] in
/-- Start-up is one `make_driver`, from empty slots. -/
theorem careful_start (huhd : Features.uhd = true) (random : UInt32) (probed : Bool)
    (uhdOpen : Except String Unit) :
    Slots.empty.Careful (makeMoves (bootView random probed) uhdOpen) ∧
      (makeMoves (bootView random probed) uhdOpen).foldl Slots.apply Slots.empty =
        (start (bootView random probed) uhdOpen).slots ∧
      openings (start (bootView random probed) uhdOpen).calls =
        (makeMoves (bootView random probed) uhdOpen).filterMap Move.opening := by
  -- without a USRP a channel is made; with one the device is opened, or a channel made in its place
  have hempty : Slots.empty.Safe := Slots.safe_of_none_parked (Nat.zero_le 1)
  have hchannel := Slots.safe_active
    (.channel (bootView random probed).noiseSigma (bootView random probed).signalAmp)
  cases probed with
  | false =>
    have hoff : (Features.uhd && (bootView random false).useUhd) = false := Bool.and_false _
    have hmoves : makeMoves (bootView random false) uhdOpen =
        [.channel (bootView random false).noiseSigma (bootView random false).signalAmp] := by
      rw [makeMoves, hoff, if_neg Bool.false_ne_true]
    rw [hmoves]
    refine ⟨Slots.careful_quiet rfl hempty hchannel, ?_⟩
    simp only [start, makeDriver, buildNode, hoff]
    exact ⟨rfl, rfl⟩
  | true =>
    have hon : (Features.uhd && (bootView random true).useUhd) = true := by rw [huhd]; rfl
    cases uhdOpen with
    | ok u =>
      have hmoves : makeMoves (bootView random true) (.ok u) = [.openUhd "" true, .install] := by
        rw [makeMoves, hon, if_pos rfl]
        rfl
      have hhand : Slots.Safe { active := none, parked := none, hand := some (.uhd "") } :=
        Slots.safe_of_none_parked (le_refl 1)
      rw [hmoves]
      refine ⟨Slots.careful_open hempty rfl
        (Slots.careful_quiet rfl hhand (Slots.safe_active _)), ?_⟩
      simp only [start, makeDriver, buildNode, hon]
      exact ⟨rfl, rfl⟩
    | error e =>
      have hmoves : makeMoves (bootView random true) (.error e) = [.openUhd "" false,
          .channel (bootView random true).noiseSigma (bootView random true).signalAmp] := by
        rw [makeMoves, hon, if_pos rfl]
        rfl
      rw [hmoves]
      refine ⟨Slots.careful_open hempty rfl (Slots.careful_quiet rfl hempty hchannel), ?_⟩
      simp only [start, makeDriver, buildNode, hon]
      exact ⟨rfl, rfl⟩

end

end SimLoop

section

variable [Arith] [Prost] [Aes256] [Features]

/-- In every run of a build with UHD: at start-up and in every step the drivers move
    between the slots such that at every moment at most one UHD device exists, one is parked
    only while the simulated channel is in use, and `UhdDevice::new` is called only while
    none exists; and after the driver rebuild of an unpaused iteration `useUhd` says whether
    the driver in use is a UHD device. -/
theorem device_life_cycle (huhd : Features.uhd = true) {random : UInt32} {probed : Bool}
    {uhdOpen : Except String Unit} {es : List LoopEvent} {s t : SimLoop} {e : LoopEvent}
    (hrun : Lts.Run SimLoop.Step (SimLoop.start (bootView random probed) uhdOpen) es s)
    (hstep : s.Step e t) :
    (Slots.empty.Careful (makeMoves (bootView random probed) uhdOpen) ∧
      (makeMoves (bootView random probed) uhdOpen).foldl Slots.apply Slots.empty =
        (SimLoop.start (bootView random probed) uhdOpen).slots ∧
      openings (SimLoop.start (bootView random probed) uhdOpen).calls =
        (makeMoves (bootView random probed) uhdOpen).filterMap Move.opening) ∧
    (s.slots.Careful (s.moves e) ∧
      (s.moves e).foldl Slots.apply s.slots = t.slots ∧
      openings t.calls = openings s.calls ++ (s.moves e).filterMap Move.opening) ∧
    ∀ inp, e = .tick inp → (s.drainCommands inp.commands).vm.running = true →
      ((s.rebuilt inp).vm.useUhd = true ↔ (s.rebuilt inp).driver.isParkable = true) := by
  have hsound := SimLoop.sound_run huhd hrun
  obtain ⟨hslots, hopened⟩ := SimLoop.step_moves hstep
  refine ⟨SimLoop.careful_start huhd random probed uhdOpen,
    ⟨SimLoop.careful_moves huhd hsound e, hslots, hopened⟩, ?_⟩
  rintro inp - -
  -- the driver rebuild leaves flag and driver in agreement
  have hmatched := ((hsound.commanded inp.commands).rebuilt
    (Devices.rebuild_rebuilt _ inp.uhdOpen)).2
  rw [← SimLoop.devices_rebuilt huhd] at hmatched
  have hactive : (s.rebuilt inp).driver.isParkable = (s.rebuilt inp).vm.useUhd :=
    (Driver.isParkable_eq _).trans hmatched
  rw [hactive]

end

section

open Samples

/-- The first tick of a loop without a USRP, which switches UHD on. -/
theorem device_life_cycle_sample : ∃ (inp : TickInput),
    ((Samples.boot 1).rebuilt inp).vm.useUhd = true ↔
      ((Samples.boot 1).rebuilt inp).driver.isParkable = true := by
  obtain ⟨inp, -, hcmds⟩ := exists_tick [.setUhdEnabled true]
  have hunpaused : ((Samples.boot 1).drainCommands inp.commands).vm.running = true := by
    rw [hcmds]
    rfl
  exact ⟨inp, (device_life_cycle rfl .nil (SimLoop.step_tick rfl)).2.2 inp rfl hunpaused⟩

end

end Mesh
