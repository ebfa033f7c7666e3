import Mesh.Native.Radio

/-!
# What the driver rebuild touches

Whichever branch it takes, the driver rebuild replaces devices, and besides them writes
four settings, the clocks and the gains last set. It opens at most one device, and it
stores a warning exactly when that fails. The branches are gone through once, here;
what the node, the counters and the clients see of a rebuild follows.

## Key results

- `SimLoop.swaps_rebuildDriver`: the footprint of the driver rebuild
-/

namespace Mesh

open Ieee (Arith)

namespace DriverCall

/-- The call opens, parks or un-parks a device. -/
def handsOver : DriverCall → Prop
  | uhdNew _ _ _ _ _ _ _ | park | unpark _ _ _ _ _ => True
  | _ => False

/-- The arguments of a `UhdDevice::new` and whether it succeeded. -/
def opening : DriverCall → Option (String × Bool)
  | uhdNew args _ _ _ _ _ opened => some (args, opened)
  | _ => none

end DriverCall

/-- The `UhdDevice::new` among some calls. -/
def openings (calls : List DriverCall) : List (String × Bool) :=
  calls.filterMap DriverCall.opening

theorem openings_append (cs ds : List DriverCall) :
    openings (cs ++ ds) = openings cs ++ openings ds := List.filterMap_append

/-- The text of a warning. -/
def openFailure (e : String) : String := "UHD open failed: " ++ e

/-- The warning in store after an attempt to open a device. -/
def warningAfter (uhdOpen : Except String Unit) (warning : Option String) : Option String :=
  match uhdOpen with
  | .ok () => warning
  | .error e => some (openFailure e)

namespace SimLoop

/-- What some code of the loop did: it opened nothing and left the warning alone, or it
    tried to open one device and stored a warning if that failed. -/
def Opens (s : SimLoop) (uhdOpen : Except String Unit) (t : SimLoop) : Prop :=
  (openings t.calls = openings s.calls ∧ t.vm.uhdWarning = s.vm.uhdWarning) ∨
    ∃ args, openings t.calls = openings s.calls ++ [(args, uhdOpen.isOk)] ∧
      t.vm.uhdWarning = warningAfter uhdOpen s.vm.uhdWarning

/-- What code that replaces the driver may touch: calls that hand devices over, and four of
    the settings. -/
structure Swaps (s : SimLoop) (uhdOpen : Except String Unit) (t : SimLoop) : Prop where
  node_eq : t.node = s.node
  vm_eq : ∃ useUhd uhdWarning uhdLoading rebuildDriver, t.vm =
    { s.vm with useUhd, uhdWarning, uhdLoading, rebuildDriver }
  calls_eq : ∃ cs, t.calls = s.calls ++ cs ∧ ∀ c ∈ cs, c.handsOver
  opens : s.Opens uhdOpen t

namespace Swaps

variable {s t : SimLoop} {uhdOpen : Except String Unit}

/-- Devices at hand change places. -/
theorem of_reuse (cs : List DriverCall) (hcs : ∀ c ∈ cs, c.handsOver) (hnone : openings cs = [])
    (hcalls : t.calls = s.calls ++ cs) (hnode : t.node = s.node) (hvm : t.vm = s.vm) :
    s.Swaps uhdOpen t where
  node_eq := hnode
  vm_eq := ⟨_, _, _, _, hvm⟩
  calls_eq := ⟨cs, hcalls, hcs⟩
  opens := .inl ⟨by rw [hcalls, openings_append, hnone, List.append_nil], by rw [hvm]⟩

/-- A device is opened. -/
theorem of_open [Arith] (hcalls : t.calls = s.calls ++ [uhdNew s.vm uhdOpen])
    (hnode : t.node = s.node) (useUhd uhdLoading : Bool)
    (hvm : t.vm = { s.vm with
      useUhd, uhdLoading, uhdWarning := warningAfter uhdOpen s.vm.uhdWarning }) :
    s.Swaps uhdOpen t where
  node_eq := hnode
  vm_eq := ⟨_, _, _, _, hvm⟩
  calls_eq := ⟨_, hcalls, List.forall_mem_singleton.mpr trivial⟩
  opens := .inr ⟨s.vm.uhdArgs, by rw [hcalls, openings_append]; rfl, by rw [hvm]⟩

end Swaps

section

variable [Arith]

/-- What opening a device touches. -/
theorem swaps_openUhd (s : SimLoop) (uhdOpen : Except String Unit) :
    s.Swaps uhdOpen (s.openUhd uhdOpen) := by
  cases uhdOpen with
  | ok u => exact .of_open rfl rfl s.vm.useUhd false rfl
  | error e => exact .of_open rfl rfl false false rfl

/-- What the rebuild with UHD enabled touches. -/
theorem swaps_enableUhd (s : SimLoop) (uhdOpen : Except String Unit) :
    s.Swaps uhdOpen (s.enableUhd uhdOpen) := by
  obtain ⟨hnode, hvm, hcalls, hopens⟩ := swaps_openUhd s uhdOpen
  unfold enableUhd
  simp only
  split
  · -- the device in use was opened with these arguments: re-tune it
    have hcalls : ∀ c ∈ [.park, uhdUnpark s.vm], c.handsOver := by
      simp [DriverCall.handsOver, uhdUnpark]
    exact .of_reuse _ hcalls rfl rfl rfl rfl
  · split
    · split
      · -- the parked one was
        exact .of_reuse [uhdUnpark s.vm] (List.forall_mem_singleton.mpr trivial) rfl rfl rfl rfl
      · exact ⟨hnode, hvm, hcalls, hopens⟩
    · exact ⟨hnode, hvm, hcalls, hopens⟩

variable [Features]

/-- What making a fresh driver touches. -/
theorem swaps_remakeDriver (s : SimLoop) (uhdOpen : Except String Unit) :
    s.Swaps uhdOpen (s.remakeDriver uhdOpen) := by
  by_cases huhd : (Features.uhd && s.vm.useUhd) = true
  · -- a failed open ends up on the channel, but was asked for all the same
    cases uhdOpen with
    | ok u =>
      simp only [remakeDriver, makeDriver, huhd, if_true]
      exact .of_open rfl rfl s.vm.useUhd s.vm.uhdLoading rfl
    | error e =>
      simp only [remakeDriver, makeDriver, huhd, if_true]
      exact .of_open rfl rfl false s.vm.uhdLoading rfl
  · simp only [remakeDriver, makeDriver, huhd]
    exact .of_reuse [] (List.forall_mem_nil _) rfl rfl rfl rfl

/-- What the rebuild with UHD disabled touches. -/
theorem swaps_disableUhd (s : SimLoop) (uhdOpen : Except String Unit) :
    s.Swaps uhdOpen (s.disableUhd uhdOpen) := by
  unfold disableUhd
  split
  · -- the device is kept, parked
    exact .of_reuse [.park] (List.forall_mem_singleton.mpr trivial) rfl rfl rfl rfl
  · exact swaps_remakeDriver s uhdOpen

/-- At start-up the driver decides two of the settings. -/
theorem vm_start (vm : ViewModel) (uhdOpen : Except String Unit) :
    ∃ useUhd uhdWarning, (start vm uhdOpen).vm = { (buildNode vm).2 with
      useUhd, uhdWarning, uhdLoading := false, rebuildDriver := false } := by
  by_cases huhd : (Features.uhd && (buildNode vm).2.useUhd) = true
  · simp only [start, makeDriver, huhd, if_true]
    cases uhdOpen <;> exact ⟨_, _, rfl⟩
  · simp only [start, makeDriver, huhd]
    exact ⟨_, _, rfl⟩

/-- The footprint of the driver rebuild. -/
theorem swaps_rebuildDriver (s : SimLoop) (uhdOpen : Except String Unit) :
    s.Swaps uhdOpen (s.rebuildDriver uhdOpen) := by
  -- the flag is one of the four settings, and the clocks are not looked at
  have hclocks : ∀ t : SimLoop,
      { s with vm := { s.vm with rebuildDriver := false } }.Swaps uhdOpen t → s.Swaps uhdOpen
        { t with produced := 0, nextTxAt := srHz, nextBeaconAt := srHz / 2 } :=
    fun t h => ⟨h.node_eq, h.vm_eq, h.calls_eq, h.opens⟩
  unfold rebuildDriver
  split
  · apply hclocks
    split
    · split
      · exact swaps_enableUhd _ uhdOpen
      · exact swaps_disableUhd _ uhdOpen
    · -- built without UHD
      exact swaps_remakeDriver _ uhdOpen
  · exact .of_reuse [] (List.forall_mem_nil _) rfl (List.append_nil _).symm rfl rfl

end

end SimLoop

end Mesh
