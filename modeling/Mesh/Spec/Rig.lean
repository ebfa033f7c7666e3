import Mesh.Spec.RadioCorrect

/-!
# The radio as it is set up

`Rig` is what commands and the driver rebuild alone decide: the settings, the
device in use, the parked one and the devices opened so far. An iteration sets
the rig up first and then works with it, so whatever is read from a rig after the
driver rebuild stays true for the rest of the iteration and while frames are
decoded.

## Key results

- `SimLoop.rig_tick`, `SimLoop.rig_decode`: the two kinds of steps
- `SimLoop.settings_rebuilt`: what the driver rebuild does to the settings
- `Untouched.tick`, `Untouched.decode`: readings that only commands change
-/

namespace Mesh

open Ieee (F32 F64 Arith)

/-- The view-model without what the loop itself counts, logs and displays. -/
def ViewModel.settings (vm : ViewModel) : ViewModel :=
  { vm with
    log := [], neighbours := [], nodeIdStr := "", txCount := 0, rxCount := 0
    latestSpectrum := [], latestWaterfallRow := [], txQueue := [], rebuildNodes := false }

/-- Setting a parameter opens nothing. -/
theorem DriverCall.opening_of_setsParam {c : DriverCall} (h : c.setsParam) :
    c.opening = none := by
  cases c <;> first | rfl | exact h.elim

/-- The settings and the devices. -/
structure Rig where
  settings : ViewModel
  driver : Driver
  parkedUhd : Option (Driver × String)
  activeUhdArgs : String
  opened : List (String × Bool)

namespace SimLoop

/-- The rig of a state. -/
def rig (s : SimLoop) : Rig where
  settings := s.vm.settings
  driver := s.driver
  parkedUhd := s.parkedUhd
  activeUhdArgs := s.activeUhdArgs
  opened := openings s.calls

/-! ## Phases that leave the rig alone -/

/-- Calls other than `UhdDevice::new`. -/
theorem rig_call (s : SimLoop) {cs : List DriverCall} (h : openings cs = []) :
    (s.call cs).rig = s.rig := by
  have hcalls : openings (s.calls ++ cs) = openings s.calls := by
    rw [openings, List.filterMap_append, ← openings, ← openings, h, List.append_nil]
  simp only [rig, call, hcalls]

theorem rig_transmit (s : SimLoop) (site : TxSite) (frame : MeshFrame) :
    (s.transmit site frame).rig = s.rig := rig_call s rfl

/-- A node rebuild leaves settings and devices alone. -/
theorem rig_rebuildNode (s : SimLoop) (now : String) : (s.rebuildNode now).rig = s.rig := by
  unfold rebuildNode
  split <;> rfl

theorem rig_clampNextTx (s : SimLoop) (intervalSamples : UInt64) :
    (s.clampNextTx intervalSamples).rig = s.rig := by
  unfold clampNextTx
  split <;> rfl

/-- New parameters open no device and are no new settings. -/
theorem rig_applyParams [Arith] (s : SimLoop) (sf : UInt8) : (s.applyParams sf).rig = s.rig := by
  refine applyParams_keeps (P := fun t => t.rig = s.rig) rfl ?_ ?_ ?_ sf
  · intro t cs hcs ht
    refine (rig_call t ?_).trans ht
    exact List.filterMap_eq_nil_iff.mpr fun c hc => DriverCall.opening_of_setsParam (hcs c hc)
  · exact fun _ _ _ ht => ht
  · exact fun _ _ _ _ ht => ht

theorem rig_tickDriver [Arith] (s : SimLoop) (mixedLen : Nat) (spectra : List (List F64)) :
    (s.tickDriver mixedLen spectra).rig = s.rig :=
  rig_call s (show openings [.tick 16000] = [] from rfl)

/-! ## What the work of the loop keeps -/

/-- Kept by transmissions, by all that the loop counts, logs and displays, by the memory of
    its node and by the times of what is due next. -/
structure Lasting (P : SimLoop → Prop) : Prop where
  transmit : ∀ (t : SimLoop) (site : TxSite) (frame : MeshFrame), P t → P (t.transmit site frame)
  display : ∀ (t : SimLoop) (vm : ViewModel), vm.settings = t.vm.settings → P t → P { t with vm }
  node : ∀ (t : SimLoop) (node : MeshNode), P t → P { t with node }
  due : ∀ (t : SimLoop) (nextTxAt nextBeaconAt : UInt64) (seq : UInt32), P t →
    P { t with nextTxAt, nextBeaconAt, seq }

namespace Lasting

variable {P : SimLoop → Prop} {s : SimLoop}

section

variable [Prost] [Aes256]

/-- A beacon keeps what lasts. -/
theorem sendBeacon (h : Lasting P) (hs : P s) (random : UInt32) (txAllowed : Bool) :
    P (s.sendBeacon random txAllowed) :=
  sendBeacon_keeps hs (fun t at' => h.due t t.nextTxAt at' t.seq)
    (fun t frame => h.transmit t .beacon frame) (fun t _ => h.display t _ rfl) random txAllowed

/-- A text keeps what lasts. -/
theorem sendText (h : Lasting P) (hs : P s) (site : TxSite) (o : Oracle) (txDest : UInt32)
    (text : String) : P (s.sendText site o txDest text) := by
  unfold SimLoop.sendText
  split
  · exact h.transmit _ site _ (h.display s _ rfl hs)
  · exact hs

theorem sendTexts (h : Lasting P) (hs : P s) (oracle : Nat → Oracle) (txDest : UInt32) (i : Nat)
    (texts : List String) : P (s.sendTexts oracle txDest i texts) := by
  induction texts generalizing s i with
  | nil => exact hs
  | cons text rest ih => exact ih (h.sendText hs _ _ _ _) (i + 1)

theorem manualTx (h : Lasting P) (hs : P s) (oracle : Nat → Oracle) (txAllowed : Bool)
    (txDest : UInt32) : P (s.manualTx oracle txAllowed txDest) := by
  have hdrained := h.display s { s.vm with txQueue := [] } rfl hs
  unfold SimLoop.manualTx
  cases txAllowed with
  | true => exact h.sendTexts hdrained _ _ _ _
  | false => exact hdrained

theorem autoTx (h : Lasting P) (hs : P s) (o : Oracle) (txAllowed : Bool) (txDest : UInt32)
    (intervalSamples : UInt64) : P (s.autoTx o txAllowed txDest intervalSamples) := by
  unfold SimLoop.autoTx
  split
  · exact h.sendText (h.due s _ s.nextBeaconAt _ hs) _ _ _ _
  · exact hs

end

theorem relay (h : Lasting P) (hs : P s) (site : TxSite) (txAllowed : Bool) (now : String)
    (fwd : MeshFrame) : P (s.relay site txAllowed now fwd) := by
  unfold SimLoop.relay
  split
  · exact h.display _ _ rfl (h.transmit s site fwd hs)
  · exact hs

variable [Arith] [Prost]

theorem deliver (h : Lasting P) (hs : P s) (msg : MeshMessage) (now : String) (offHz : F64) :
    P (s.deliver msg now offHz) := by
  unfold SimLoop.deliver
  split
  · exact h.display s _ rfl hs
  · exact h.display s _ rfl hs

theorem receive [Aes256] (h : Lasting P) (hs : P s) (txAllowed : Bool) (payload : List UInt8)
    (offHz : F64) (clock : RxClock) : P (s.receive txAllowed payload offHz clock) := by
  unfold SimLoop.receive
  -- an error, or a message or none with a frame to relay or none
  rcases s.node.processRxFrame payload with ⟨err | ⟨_ | msg, _ | fwd⟩, node⟩
  · exact h.display _ _ rfl (h.node s node hs)
  · exact h.node s node hs
  · exact h.relay (h.node s node hs) _ _ _ _
  · exact h.deliver (h.node s node hs) _ _ _
  · exact h.relay (h.deliver (h.node s node hs) _ _ _) _ _ _ _

theorem decode [Aes256] (h : Lasting P) (htop : ∀ t, P t → P { t with phase := .top })
    (hs : P s) (sf : UInt8) (txAllowed : Bool) (clock : RxClock) (r : StreamDecodeResult) :
    P (s.decode sf txAllowed clock r) := by
  cases r with
  | ok payload bins => exact h.receive hs txAllowed payload _ clock
  | crcFail len cr hasCrc bins => exact h.display s _ rfl hs
  | decodeFailed => exact h.display s _ rfl hs
  | none => exact htop s hs

end Lasting

/-- Settings and devices last. -/
theorem lasting_rig (g : Rig) : Lasting fun t => t.rig = g where
  transmit t site frame ht := (rig_transmit t site frame).trans ht
  display t vm hvm ht := by
    rw [← ht, rig, hvm]
    rfl
  node _ _ ht := ht
  due _ _ _ _ ht := ht

/-! ## Steps -/

section

variable [Arith] [Prost] [Aes256]

/-- A turn of the decode loop leaves the rig alone. -/
theorem rig_decode (s : SimLoop) (sf : UInt8) (txAllowed : Bool) (clock : RxClock)
    (r : StreamDecodeResult) : (s.decode sf txAllowed clock r).rig = s.rig :=
  (lasting_rig s.rig).decode (fun _ ht => ht) rfl sf txAllowed clock r

variable [Features]

/-! ## One iteration -/

/-- The state once an iteration has passed the driver rebuild. -/
def rebuilt (s : SimLoop) (inp : TickInput) : SimLoop :=
  ((s.drainCommands inp.commands).rebuildNode inp.rebuildNow).rebuildDriver inp.uhdOpen

omit [Prost] [Aes256] in
/-- Commands and the driver rebuild make the settings of an iteration. -/
theorem settings_rebuilt (s : SimLoop) (inp : TickInput) :
    ∃ useUhd uhdWarning uhdLoading rebuildDriver, (s.rebuilt inp).vm.settings =
      { (s.drainCommands inp.commands).vm.settings with
        useUhd, uhdWarning, uhdLoading, rebuildDriver } := by
  obtain ⟨useUhd, uhdWarning, uhdLoading, rebuildDriver, hvm⟩ := (swaps_rebuildDriver
    ((s.drainCommands inp.commands).rebuildNode inp.rebuildNow) inp.uhdOpen).vm_eq
  have hnode : ((s.drainCommands inp.commands).rebuildNode inp.rebuildNow).vm.settings =
      (s.drainCommands inp.commands).vm.settings :=
    (congrArg Rig.settings (rig_rebuildNode (s.drainCommands inp.commands) inp.rebuildNow) :)
  refine ⟨useUhd, uhdWarning, uhdLoading, rebuildDriver, ?_⟩
  rw [← hnode, rebuilt, hvm]
  rfl

/-- What an unpaused iteration does after the driver rebuild leaves the rig alone. -/
theorem rig_tick {s : SimLoop} {inp : TickInput}
    (h : (s.drainCommands inp.commands).vm.running = true) :
    (s.tick inp).rig = (s.rebuilt inp).rig := by
  have hlasting := lasting_rig (s.rebuilt inp).rig
  have hparams : ∀ (interval : UInt64) (sf : UInt8),
      (((s.rebuilt inp).clampNextTx interval).applyParams sf).rig = (s.rebuilt inp).rig :=
    fun interval sf => (rig_applyParams _ sf).trans (rig_clampNextTx _ interval)
  rw [tick, if_pos h, runTick]
  refine (rig_tickDriver _ inp.mixedLen inp.spectra).trans ?_
  -- backwards through the phases, to the parameters
  apply hlasting.autoTx
  apply hlasting.manualTx
  apply hlasting.sendBeacon
  exact hparams _ _

/-- The decode loop runs with the spreading factor and the mode the commands left. -/
theorem phase_tick_eq {s : SimLoop} {inp : TickInput}
    (h : (s.drainCommands inp.commands).vm.running = true) :
    (s.tick inp).phase = .rx (s.drainCommands inp.commands).vm.sf
      ((s.drainCommands inp.commands).vm.mode != .listen) := by
  obtain ⟨_, _, _, _, hsettings⟩ := settings_rebuilt s inp
  have hsf : (s.rebuilt inp).vm.sf = (s.drainCommands inp.commands).vm.sf :=
    (congrArg ViewModel.sf hsettings :)
  have hmode : (s.rebuilt inp).vm.mode = (s.drainCommands inp.commands).vm.mode :=
    (congrArg ViewModel.mode hsettings :)
  have hparams : ∀ (interval : UInt64) (sf : UInt8),
      (((s.rebuilt inp).clampNextTx interval).applyParams sf).vm.mode = (s.rebuilt inp).vm.mode :=
    fun interval sf =>
    (congrArg (fun g => g.settings.mode)
      ((rig_applyParams _ sf).trans (rig_clampNextTx (s.rebuilt inp) interval)) :)
  -- the phase is set last, to what was read after the driver rebuild
  rw [tick, if_pos h]
  have hphase : (runTick (s.drainCommands inp.commands) inp).phase =
      .rx (s.rebuilt inp).vm.sf ((((s.rebuilt inp).clampNextTx
        (s.rebuilt inp).vm.intervalSamples).applyParams
          (s.rebuilt inp).vm.sf).vm.mode != .listen) :=
    rfl
  rw [hphase, hparams, hsf, hmode]

/-- A paused iteration only drains its commands. -/
theorem tick_paused {s : SimLoop} {inp : TickInput}
    (h : (s.drainCommands inp.commands).vm.running = false) :
    s.tick inp = s.drainCommands inp.commands := by
  simp only [tick, h, Bool.false_eq_true, if_false]

end

end SimLoop

/-! ## Settings that only commands change -/

/-- The commands an event drains. -/
def LoopEvent.commands : LoopEvent → List Command
  | tick inp => inp.commands
  | decode _ _ => []

/-- A reading of the view-model that neither what the loop counts and displays nor the
    driver rebuild changes. -/
def Untouched {β : Type} (f : ViewModel → β) : Prop :=
  ∀ vm useUhd uhdWarning uhdLoading rebuildDriver,
    f { vm.settings with useUhd, uhdWarning, uhdLoading, rebuildDriver } = f vm

namespace Untouched

variable {β : Type} {f : ViewModel → β}

/-- A reading that is untouched needs the settings alone. -/
theorem settings (hf : Untouched f) (vm : ViewModel) : f vm.settings = f vm :=
  hf vm vm.useUhd vm.uhdWarning vm.uhdLoading vm.rebuildDriver

/-- Settings that differ where the driver rebuild writes read the same. -/
theorem of_settings (hf : Untouched f) {vm vm' : ViewModel} {useUhd uhdLoading rebuildDriver : Bool}
    {uhdWarning : Option String} (h : vm'.settings =
      { vm.settings with useUhd, uhdWarning, uhdLoading, rebuildDriver }) : f vm' = f vm :=
  calc f vm' = f vm'.settings := (hf.settings vm').symm
    _ = f { vm.settings with useUhd, uhdWarning, uhdLoading, rebuildDriver } := congrArg f h
    _ = f vm := hf vm useUhd uhdWarning uhdLoading rebuildDriver

theorem of_rig (hf : Untouched f) {s t : SimLoop} (h : s.rig = t.rig) : f s.vm = f t.vm :=
  hf.of_settings (congrArg Rig.settings h)

section

variable [Arith] [Features]

theorem start (hf : Untouched f) (vm : ViewModel) (uhdOpen : Except String Unit) :
    f (SimLoop.start vm uhdOpen).vm = f vm := by
  obtain ⟨useUhd, uhdWarning, hstart⟩ := SimLoop.vm_start vm uhdOpen
  have hsettings : (SimLoop.start vm uhdOpen).vm.settings =
      { vm.settings with useUhd, uhdWarning, uhdLoading := false, rebuildDriver := false } := by
    rw [hstart]
    rfl
  exact hf.of_settings hsettings

theorem rebuilt (hf : Untouched f) (s : SimLoop) (inp : TickInput) :
    f (s.rebuilt inp).vm = f (s.drainCommands inp.commands).vm := by
  obtain ⟨useUhd, uhdWarning, uhdLoading, rebuildDriver, hsettings⟩ := s.settings_rebuilt inp
  exact hf.of_settings hsettings

variable [Prost] [Aes256]

/-- An iteration leaves what its commands set. -/
theorem tick (hf : Untouched f) (s : SimLoop) (inp : TickInput) :
    f (s.tick inp).vm = f (s.drainCommands inp.commands).vm := by
  cases h : (s.drainCommands inp.commands).vm.running with
  | true => rw [hf.of_rig (SimLoop.rig_tick h), hf.rebuilt]
  | false => rw [SimLoop.tick_paused h]

omit [Features] in
/-- It is the same before and after a turn of the decode loop. -/
theorem decode (hf : Untouched f) (s : SimLoop) (sf : UInt8) (txAllowed : Bool) (clock : RxClock)
    (r : StreamDecodeResult) : f (s.decode sf txAllowed clock r).vm = f s.vm :=
  hf.of_rig (SimLoop.rig_decode s sf txAllowed clock r)

end

end Untouched

end Mesh
