import Mesh.Spec.Rig
import Mesh.Spec.Samples

/-!
# The life of a UHD device

`Devices` keeps what decides which device is in use: the switch, the arguments
asked for, and the arguments the devices at hand were opened with. The driver
rebuild is a function of it (`SimLoop.devices_rebuildDriver`), and nothing else
in the loop touches it but commands.

## Key results

- `SimLoop.devices_tick`, `SimLoop.devices_decode`: the two kinds of steps
- `device_in_use_is_asked_for`: in runs that label every parked device truly
- `parked_under_a_new_name`: a run that does not
- `device_life_cycle`: one device at a time, at every moment of every step
-/

namespace Mesh

open Ieee (F32 F64 Arith)

/-- The arguments a driver was opened with, if it is a UHD device. -/
def Driver.args : Driver → Option String
  | channel _ _ => none
  | uhd args => some args

/-- A driver that can be parked is a device, which has arguments. -/
theorem Driver.isParkable_eq (d : Driver) : d.isParkable = d.args.isSome := by
  cases d <;> rfl

/-- Only a device has arguments. -/
theorem Driver.eq_uhd_of_args {d : Driver} {args : String} (h : d.args = some args) :
    d = .uhd args := by
  cases d with
  | channel noiseSigma signalAmp => exact nomatch h
  | uhd a => rw [Option.some.inj h]

/-- The devices by their arguments, and what commands say about them. -/
structure Devices where
  running : Bool
  useUhd : Bool
  uhdArgs : String
  rebuildDriver : Bool
  uhdWarning : Option String
  device : Option String
  /-- The parked device and the label it is kept under. -/
  parked : Option (Option String × String)
  activeArgs : String

namespace Devices

/-- A command, on the devices. -/
def apply (d : Devices) : Command → Devices
  | .setRunning on => { d with running := on }
  | .setUhdEnabled on =>
    { d with
      useUhd := on
      uhdWarning := if on then none else d.uhdWarning
      rebuildDriver := true }
  | .setUhdArgs s => { d with uhdArgs := s, rebuildDriver := d.useUhd || d.rebuildDriver }
  | .setUhdFreqHz _ => { d with rebuildDriver := d.useUhd || d.rebuildDriver }
  | _ => d

/-- After the commands of a tick. -/
def commanded (d : Devices) (commands : List Command) : Devices := commands.foldl apply d

/-- Open a device with the arguments asked for. -/
def opened (d : Devices) (uhdOpen : Except String Unit) : Devices :=
  match uhdOpen with
  | .ok () => { d with device := some d.uhdArgs, parked := none }
  | .error e =>
    { d with
      device := none, parked := none
      uhdWarning := some ("UHD open failed: " ++ e), useUhd := false }

/-- The rebuild with UHD on: keep the device in use, take the parked one, or open one. -/
def enable (d : Devices) (uhdOpen : Except String Unit) : Devices :=
  if d.device.isSome && d.activeArgs == d.uhdArgs then d
  else
    let e :=
      match d.parked with
      | some (dev, args) =>
        if args = d.uhdArgs then { d with device := dev, parked := none } else d.opened uhdOpen
      | none => d.opened uhdOpen
    { e with activeArgs := d.uhdArgs }

/-- The rebuild with UHD off: park the device in use under the arguments asked for. -/
def disable (d : Devices) : Devices :=
  if d.device.isSome then { d with device := none, parked := some (d.device, d.uhdArgs) } else d

/-- The driver rebuild of a build with UHD. -/
def rebuild (d : Devices) (uhdOpen : Except String Unit) : Devices :=
  if d.rebuildDriver then
    let d := { d with rebuildDriver := false }
    if d.useUhd then d.enable uhdOpen else d.disable
  else d

/-- What the driver rebuild can do. -/
inductive Rebuilt (d : Devices) (uhdOpen : Except String Unit) : Devices → Prop
  | idle : d.rebuildDriver = false → Rebuilt d uhdOpen d
  | retuned : d.rebuildDriver = true → d.useUhd = true → d.device.isSome = true →
      d.activeArgs = d.uhdArgs → Rebuilt d uhdOpen { d with rebuildDriver := false }
  | unparked {dev : Option String} : d.rebuildDriver = true → d.useUhd = true →
      d.parked = some (dev, d.uhdArgs) → Rebuilt d uhdOpen
        { d with rebuildDriver := false, device := dev, parked := none, activeArgs := d.uhdArgs }
  | opened : d.rebuildDriver = true → d.useUhd = true → uhdOpen = .ok () → Rebuilt d uhdOpen
      { d with
        rebuildDriver := false, device := some d.uhdArgs, parked := none
        activeArgs := d.uhdArgs }
  | failed {e : String} : d.rebuildDriver = true → d.useUhd = true → uhdOpen = .error e →
      Rebuilt d uhdOpen
        { d with
          rebuildDriver := false, device := none, parked := none
          uhdWarning := some ("UHD open failed: " ++ e), useUhd := false
          activeArgs := d.uhdArgs }
  | parked : d.rebuildDriver = true → d.useUhd = false → d.device.isSome = true → Rebuilt d uhdOpen
      { d with rebuildDriver := false, device := none, parked := some (d.device, d.uhdArgs) }
  | off : d.rebuildDriver = true → d.useUhd = false → d.device = none →
      Rebuilt d uhdOpen { d with rebuildDriver := false }

/-- The rebuild does one of the things listed. -/
theorem rebuild_rebuilt (d : Devices) (uhdOpen : Except String Unit) :
    Rebuilt d uhdOpen (d.rebuild uhdOpen) := by
  unfold rebuild
  by_cases hflag : d.rebuildDriver = true
  · rw [if_pos hflag]
    by_cases huse : d.useUhd = true
    · simp only
      rw [if_pos huse, enable]
      split
      · rename_i hactive
        simp only [Bool.and_eq_true, beq_iff_eq] at hactive
        exact .retuned hflag huse hactive.1 hactive.2
      · -- a parked device or a new one takes the place of the one in use
        have hopened : Rebuilt d uhdOpen
            { ({ d with rebuildDriver := false } : Devices).opened uhdOpen with
              activeArgs := d.uhdArgs } := by
          cases hopen : uhdOpen with
          | ok u => exact .opened hflag huse rfl
          | error e => exact .failed hflag huse rfl
        split
        · rename_i dev label hparked
          split
          · rename_i hreuse
            subst hreuse
            exact .unparked hflag huse hparked
          · exact hopened
        · exact hopened
    · have hoff : d.useUhd = false := Bool.not_eq_true _ ▸ huse
      rw [if_neg huse, disable]
      split
      · rename_i hactive
        exact .parked hflag hoff hactive
      · rename_i hactive
        exact .off hflag hoff (Option.not_isSome_iff_eq_none.mp hactive)
  · rw [if_neg hflag]
    exact .idle (Bool.not_eq_true _ ▸ hflag)

/-- One iteration: the commands in order, then, unless paused, the driver rebuild. -/
def tick (d : Devices) (commands : List Command) (uhdOpen : Except String Unit) : Devices :=
  let d := d.commanded commands
  if d.running then d.rebuild uhdOpen else d

/-- The devices the loop starts with. -/
def boot (probed : Bool) (uhdOpen : Except String Unit) : Devices :=
  let off : Devices := {
    running := true, useUhd := false, uhdArgs := "", rebuildDriver := false, uhdWarning := none
    device := none, parked := none, activeArgs := "" }
  if probed then
    match uhdOpen with
    | .ok () => { off with useUhd := true, device := some "" }
    | .error e => { off with uhdWarning := some ("UHD open failed: " ++ e) }
  else off

/-! ## One device at a time -/

/-- A device is parked only while none is in use, and the switch says whether one is. -/
structure Sound (d : Devices) : Prop where
  exclusive : ∀ p, d.parked = some p → d.device = none ∧ p.1.isSome = true
  matched : d.rebuildDriver = false → d.device.isSome = d.useUhd

namespace Sound

/-- A command that touches the switch asks for a rebuild. -/
theorem apply {d : Devices} (h : d.Sound) (cmd : Command) : (d.apply cmd).Sound := by
  obtain ⟨hexclusive, hmatched⟩ := h
  -- a command that touches the switch raises the flag, and none lowers it
  have hraised : ∀ b : Bool, (b || d.rebuildDriver) = false → d.device.isSome = d.useUhd :=
    fun b hb => hmatched (Bool.or_eq_false_iff.mp hb).2
  cases cmd with
  | setUhdEnabled on => exact ⟨hexclusive, nofun⟩
  | setUhdArgs s => exact ⟨hexclusive, hraised _⟩
  | setUhdFreqHz hz => exact ⟨hexclusive, hraised _⟩
  | _ => exact ⟨hexclusive, hmatched⟩

/-- Commands keep a device from being parked beside another one. -/
theorem commanded {d : Devices} (h : d.Sound) (commands : List Command) :
    (d.commanded commands).Sound := by
  apply List.foldlRecOn commands Devices.apply h
  intro d hd cmd _
  exact hd.apply cmd

/-- After the driver rebuild the switch says whether a device is in use. -/
theorem rebuilt {d d' : Devices} {uhdOpen : Except String Unit} (h : d.Sound)
    (hd : Rebuilt d uhdOpen d') : d'.Sound ∧ d'.device.isSome = d'.useUhd := by
  obtain ⟨hexclusive, hmatched⟩ := h
  cases hd with
  | idle hflag => exact ⟨⟨hexclusive, hmatched⟩, hmatched hflag⟩
  | retuned hflag huse hactive hargs =>
    have hmatched' : d.device.isSome = d.useUhd := hactive.trans huse.symm
    exact ⟨⟨hexclusive, fun _ => hmatched'⟩, hmatched'⟩
  | unparked hflag huse hparked =>
    have hmatched' := (hexclusive _ hparked).2.trans huse.symm
    exact ⟨⟨nofun, fun _ => hmatched'⟩, hmatched'⟩
  | opened hflag huse hopen => exact ⟨⟨nofun, fun _ => huse.symm⟩, huse.symm⟩
  | failed hflag huse hopen => exact ⟨⟨nofun, fun _ => rfl⟩, rfl⟩
  | parked hflag huse hactive =>
    -- the parked device is the one that was in use
    have hnew : ∀ p, some (d.device, d.uhdArgs) = some p →
        (none : Option String) = none ∧ p.1.isSome = true := by
      intro p hp
      obtain rfl := Option.some.inj hp
      exact ⟨rfl, hactive⟩
    exact ⟨⟨hnew, fun _ => huse.symm⟩, huse.symm⟩
  | off hflag huse hnone =>
    have hmatched' : d.device.isSome = d.useUhd := by rw [hnone, huse]; rfl
    exact ⟨⟨hexclusive, fun _ => hmatched'⟩, hmatched'⟩

/-- An iteration keeps a device from being parked beside another one. -/
theorem tick {d : Devices} (h : d.Sound) (commands : List Command)
    (uhdOpen : Except String Unit) : (d.tick commands uhdOpen).Sound := by
  have hcmd := h.commanded commands
  unfold Devices.tick
  simp only
  split
  · exact (hcmd.rebuilt (rebuild_rebuilt _ uhdOpen)).1
  · exact hcmd

/-- At the start nothing is parked. -/
theorem boot (probed : Bool) (uhdOpen : Except String Unit) : (boot probed uhdOpen).Sound := by
  cases probed with
  | false => exact ⟨nofun, fun _ => rfl⟩
  | true => cases uhdOpen <;> exact ⟨nofun, fun _ => rfl⟩

end Sound

/-! ## The device in use is the one asked for -/

/-- A device is parked under the arguments it was opened with. -/
def ParksTruly (d : Devices) : Prop :=
  d.running = true → d.rebuildDriver = true → d.useUhd = false →
    ∀ args, d.device = some args → args = d.uhdArgs

/-- The two labels are true, and a device in use that is not asked for is about to be
    rebuilt. -/
structure Labelled (d : Devices) : Prop where
  active : ∀ args, d.device = some args → args = d.activeArgs
  parked : ∀ p, d.parked = some p → p.1 = some p.2
  asked : d.rebuildDriver = false → ∀ args, d.device = some args →
    d.useUhd = true ∧ args = d.uhdArgs

namespace Labelled

/-- A command leaves the labels true. -/
theorem apply {d : Devices} (h : d.Labelled) (cmd : Command) : (d.apply cmd).Labelled := by
  obtain ⟨hactive, hparked, hasked⟩ := h
  cases cmd with
  | setUhdEnabled on => exact ⟨hactive, hparked, nofun⟩
  | setUhdArgs s =>
    -- new arguments raise the flag if a device is in use
    have hasked' : (d.useUhd || d.rebuildDriver) = false → ∀ args, d.device = some args →
        d.useUhd = true ∧ args = s := by
      intro hflag args hargs
      obtain ⟨huse, hidle⟩ := Bool.or_eq_false_iff.mp hflag
      exact absurd (hasked hidle args hargs).1 (by rw [huse]; exact Bool.false_ne_true)
    exact ⟨hactive, hparked, hasked'⟩
  | setUhdFreqHz hz =>
    exact ⟨hactive, hparked, fun hflag => hasked (Bool.or_eq_false_iff.mp hflag).2⟩
  | _ => exact ⟨hactive, hparked, hasked⟩

/-- Commands leave the labels true. -/
theorem commanded {d : Devices} (h : d.Labelled) (commands : List Command) :
    (d.commanded commands).Labelled := by
  apply List.foldlRecOn commands Devices.apply h
  intro d hd cmd _
  exact hd.apply cmd

/-- After the driver rebuild a device in use was opened with the arguments asked for. -/
theorem rebuilt {d d' : Devices} {uhdOpen : Except String Unit} (h : d.Labelled)
    (hrun : d.running = true) (htruly : d.ParksTruly) (hd : Rebuilt d uhdOpen d') :
    d'.Labelled ∧ ∀ args, d'.device = some args → args = d'.uhdArgs := by
  obtain ⟨hactive, hparked, hasked⟩ := h
  cases hd with
  | idle hflag =>
    exact ⟨⟨hactive, hparked, hasked⟩, fun args hargs => (hasked hflag args hargs).2⟩
  | retuned hflag huse hsome hargs =>
    have hcur : ∀ args, d.device = some args → args = d.uhdArgs :=
      fun args h => (hactive args h).trans hargs
    exact ⟨⟨hactive, hparked, fun _ args h => ⟨huse, hcur args h⟩⟩, hcur⟩
  | @unparked dev hflag huse hlabel =>
    -- its label is true, and equals the arguments asked for
    have hcur : ∀ args, dev = some args → args = d.uhdArgs :=
      fun args h => Option.some.inj (h.symm.trans (hparked _ hlabel))
    exact ⟨⟨hcur, nofun, fun _ args h => ⟨huse, hcur args h⟩⟩, hcur⟩
  | opened hflag huse hopen =>
    have hcur : ∀ args, some d.uhdArgs = some args → args = d.uhdArgs :=
      fun args h => (Option.some.inj h).symm
    exact ⟨⟨hcur, nofun, fun _ args h => ⟨huse, hcur args h⟩⟩, hcur⟩
  | failed hflag huse hopen => exact ⟨⟨nofun, nofun, fun _ => nofun⟩, nofun⟩
  | parked hflag huse hsome =>
    -- the label is the one asked for, and here also the one it was opened with
    have hnew : ∀ p, some (d.device, d.uhdArgs) = some p → p.1 = some p.2 := by
      intro p hp
      obtain rfl := Option.some.inj hp
      obtain ⟨args, hargs⟩ := Option.isSome_iff_exists.mp hsome
      rw [hargs, htruly hrun hflag huse args hargs]
    exact ⟨⟨nofun, hnew, fun _ => nofun⟩, nofun⟩
  | off hflag huse hnone =>
    have hno : ∀ {P : String → Prop} args, d.device = some args → P args :=
      fun args h => nomatch hnone.symm.trans h
    exact ⟨⟨hactive, hparked, fun _ => hno⟩, hno⟩

/-- An iteration that parks truly leaves the labels true. -/
theorem tick {d : Devices} {commands : List Command} (h : d.Labelled)
    (htruly : (d.commanded commands).ParksTruly) (uhdOpen : Except String Unit) :
    (d.tick commands uhdOpen).Labelled := by
  have hcmd := h.commanded commands
  unfold Devices.tick
  simp only
  split
  · rename_i hrun
    exact (hcmd.rebuilt hrun htruly (rebuild_rebuilt _ uhdOpen)).1
  · exact hcmd

/-- At the start a device was opened with the empty arguments, as its label says. -/
theorem boot (probed : Bool) (uhdOpen : Except String Unit) :
    (boot probed uhdOpen).Labelled := by
  have hopened : ∀ args : String, some "" = some args → args = "" :=
    fun args h => (Option.some.inj h).symm
  cases probed with
  | false => exact ⟨nofun, nofun, fun _ => nofun⟩
  | true =>
    cases uhdOpen with
    | ok u => exact ⟨hopened, nofun, fun _ args h => ⟨rfl, hopened args h⟩⟩
    | error e => exact ⟨nofun, nofun, fun _ => nofun⟩

end Labelled

end Devices

/-- The devices of a rig. -/
def Rig.devices (g : Rig) : Devices where
  running := g.settings.running
  useUhd := g.settings.useUhd
  uhdArgs := g.settings.uhdArgs
  rebuildDriver := g.settings.rebuildDriver
  uhdWarning := g.settings.uhdWarning
  device := g.driver.args
  parked := g.parkedUhd.map fun p => (p.1.args, p.2)
  activeArgs := g.activeUhdArgs

namespace SimLoop

/-- The devices of a state. -/
def devices (s : SimLoop) : Devices := s.rig.devices

/-- Draining commands, seen from the devices. -/
theorem devices_drainCommands (s : SimLoop) (commands : List Command) :
    (s.drainCommands commands).devices = s.devices.commanded commands := by
  apply read_drainCommands
  intro t cmd
  cases cmd <;> rfl

section

variable [Arith]

/-- Opening a device, seen from the devices. -/
theorem devices_openUhd (s : SimLoop) (uhdOpen : Except String Unit) :
    (s.openUhd uhdOpen).devices = s.devices.opened uhdOpen := by
  cases uhdOpen <;> rfl

/-- The rebuild with UHD enabled, seen from the devices. -/
theorem devices_enableUhd (s : SimLoop) (uhdOpen : Except String Unit) :
    (s.enableUhd uhdOpen).devices = s.devices.enable uhdOpen := by
  have hopen := devices_openUhd s uhdOpen
  have hlabel : s.devices.parked = s.parkedUhd.map fun p => (p.1.args, p.2) := rfl
  -- the gains to be set again are no part of the devices
  have hgains : ∀ (t : SimLoop) (g : F64),
      { t with lastUhdRxGain := g, lastUhdTxGain := g }.devices = t.devices := fun _ _ => rfl
  have hargs : ∀ (t : SimLoop) (args : String),
      { t with activeUhdArgs := args }.devices = { t.devices with activeArgs := args } :=
    fun _ _ => rfl
  unfold enableUhd Devices.enable
  simp only
  rw [hgains]
  by_cases hactive : (s.driver.isParkable && s.activeUhdArgs == s.vm.uhdArgs) = true
  · have hactive' : (s.devices.device.isSome && s.devices.activeArgs == s.devices.uhdArgs) = true :=
      Driver.isParkable_eq s.driver ▸ hactive
    rw [if_pos hactive, if_pos hactive']
    rfl
  · have hactive' :
        ¬ (s.devices.device.isSome && s.devices.activeArgs == s.devices.uhdArgs) = true :=
      Driver.isParkable_eq s.driver ▸ hactive
    rw [if_neg hactive, if_neg hactive', hargs, hlabel]
    cases s.parkedUhd with
    | none => exact congrArg (fun d => { d with activeArgs := s.vm.uhdArgs }) hopen
    | some p =>
      by_cases hreuse : p.2 = s.vm.uhdArgs
      · have hreuse' : p.2 = s.devices.uhdArgs := hreuse
        simp only [Option.map_some, if_pos hreuse, if_pos hreuse']
        rfl
      · have hreuse' : ¬ p.2 = s.devices.uhdArgs := hreuse
        simp only [Option.map_some, if_neg hreuse, if_neg hreuse']
        exact congrArg (fun d => { d with activeArgs := s.vm.uhdArgs }) hopen

variable [Features]

/-- The rebuild with UHD disabled, seen from the devices. -/
theorem devices_disableUhd (s : SimLoop) (uhdOpen : Except String Unit)
    (huse : s.vm.useUhd = false) : (s.disableUhd uhdOpen).devices = s.devices.disable := by
  have hactive : s.driver.isParkable = s.devices.device.isSome := Driver.isParkable_eq s.driver
  unfold disableUhd Devices.disable
  rw [hactive]
  cases hdevice : s.devices.device with
  | some args =>
    simp only [Option.isSome_some, if_true]
    rw [← hdevice]
    rfl
  | none =>
    -- the switch is off, so `make_driver` returns a channel
    have hoff : (Features.uhd && s.vm.useUhd) = false := by rw [huse, Bool.and_false]
    simp only [Option.isSome_none, Bool.false_eq_true, if_false, remakeDriver, makeDriver, hoff]
    have hchannel : s.devices = { s.devices with device := none } := by rw [← hdevice]
    exact hchannel.symm

/-- The driver rebuild, on the devices. -/
theorem devices_rebuildDriver (huhd : Features.uhd = true) (s : SimLoop)
    (uhdOpen : Except String Unit) :
    (s.rebuildDriver uhdOpen).devices = s.devices.rebuild uhdOpen := by
  -- the clocks of the schedule are no part of the devices
  have hclocks : ∀ t : SimLoop, { t with
      produced := 0, nextTxAt := srHz, nextBeaconAt := srHz / 2 }.devices = t.devices :=
    fun _ => rfl
  unfold rebuildDriver Devices.rebuild
  by_cases hflag : s.vm.rebuildDriver = true
  · have hflag' : s.devices.rebuildDriver = true := hflag
    rw [if_pos hflag, if_pos hflag']
    simp only [huhd, if_true]
    rw [hclocks]
    by_cases huse : s.vm.useUhd = true
    · have huse' : s.devices.useUhd = true := huse
      rw [if_pos huse, if_pos huse']
      exact devices_enableUhd { s with vm := { s.vm with rebuildDriver := false } } uhdOpen
    · have huse' : ¬ s.devices.useUhd = true := huse
      rw [if_neg huse, if_neg huse']
      exact devices_disableUhd { s with vm := { s.vm with rebuildDriver := false } } uhdOpen
        (Bool.not_eq_true _ ▸ huse)
  · have hflag' : ¬ s.devices.rebuildDriver = true := hflag
    rw [if_neg hflag, if_neg hflag']

/-- The devices once an iteration has passed the driver rebuild. -/
theorem devices_rebuilt (huhd : Features.uhd = true) (s : SimLoop) (inp : TickInput) :
    (s.rebuilt inp).devices = (s.devices.commanded inp.commands).rebuild inp.uhdOpen := by
  rw [rebuilt, devices_rebuildDriver huhd, devices, rig_rebuildNode, ← devices_drainCommands]
  rfl

variable [Prost] [Aes256]

omit [Features] in
/-- A turn of the decode loop leaves the devices alone. -/
theorem devices_decode (s : SimLoop) (sf : UInt8) (txAllowed : Bool) (clock : RxClock)
    (r : StreamDecodeResult) : (s.decode sf txAllowed clock r).devices = s.devices :=
  congrArg Rig.devices (rig_decode s sf txAllowed clock r)

/-- An iteration, seen from the devices. -/
theorem devices_tick (huhd : Features.uhd = true) (s : SimLoop) (inp : TickInput) :
    (s.tick inp).devices = s.devices.tick inp.commands inp.uhdOpen := by
  have hdrain := devices_drainCommands s inp.commands
  unfold Devices.tick
  simp only [← hdrain]
  cases hrun : (s.drainCommands inp.commands).vm.running with
  | true =>
    have hrun' : (s.drainCommands inp.commands).devices.running = true := hrun
    rw [if_pos hrun', hdrain, ← devices_rebuilt huhd, devices, rig_tick hrun]
    rfl
  | false =>
    have hrun' : (s.drainCommands inp.commands).devices.running = false := hrun
    rw [tick_paused hrun, if_neg (by rw [hrun']; exact Bool.false_ne_true)]

omit [Prost] [Aes256] in
/-- The start of the loop, seen from the devices. -/
theorem devices_start (huhd : Features.uhd = true) (random : UInt32) (probed : Bool)
    (uhdOpen : Except String Unit) :
    (start (bootView random probed) uhdOpen).devices = Devices.boot probed uhdOpen := by
  cases probed with
  | false => simp only [start, makeDriver, buildNode, huhd]; rfl
  | true =>
    have hprobed : (bootView random true).useUhd = true := rfl
    simp only [start, makeDriver, buildNode, huhd, hprobed]
    cases uhdOpen <;> rfl

/-- A step that parks a device parks it under the arguments it was opened with. -/
def ParksTruly (s : SimLoop) : LoopEvent → Prop
  | .tick inp => (s.devices.commanded inp.commands).ParksTruly
  | .decode _ _ => True

end

end SimLoop

section

variable [Arith] [Prost] [Aes256] [Features]

/-- In every run whose steps park no device under other arguments than its own: once an
    iteration has passed the driver rebuild, a UHD device in use was opened with the
    arguments asked for. -/
theorem device_in_use_is_asked_for (huhd : Features.uhd = true) {random : UInt32} {probed : Bool}
    {uhdOpen : Except String Unit} {es : List LoopEvent} {s : SimLoop}
    (hrun : Lts.Run (fun a e b => SimLoop.Step a e b ∧ a.ParksTruly e)
      (SimLoop.start (bootView random probed) uhdOpen) es s)
    {inp : TickInput} (htruly : s.ParksTruly (.tick inp))
    (hunpaused : (s.drainCommands inp.commands).vm.running = true) {args : String}
    (huse : (s.rebuilt inp).driver = .uhd args) : args = (s.rebuilt inp).vm.uhdArgs := by
  -- the labels are true throughout the run
  have hlabelled : s.devices.Labelled := by
    refine hrun.invariant (I := fun t => t.devices.Labelled) ?_ ?_
    · rw [SimLoop.devices_start huhd]
      exact .boot probed uhdOpen
    · intro a e b ha hab
      obtain ⟨hstep, hparks⟩ := hab
      rcases SimLoop.step_cases hstep with
        ⟨inp, rfl, -, rfl⟩ | ⟨sf, txAllowed, r, clock, rfl, -, rfl⟩
      · rw [SimLoop.devices_tick huhd]
        exact ha.tick hparks inp.uhdOpen
      · rw [SimLoop.devices_decode]
        exact ha
  -- commands keep them so, and the rebuild makes the device the one asked for
  have hcmd := hlabelled.commanded inp.commands
  have hdevice : (s.rebuilt inp).devices.device = some args := congrArg Driver.args huse
  rw [SimLoop.devices_rebuilt huhd] at hdevice
  have hcur := (hcmd.rebuilt (SimLoop.devices_drainCommands s _ ▸ hunpaused) htruly
    (Devices.rebuild_rebuilt _ inp.uhdOpen)).2 args hdevice
  rw [← SimLoop.devices_rebuilt huhd] at hcur
  exact hcur

end

section

open Samples

/-- A loop that found a USRP at start-up, opened without arguments. -/
private def usrp : SimLoop := SimLoop.start (bootView 1 true) (.ok ())

private theorem devices_usrp : usrp.devices = Devices.boot true (.ok ()) :=
  SimLoop.devices_start rfl 1 true (.ok ())

/-- New arguments and the switch in one batch, then the switch again. -/
theorem parked_under_a_new_name : ∃ (es : List LoopEvent) (s : SimLoop) (inp : TickInput),
    Lts.Run SimLoop.Step (SimLoop.start (bootView 1 true) (.ok ())) es s ∧ s.phase = .top ∧
      (s.drainCommands inp.commands).vm.running = true ∧
      (s.rebuilt inp).driver = .uhd "" ∧ (s.rebuilt inp).vm.uhdArgs = "b" := by
  obtain ⟨off, -, hoff⟩ := exists_tick [.setUhdArgs "b", .setUhdEnabled false]
  obtain ⟨on, -, hon⟩ := exists_tick [.setUhdEnabled true]
  have hparked : (usrp.tick off).devices = {
      running := true, useUhd := false, uhdArgs := "b", rebuildDriver := false
      uhdWarning := none, device := none, parked := some (some "", "b"), activeArgs := "" } := by
    rw [SimLoop.devices_tick rfl, devices_usrp, hoff]
    rfl
  obtain ⟨sf, txAllowed, hphase⟩ : ∃ sf txAllowed, (usrp.tick off).phase = .rx sf txAllowed := by
    apply SimLoop.phase_tick
    rw [usrp, SimLoop.core_start, hoff]
    rfl
  -- nothing is decoded in between
  obtain ⟨s, hs⟩ : ∃ s, s = (usrp.tick off).decode sf txAllowed
    { now := "12:00:00", fwdNow := "12:00:00" } .none := ⟨_, rfl⟩
  have hidle : (usrp.tick off).Step idle s := by
    rw [hs]
    exact SimLoop.step_decode hphase
  have hs' : s.devices = (usrp.tick off).devices := by rw [hs, SimLoop.devices_decode]
  have hrebuilt : (s.rebuilt on).devices = {
      running := true, useUhd := true, uhdArgs := "b", rebuildDriver := false
      uhdWarning := none, device := some "", parked := none, activeArgs := "b" } := by
    rw [SimLoop.devices_rebuilt rfl, hs', hparked, hon]
    rfl
  refine ⟨_, s, on, (Lts.Run.single (SimLoop.step_tick rfl)).snoc hidle, by rw [hs]; rfl,
    ?_, ?_, ?_⟩
  · have hrun := SimLoop.devices_drainCommands s on.commands
    rw [hs', hparked, hon] at hrun
    rw [hon]
    exact congrArg Devices.running hrun
  · exact Driver.eq_uhd_of_args (congrArg Devices.device hrebuilt)
  · exact (congrArg Devices.uhdArgs hrebuilt :)

/-- The device opened at start-up is parked and taken back under its own arguments. -/
theorem device_in_use_is_asked_for_sample : ∃ (es : List LoopEvent) (s : SimLoop)
    (inp : TickInput),
    Lts.Run (fun a e b => SimLoop.Step a e b ∧ a.ParksTruly e)
      (SimLoop.start (bootView 1 true) (.ok ())) es s ∧
      s.devices.device = none ∧ s.devices.parked = some (some "", "") ∧
      (s.rebuilt inp).driver = .uhd "" ∧ "" = (s.rebuilt inp).vm.uhdArgs := by
  obtain ⟨off, -, hoff⟩ := exists_tick [.setUhdEnabled false]
  obtain ⟨on, -, hon⟩ := exists_tick [.setUhdEnabled true]
  have hparked : (usrp.tick off).devices = {
      running := true, useUhd := false, uhdArgs := "", rebuildDriver := false
      uhdWarning := none, device := none, parked := some (some "", ""), activeArgs := "" } := by
    rw [SimLoop.devices_tick rfl, devices_usrp, hoff]
    rfl
  obtain ⟨sf, txAllowed, hphase⟩ : ∃ sf txAllowed, (usrp.tick off).phase = .rx sf txAllowed := by
    apply SimLoop.phase_tick
    rw [usrp, SimLoop.core_start, hoff]
    rfl
  obtain ⟨s, hs⟩ : ∃ s, s = (usrp.tick off).decode sf txAllowed
    { now := "12:00:00", fwdNow := "12:00:00" } .none := ⟨_, rfl⟩
  have hidle : (usrp.tick off).Step idle s := by
    rw [hs]
    exact SimLoop.step_decode hphase
  have hs' : s.devices = (usrp.tick off).devices := by rw [hs, SimLoop.devices_decode]
  -- the switch parks the device under the arguments it was opened with
  have hparks : usrp.ParksTruly (.tick off) := by
    rw [SimLoop.ParksTruly, devices_usrp, hoff]
    exact fun _ _ _ _ hargs => (Option.some.inj hargs).symm
  have hfirst : Lts.Run (fun a e b => SimLoop.Step a e b ∧ a.ParksTruly e) usrp [.tick off]
      (usrp.tick off) := .single ⟨SimLoop.step_tick rfl, hparks⟩
  have hrun := hfirst.snoc ⟨hidle, trivial⟩
  -- and the next one takes it back
  have htruly : s.ParksTruly (.tick on) := by
    rw [SimLoop.ParksTruly, hs', hparked, hon]
    exact fun _ _ => nofun
  have hunpaused : (s.drainCommands on.commands).vm.running = true := by
    have hdrained := SimLoop.devices_drainCommands s on.commands
    rw [hs', hparked, hon] at hdrained
    rw [hon]
    exact congrArg Devices.running hdrained
  have hrebuilt : (s.rebuilt on).devices = {
      running := true, useUhd := true, uhdArgs := "", rebuildDriver := false
      uhdWarning := none, device := some "", parked := none, activeArgs := "" } := by
    rw [SimLoop.devices_rebuilt rfl, hs', hparked, hon]
    rfl
  have huse : (s.rebuilt on).driver = .uhd "" :=
    Driver.eq_uhd_of_args (congrArg Devices.device hrebuilt)
  refine ⟨_, s, on, hrun, ?_, ?_, huse,
    device_in_use_is_asked_for rfl hrun htruly hunpaused huse⟩
  · rw [hs', hparked]
  · rw [hs', hparked]

end

end Mesh
