import Mesh.Native.Station
import Mesh.Spec.Rig
import Mesh.Spec.Samples

/-!
# Device warnings and their readers

The loop stores a warning when a device does not open, and only `SetUhdEnabled(true)`
takes it back. The desktop window writes the field too: a frame that finds the switch
off while its own toggle is still on moves the warning into the window.

## Key results

- `SimLoop.opens_tick`: an iteration stores a warning with every failed open
- `Station.warned_step_iff`: the steps that keep a warning
- `warnings_reach_clients`: over every run
- `frame_takes_warning`: the window looks first
-/

namespace Mesh

open Ieee (F32 F64 Arith)

namespace SimLoop

/-! ## Opens and warnings -/

section

variable [Arith] [Features] [Prost] [Aes256]

omit [Prost] [Aes256] in
/-- A loop that finds no device as it starts stores a warning, too. -/
theorem uhdWarning_start {vm : ViewModel} {e : String}
    (h : (Features.uhd && vm.useUhd) = true) :
    (start vm (.error e)).vm.uhdWarning = some (openFailure e) := by
  have hnode : (buildNode vm).2.useUhd = vm.useUhd := rfl
  simp only [start, makeDriver, hnode, h, if_true]
  rfl

/-- An iteration without commands opens what its driver rebuild opens. -/
theorem opens_tick (s : SimLoop) {inp : TickInput} (hcmds : inp.commands = []) :
    s.Opens inp.uhdOpen (s.tick inp) := by
  have hdrain : s.drainCommands inp.commands = s := by rw [hcmds]; rfl
  -- a paused iteration rebuilds nothing
  cases hrun : s.vm.running with
  | true =>
    have hdrained : (s.drainCommands inp.commands).vm.running = true := by rw [hdrain, hrun]
    -- neither the node rebuild before nor what follows opens anything or warns
    have hrig := rig_tick hdrained
    have hrebuild := (swaps_rebuildDriver (s.rebuildNode inp.rebuildNow) inp.uhdOpen).opens
    have hnode := rig_rebuildNode s inp.rebuildNow
    have hopened : openings (s.tick inp).calls = openings (s.rebuilt inp).calls :=
      congrArg Rig.opened hrig
    have hwarning : (s.tick inp).vm.uhdWarning = (s.rebuilt inp).vm.uhdWarning :=
      (congrArg (fun g => g.settings.uhdWarning) hrig :)
    have hnodeOpened : openings (s.rebuildNode inp.rebuildNow).calls = openings s.calls :=
      congrArg Rig.opened hnode
    have hnodeWarning : (s.rebuildNode inp.rebuildNow).vm.uhdWarning = s.vm.uhdWarning :=
      (congrArg (fun g => g.settings.uhdWarning) hnode :)
    unfold Opens at hrebuild ⊢
    rw [hnodeOpened, hnodeWarning] at hrebuild
    rw [hopened, hwarning, rebuilt, hdrain]
    exact hrebuild
  | false =>
    have hdrained : (s.drainCommands inp.commands).vm.running = false := by rw [hdrain, hrun]
    rw [tick_paused hdrained, hdrain]
    exact .inl ⟨rfl, rfl⟩

end

end SimLoop

/-! ## The window -/

/-- All a frame can do to the view-model is to take the warning out of it. -/
theorem MeshSimApp.vm_update [Arith] (app : MeshSimApp) (shared : ViewModel)
    (gestures : List Gesture) :
    (app.update shared gestures).2.1 = shared ∨
      (app.update shared gestures).2.1 = { shared with uhdWarning := none } := by
  simp only [update, mirrorUhd]
  split
  · split
    · exact .inl rfl
    · exact .inr rfl
  · exact .inl rfl

/-- A frame takes the warning if it mirrors the switch going off, and leaves it otherwise. -/
theorem MeshSimApp.uhdWarning_update [Arith] (app : MeshSimApp) (shared : ViewModel)
    (gestures : List Gesture) :
    (app.update shared gestures).2.1.uhdWarning =
      if app.useUhd && !shared.useUhd then none else shared.uhdWarning := by
  unfold update mirrorUhd
  cases app.useUhd <;> cases shared.useUhd <;> rfl

namespace Station

variable [Arith] [Prost] [Aes256] [Features]

/-- `step` as a relation. -/
def Step (s : Station) (e : StationEvent) (t : Station) : Prop := s.step e = some t

/-- The state is one right after the loop stored a warning: a device did not open when the
    loop started, or in the step just made. -/
inductive WarningStored : Station → Prop
  | start (random : UInt32) (e : String) (early : Bool) : Features.uhd = true →
      WarningStored (start random true (.error e) early)
  | step {s t : Station} {e : StationEvent} {args : String} : s.Step e t →
      t.radio.rig.opened = s.radio.rig.opened ++ [(args, false)] → WarningStored t

/-- A snapshot carries a warning of the loop. -/
def Warns (s : Station) : Prop := ∃ e, s.snapshot.uhdWarning = some (openFailure e)

omit [Arith] [Prost] [Aes256] [Features] in
/-- The event applies a `SetUhdEnabled(true)`. -/
def Enables (s : Station) : StationEvent → Prop
  | .apply => s.channel.head? = some (.setUhdEnabled true)
  | _ => False

/-- If the event is a frame, it does not find the switch off while its own toggle is on. -/
def Spares (s : Station) : StationEvent → Prop
  | .frame _ => s.app.useUhd = true → s.radio.vm.useUhd = true
  | _ => True

/-- Inversion: what each party's step does. -/
theorem step_cases {s t : Station} {e : StationEvent} (h : s.Step e t) :
    (∃ cmd, e = .client cmd ∧ t = { s with channel := s.channel ++ [cmd] }) ∨
    (∃ cmd rest, e = .apply ∧ s.channel = cmd :: rest ∧ s.radio.phase = .top ∧
      t = { s with radio := s.radio.drainCommands [cmd], channel := rest }) ∨
    (∃ inp, e = .tick inp ∧ inp.commands = [] ∧ s.radio.phase = .top ∧
      t = { s with radio := s.radio.tick inp }) ∨
    (∃ sf txAllowed r clock, e = .decode r clock ∧ s.radio.phase = .rx sf txAllowed ∧
      t = { s with radio := s.radio.decode sf txAllowed clock r }) ∨
    (∃ gestures, e = .frame gestures ∧ t = {
      radio := { s.radio with vm := (s.app.update s.radio.vm gestures).2.1 }
      app := (s.app.update s.radio.vm gestures).1
      channel := s.channel ++ (s.app.update s.radio.vm gestures).2.2 }) := by
  unfold Step step at h
  cases e with
  | client cmd => exact .inl ⟨cmd, rfl, (Option.some.inj h).symm⟩
  | apply =>
    simp only at h
    split at h
    · rename_i cmd rest htop hchannel
      exact .inr (.inl ⟨cmd, rest, rfl, hchannel, htop, (Option.some.inj h).symm⟩)
    · exact nomatch h
  | tick inp =>
    simp only at h
    split at h
    · rename_i hcmds
      obtain ⟨radio, hradio, ht⟩ := Option.map_eq_some_iff.mp h
      -- a tick of the radio is at the top of its loop
      rcases SimLoop.step_cases hradio with ⟨inp', htick, htop, hr⟩ | ⟨_, _, _, _, htick, -, -⟩
      · obtain rfl := LoopEvent.tick.inj htick
        rw [hr] at ht
        exact .inr (.inr (.inl ⟨inp, rfl, hcmds, htop, ht.symm⟩))
      · exact nomatch htick
    · exact nomatch h
  | decode r clock =>
    obtain ⟨radio, hradio, ht⟩ := Option.map_eq_some_iff.mp h
    rcases SimLoop.step_cases hradio with ⟨_, hdecode, -, -⟩ |
      ⟨sf, txAllowed, r', clock', hdecode, hrx, hr⟩
    · exact nomatch hdecode
    · obtain ⟨rfl, rfl⟩ := LoopEvent.decode.inj hdecode
      rw [hr] at ht
      exact .inr (.inr (.inr (.inl ⟨sf, txAllowed, r, clock, rfl, hrx, ht.symm⟩)))
  | frame gestures =>
    exact .inr (.inr (.inr (.inr ⟨gestures, rfl, (Option.some.inj h).symm⟩)))

/-- A warning survives a step other than `SetUhdEnabled(true)` exactly if the step is no
    frame that mirrors the switch going off. -/
theorem warned_step_iff {s t : Station} {e : StationEvent} (hs : s.Warns) (h : s.Step e t)
    (hquiet : ¬ s.Enables e) : t.Warns ↔ s.Spares e := by
  obtain ⟨msg, hmsg⟩ := hs
  have hkept : t.radio.vm.uhdWarning = s.radio.vm.uhdWarning → t.Warns :=
    fun hsame => ⟨msg, hsame.trans hmsg⟩
  rcases step_cases h with ⟨cmd, rfl, rfl⟩ | ⟨cmd, rest, rfl, hchannel, -, rfl⟩ |
    ⟨inp, rfl, hcmds, -, rfl⟩ | ⟨sf, txAllowed, r, clock, rfl, -, rfl⟩ | ⟨gestures, rfl, rfl⟩
  · -- a client only writes to the channel
    exact iff_of_true (hkept rfl) trivial
  · -- one command alone clears the warning
    have hsame : (cmd.apply s.radio.vm).uhdWarning = s.radio.vm.uhdWarning := by
      cases cmd with
      | setUhdEnabled on =>
        cases on with
        | true => exact absurd (by simp [Enables, hchannel]) hquiet
        | false => rfl
      | _ => rfl
    exact iff_of_true (hkept hsame) trivial
  · -- an iteration keeps the warning or stores a newer one
    rcases SimLoop.opens_tick s.radio hcmds with ⟨-, hsame⟩ | ⟨args, -, hwarning⟩
    · exact iff_of_true (hkept hsame) trivial
    · cases huhd : inp.uhdOpen with
      | ok u =>
        rw [huhd] at hwarning
        exact iff_of_true (hkept hwarning) trivial
      | error e =>
        rw [huhd] at hwarning
        exact iff_of_true ⟨e, hwarning⟩ trivial
  · -- a decoded payload is none of the warning's business
    have hrig := SimLoop.rig_decode s.radio sf txAllowed clock r
    have hsame : (s.radio.decode sf txAllowed clock r).vm.uhdWarning = s.radio.vm.uhdWarning :=
      (congrArg (fun g => g.settings.uhdWarning) hrig :)
    exact iff_of_true (hkept hsame) trivial
  · -- a frame takes it or not, by the two toggles alone
    have hframe := MeshSimApp.uhdWarning_update s.app s.radio.vm gestures
    have hmsg' : s.radio.vm.uhdWarning = some (openFailure msg) := hmsg
    show (∃ e, _ = some (openFailure e)) ↔ (_ → _)
    rw [snapshot, Snapshot.fromView, hframe, hmsg']
    cases s.app.useUhd <;> cases s.radio.vm.useUhd <;> simp

/-- A frame may run at any moment. -/
theorem exists_frame (s : Station) (gestures : List Gesture) :
    ∃ t, s.Step (.frame gestures) t ∧
      t.radio.vm.uhdWarning = (s.app.update s.radio.vm gestures).2.1.uhdWarning := ⟨_, rfl, rfl⟩

/-- A stored warning is in the next snapshot. -/
theorem warns_of_stored {s : Station} (h : WarningStored s) : s.Warns := by
  cases h with
  | start random e early huhd =>
    have hprobed : (Features.uhd && (bootView random true).useUhd) = true := by
      rw [huhd]
      rfl
    exact ⟨e, SimLoop.uhdWarning_start hprobed⟩
  | @step s t e args hstep hopened =>
    -- only an iteration can open a device
    have hne : ∀ b, s.radio.rig.opened ++ [(args, b)] ≠ s.radio.rig.opened := by
      intro b hb
      simp at hb
    rcases step_cases hstep with ⟨cmd, rfl, rfl⟩ | ⟨cmd, rest, rfl, hchannel, -, rfl⟩ |
      ⟨inp, rfl, hcmds, -, rfl⟩ | ⟨sf, txAllowed, r, clock, rfl, -, rfl⟩ | ⟨gestures, rfl, rfl⟩
    · exact absurd hopened.symm (hne false)
    · exact absurd hopened.symm (hne false)
    · rcases SimLoop.opens_tick s.radio hcmds with ⟨hsame, -⟩ | ⟨args', hopened', hwarning⟩
      · exact absurd (hopened.symm.trans hsame) (hne false)
      · -- the open that the iteration tried is the one that failed
        have hfailed : inp.uhdOpen.isOk = false := by
          have hlast : openings s.radio.calls ++ [(args', inp.uhdOpen.isOk)] =
              openings s.radio.calls ++ [(args, false)] := hopened'.symm.trans hopened
          have hsame := (List.cons.inj (List.append_cancel_left hlast)).1
          exact congrArg Prod.snd hsame
        cases huhd : inp.uhdOpen with
        | ok u =>
          rw [huhd] at hfailed
          exact absurd hfailed.symm Bool.false_ne_true
        | error e =>
          rw [huhd] at hwarning
          exact ⟨e, hwarning⟩
    · have hsame := congrArg Rig.opened (SimLoop.rig_decode s.radio sf txAllowed clock r)
      exact absurd (hopened.symm.trans hsame) (hne false)
    · exact absurd hopened.symm (hne false)

end Station

section

variable [Arith] [Prost] [Aes256] [Features]

/-- Once the loop has stored a warning, every snapshot carries one until the next
    `SetUhdEnabled(true)`, in every run whose frames do not mirror the switch going off;
    a step that fails the condition is exactly one after which none is carried. -/
theorem warnings_reach_clients {s t : Station} {es : List StationEvent}
    (hstored : Station.WarningStored s)
    (hrun : Lts.Run (fun a e b => a.Step e b ∧ ¬ a.Enables e ∧ a.Spares e) s es t) :
    t.Warns ∧ ∀ e u, t.Step e u → ¬ t.Enables e → (u.Warns ↔ t.Spares e) := by
  -- each step of the run is one that keeps the warning
  have hwarns : t.Warns := by
    refine hrun.invariant (I := Station.Warns) (Station.warns_of_stored hstored) ?_
    intro a e b ha hstep
    obtain ⟨hstep, hquiet, hspares⟩ := hstep
    exact (Station.warned_step_iff ha hstep hquiet).mpr hspares
  exact ⟨hwarns, fun e u hstep hquiet => Station.warned_step_iff hwarns hstep hquiet⟩

end

section

open Samples

/-- A station without a device whose user switches the device on in the window; the loop
    has taken the command. -/
private def switchedOn : Station where
  radio := (Samples.boot 1).drainCommands [.setUhdEnabled true]
  app :=
    { (Station.start 1 false (.error "no device") false).app with
      useUhd := true, uhdWarning := none }
  channel := []

/-- The run that switches UHD on without a device. -/
private theorem run_switchedOn :
    ∃ es, Lts.Run Station.Step (Station.start 1 false (.error "no device") false) es
      switchedOn := by
  let clicked : Station := {
    radio := Samples.boot 1, app := switchedOn.app, channel := [.setUhdEnabled true] }
  have hframe : (Station.start 1 false (.error "no device") false).Step
      (.frame [.selectDriver true]) clicked := rfl
  have happly : clicked.Step .apply switchedOn := rfl
  exact ⟨_, (Lts.Run.single hframe).snoc happly⟩

/-- The next iteration does not find the device. -/
private theorem stored_switchedOn : ∃ (inp : TickInput) (t : Station),
    switchedOn.Step (.tick inp) t ∧ t.app = switchedOn.app ∧ t.radio.vm.useUhd = false ∧
      t.radio.rig.opened = switchedOn.radio.rig.opened ++ [("", false)] := by
  obtain ⟨inp, hinp, hcmds⟩ := exists_tick []
  have hopen : inp.uhdOpen = .error "no device" := by
    rw [← LoopEvent.tick.inj hinp]
    rfl
  have hrun : (switchedOn.radio.drainCommands inp.commands).vm.running = true := by
    rw [hcmds]
    rfl
  have hrig := SimLoop.rig_tick hrun
  -- the open fails, so UHD is switched off again
  refine ⟨inp, { switchedOn with radio := switchedOn.radio.tick inp }, ?_, rfl, ?_, ?_⟩
  · show switchedOn.step (.tick inp) = _
    simp only [Station.step, if_pos hcmds]
    rfl
  · show (switchedOn.radio.tick inp).rig.settings.useUhd = false
    rw [hrig, SimLoop.rebuilt, hcmds, hopen]
    rfl
  · show (switchedOn.radio.tick inp).rig.opened = _
    rw [hrig, SimLoop.rebuilt, hcmds, hopen]
    rfl

/-- The window looks first: the frame after the failed open leaves no warning for the
    clients. -/
theorem frame_takes_warning : ∃ (es : List StationEvent) (s t : Station),
    Lts.Run Station.Step (Station.start 1 false (.error "no device") false) es s ∧
      Station.WarningStored s ∧ s.Step (.frame []) t ∧ t.snapshot.uhdWarning = none := by
  obtain ⟨es, hrun⟩ := run_switchedOn
  obtain ⟨inp, s, hstep, happ, huse, hopened⟩ := stored_switchedOn
  obtain ⟨t, hframe, hwarning⟩ := Station.exists_frame s []
  refine ⟨_, s, t, hrun.snoc hstep, .step hstep hopened, hframe, ?_⟩
  rw [MeshSimApp.uhdWarning_update, happ, huse] at hwarning
  exact hwarning

/-- With no frame in between, the clients learn why the device is off. -/
theorem warnings_reach_clients_sample : ∃ s : Station, s.Warns := by
  obtain ⟨inp, s, hstep, -, -, hopened⟩ := stored_switchedOn
  exact ⟨s, (warnings_reach_clients (.step hstep hopened) .nil).1⟩

end

end Mesh
