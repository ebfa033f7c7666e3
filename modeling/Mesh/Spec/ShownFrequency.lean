import Mesh.ForStd.Lts
import Mesh.Native.Station
import Mesh.Spec.Rig

/-!
# The frequency of the region and preset on display

The two selectors recompute the frequency and send it. The button that restores the
defaults puts both selectors back as well, but keeps the frequency: the display is right
again only if the region and preset it leaves have the frequency of the default ones.

## Key results

- `Panel.shows_choose_iff`: one choice
- `display_determines_frequency_iff`: over every run
- `defaults_keep_frequency`: the defaults shown over another region's frequency
-/

namespace Mesh

open Ieee (F64 Arith)

/-- A choice in the settings panel. -/
inductive Choice
  | preset (i : Fin presets.length)
  | region (i : Fin regions.length)
  | defaults

/-- The gesture that makes a choice. -/
def Choice.gesture : Choice → Gesture
  | preset i => .selectPreset i
  | region i => .selectRegion i
  | defaults => .clickDefaults

/-- The window, and the view-model once the commands sent so far are applied. -/
structure Panel where
  app : MeshSimApp
  vm : ViewModel

namespace Panel

section

variable [Arith]

/-- A choice is made, and its commands are applied. -/
def choose (p : Panel) (c : Choice) : Panel :=
  let (app, cmds) := p.app.handle p.vm c.gesture
  { app, vm := cmds.foldl (fun vm cmd => cmd.apply vm) p.vm }

/-- The panel as the parties start. -/
def start [Features] (random : UInt32) (probed : Bool) (uhdOpen : Except String Unit)
    (early : Bool) : Panel :=
  let s := Station.start random probed uhdOpen early
  { app := s.app, vm := s.channel.foldl (fun vm cmd => cmd.apply vm) s.radio.vm }

/-- The frequency of the region and preset on display. -/
def displayed (p : Panel) : F64 :=
  regions[p.app.regionIdx].channelFreq presets[p.app.presetIdx].bwKhz

/-- The window's settings and the radio's are those of the region and preset on display. -/
structure Shows (p : Panel) : Prop where
  freq : p.app.uhdFreqMhz = p.displayed
  sf : p.app.sf = presets[p.app.presetIdx].sf
  freqSent : p.vm.uhdFreqHz = Arith.mul p.displayed 1e6
  sfSent : p.vm.sf = presets[p.app.presetIdx].sf

/-- The defaults are restored only where the region and preset on display have their
    frequency. -/
def Restorable (p : Panel) (c : Choice) : Prop :=
  c = .defaults → p.displayed = defaultRegion.channelFreq defaultPreset.bwKhz

/-! ## One choice -/

/-- Commands that come with a new window leave the frequency and `sf` alone. -/
theorem vm_new (shared vm : ViewModel) :
    let applied := (MeshSimApp.new shared).2.foldl (fun vm cmd => cmd.apply vm) vm
    applied.uhdFreqHz = vm.uhdFreqHz ∧ applied.sf = vm.sf := by
  cases h : shared.useUhd <;> simp [MeshSimApp.new, h, Command.apply]

/-- At the start the panel shows the frequency of the defaults, which is the one in use. -/
theorem shows_start [Features] (random : UInt32) (probed : Bool) (uhdOpen : Except String Unit)
    (early : Bool) : (start random probed uhdOpen early).Shows := by
  -- neither `main` nor the start of the loop touches the two settings
  have hfreq : Untouched ViewModel.uhdFreqHz := fun _ _ _ _ _ => rfl
  have hsf : Untouched ViewModel.sf := fun _ _ _ _ _ => rfl
  have hboot : (bootView random probed).uhdFreqHz = (ViewModel.new random).uhdFreqHz ∧
      (bootView random probed).sf = defaultSf := by
    cases probed <;> exact ⟨rfl, rfl⟩
  have hnew := vm_new (if early then bootView random probed
    else (SimLoop.start (bootView random probed) uhdOpen).vm)
    (SimLoop.start (bootView random probed) uhdOpen).vm
  exact {
    freq := rfl
    sf := rfl
    freqSent := by
      show ViewModel.uhdFreqHz _ = _
      rw [start, Station.start, hnew.1, hfreq.start, hboot.1]
      rfl
    sfSent := by
      show ViewModel.sf _ = _
      rw [start, Station.start, hnew.2, hsf.start, hboot.2]
      rfl }

/-- One choice keeps the panel right exactly if it may restore the defaults. -/
theorem shows_choose_iff {p : Panel} (h : p.Shows) (c : Choice) :
    (p.choose c).Shows ↔ p.Restorable c := by
  cases c with
  -- a preset or a region sets the frequency on display and the one in use alike
  | preset i => exact iff_of_true ⟨rfl, rfl, rfl, rfl⟩ nofun
  | region i => exact iff_of_true ⟨rfl, h.sf, rfl, h.sfSent⟩ nofun
  | defaults =>
    have hdisplayed : (p.choose .defaults).displayed =
        defaultRegion.channelFreq defaultPreset.bwKhz := rfl
    -- the defaults change what is displayed, and no command sets the frequency
    have hkept : (p.choose .defaults).app.uhdFreqMhz = p.displayed := h.freq
    have hsent : (p.choose .defaults).vm.uhdFreqHz = Arith.mul p.displayed 1e6 := h.freqSent
    refine ⟨fun hshows _ => ?_, fun hfreq => ?_⟩
    · rw [← hkept, hshows.freq, hdisplayed]
    · exact {
        freq := by rw [hkept, hfreq rfl, hdisplayed]
        sf := rfl
        freqSent := by rw [hsent, hfreq rfl, hdisplayed]
        sfSent := rfl }

end

end Panel

/-! ## Runs -/

/-- After every choice of a run the window and the radio have the frequency and `sf` of the
    region and preset on display, exactly if the defaults are only ever restored where the
    two on display have the default frequency. -/
theorem display_determines_frequency_iff [Arith] [Features] (random : UInt32) (probed : Bool)
    (uhdOpen : Except String Unit) (early : Bool) (choices : List Choice) :
    (∀ made, made <+: choices →
        (made.foldl Panel.choose (Panel.start random probed uhdOpen early)).Shows) ↔
      Lts.Allowed Panel.choose Panel.Restorable (Panel.start random probed uhdOpen early)
        choices := by
  have hstart := Panel.shows_start random probed uhdOpen early
  exact Lts.forall_prefix_iff (I := Panel.Shows) Panel.choose
    (fun _ c h => Panel.shows_choose_iff h c) hstart

namespace Samples

/-- IEEE arithmetic at the frequencies of LongFast in EU_868 and in TW. -/
@[reducible] def bandArith : Arith := { bootArith with
  add := fun x _ => if x = 869.4 then 869.525 else 920.125
  mul := fun x _ => if x = 869.525 then 869525000.0 else 920125000.0 }

theorem eu868_lt : 1 < regions.length := by decide

/-- The region EU_868. -/
def eu868 : Fin regions.length := ⟨1, eu868_lt⟩

end Samples

open Samples

/-- EU_868 is selected and the defaults are restored: the window shows TW and LongFast, whose
    frequency is 920.125 MHz, over 869.525 MHz, which the radio keeps, too. -/
theorem defaults_keep_frequency :
    let _ : Arith := bandArith
    let panel := [Choice.region eu868, .defaults].foldl Panel.choose
      (Panel.start 9 true (.ok ()) false)
    regions[panel.app.regionIdx].name = "TW" ∧ presets[panel.app.presetIdx].name = "LongFast" ∧
      panel.displayed = 920.125 ∧ panel.app.uhdFreqMhz = 869.525 ∧
      panel.vm.uhdFreqHz = 869525000.0 ∧ ¬ panel.Shows := by
  intro arith panel
  have hdisplayed : panel.displayed = 920.125 := by decide +kernel
  have hfreq : panel.app.uhdFreqMhz = 869.525 := by decide +kernel
  have hsent : panel.vm.uhdFreqHz = 869525000.0 := by decide +kernel
  have hdiffer : (869.525 : F64) ≠ 920.125 := by decide +kernel
  have hshows : ¬ panel.Shows := by
    intro h
    have hfreqs := h.freq
    rw [hfreq, hdisplayed] at hfreqs
    exact hdiffer hfreqs
  exact ⟨rfl, rfl, hdisplayed, hfreq, hsent, hshows⟩

end Mesh
