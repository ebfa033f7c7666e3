import Mesh.ForStd.Lts
import Mesh.Spec.Samples
import Mesh.Spec.Schedule

/-!
# The machine arithmetic of an iteration

Three `u64` operations of an iteration and the shift of the decode loop depend on
what commands set. The sample counter is bounded by the samples produced so far, so the
interval and the spreading factor alone decide whether an operation leaves its range;
`Dials` are these two settings and the pause button, which only commands turn.

## Key results

- `SimLoop.dials_tick`, `SimLoop.dials_decode`: the loop turns none of the dials
- `steps_in_range_iff`: over every run
- `commands_leave_range`: two commands that leave it
-/

namespace Mesh

open Ieee (F32 F64 Arith)

/-! ## The dials -/

/-- The pause button and the two settings that reach machine arithmetic. -/
structure Dials where
  running : Bool
  sf : UInt8
  intervalMs : UInt64

namespace Dials

/-- The dials at start-up. -/
def boot : Dials := { running := true, sf := defaultSf, intervalMs := defaultIntervalMs }

/-- The effect of one command. -/
def apply (d : Dials) : Command → Dials
  | .setRunning on => { d with running := on }
  | .setSf n => { d with sf := n }
  | .setIntervalMs v => { d with intervalMs := v }
  | _ => d

/-- The effect of one event. -/
def next (d : Dials) (e : LoopEvent) : Dials := e.commands.foldl apply d

/-- The samples an event asks of the driver; a paused iteration asks for none. -/
def samples (d : Dials) : LoopEvent → List Nat
  | .tick inp => if (d.next (.tick inp)).running then [inp.mixedLen] else []
  | .decode _ _ => []

/-- The samples produced along some events since start-up. -/
def produced (es : List LoopEvent) : Nat := (Lts.outputs next samples boot es).sum

/-- The last event adds its samples to those of the others. -/
theorem produced_concat (es : List LoopEvent) (e : LoopEvent) :
    produced (es ++ [e]) = produced es + (samples (es.foldl next boot) e).sum := by
  rw [produced, Lts.outputs_concat, List.sum_append, ← produced]

/-- One iteration produces its samples at most; none if it is paused. -/
theorem produced_tick_le (inp : TickInput) : produced [.tick inp] ≤ inp.mixedLen := by
  simp only [produced, Lts.outputs, samples]
  split <;> simp

end Dials

namespace SimLoop

/-- The dials of a state. -/
def dials (s : SimLoop) : Dials where
  running := s.vm.running
  sf := s.vm.sf
  intervalMs := s.vm.intervalMs

/-- Commands turn the dials one by one. -/
theorem dials_drainCommands (s : SimLoop) (commands : List Command) :
    (s.drainCommands commands).dials = commands.foldl Dials.apply s.dials := by
  apply read_drainCommands
  intro t cmd
  cases cmd <;> rfl

theorem untouched_dials : Untouched fun vm => (⟨vm.running, vm.sf, vm.intervalMs⟩ : Dials) :=
  fun _ _ _ _ _ => rfl

section

variable [Arith] [Features]

theorem dials_rebuilt (s : SimLoop) (inp : TickInput) :
    (s.rebuilt inp).dials = s.dials.next (.tick inp) :=
  (untouched_dials.rebuilt s inp).trans (dials_drainCommands s inp.commands)

variable [Prost] [Aes256]

theorem dials_tick (s : SimLoop) (inp : TickInput) :
    (s.tick inp).dials = s.dials.next (.tick inp) :=
  (untouched_dials.tick s inp).trans (dials_drainCommands s inp.commands)

omit [Features] in
/-- A turn of the decode loop leaves the dials alone. -/
theorem dials_decode (s : SimLoop) (sf : UInt8) (txAllowed : Bool) (clock : RxClock)
    (r : StreamDecodeResult) : (s.decode sf txAllowed clock r).dials = s.dials :=
  untouched_dials.decode s sf txAllowed clock r

end

/-! ## The sample counter -/

section

variable [Arith] [Prost] [Aes256]

/-- A turn of the decode loop produces no samples. -/
theorem produced_decode (s : SimLoop) (sf : UInt8) (txAllowed : Bool) (clock : RxClock)
    (r : StreamDecodeResult) : (s.decode sf txAllowed clock r).produced = s.produced :=
  congrArg TxClock.produced (txClock_decode s sf txAllowed clock r)

variable [Features]

omit [Prost] [Aes256] in
/-- The driver rebuild starts the counter over or leaves it alone. -/
theorem produced_rebuilt (s : SimLoop) (inp : TickInput) :
    (s.rebuilt inp).produced = 0 ∨ (s.rebuilt inp).produced = s.produced := by
  have hnode : ((s.drainCommands inp.commands).rebuildNode inp.rebuildNow).produced =
      s.produced := by
    unfold rebuildNode
    split <;> rfl
  rw [← hnode, rebuilt, rebuildDriver]
  split
  · exact .inl rfl
  · exact .inr rfl

/-- An unpaused iteration counts its samples on top of what the driver rebuild left. -/
theorem produced_tick {s : SimLoop} {inp : TickInput}
    (h : (s.drainCommands inp.commands).vm.running = true) :
    (s.tick inp).produced = (s.rebuilt inp).produced + UInt64.ofNat inp.mixedLen := by
  obtain ⟨txDest, htick⟩ := tick_eq_autoTx h
  have hcount : ∀ t : SimLoop, (t.tickDriver inp.mixedLen inp.spectra).produced =
      t.produced + UInt64.ofNat inp.mixedLen := fun _ => rfl
  rw [htick]
  show (tickDriver _ inp.mixedLen inp.spectra).produced = _
  rw [hcount, produced_autoTx, produced_manualSent]

/-- The counter rises by the samples produced, at most. -/
theorem produced_tick_le (s : SimLoop) (inp : TickInput) :
    (s.tick inp).produced.toNat ≤ s.produced.toNat + (s.dials.samples (.tick inp)).sum := by
  have hrunning : (s.drainCommands inp.commands).vm.running =
      (s.dials.next (.tick inp)).running :=
    congrArg Dials.running (dials_drainCommands s inp.commands)
  rw [Dials.samples, ← hrunning]
  cases hrun : (s.drainCommands inp.commands).vm.running with
  | true =>
    have hmixed : (UInt64.ofNat inp.mixedLen).toNat ≤ inp.mixedLen := Nat.mod_le _ _
    -- a wrapped counter only gets smaller
    have hadd : (s.tick inp).produced.toNat ≤
        (s.rebuilt inp).produced.toNat + (UInt64.ofNat inp.mixedLen).toNat := by
      rw [produced_tick hrun, UInt64.toNat_add]
      exact Nat.mod_le _ _
    rw [if_pos rfl, List.sum_singleton]
    rcases produced_rebuilt s inp with hzero | hsame
    · rw [hzero, UInt64.toNat_zero] at hadd
      omega
    · rw [hsame] at hadd
      omega
  | false =>
    -- a paused iteration produces nothing
    have hkept : (s.tick inp).produced = s.produced := by rw [tick_paused hrun]; rfl
    rw [hkept]
    omega

/-! ## Runs -/

omit [Prost] [Aes256] in
/-- At the start the dials are as `ViewModel.new` sets them. -/
theorem dials_start (random : UInt32) (probed : Bool) (uhdOpen : Except String Unit) :
    (start (bootView random probed) uhdOpen).dials = Dials.boot := by
  have hboot : (⟨(bootView random probed).running, (bootView random probed).sf,
      (bootView random probed).intervalMs⟩ : Dials) = Dials.boot := by
    cases probed <;> rfl
  exact (untouched_dials.start (bootView random probed) uhdOpen).trans hboot

/-- What a run leaves: the dials as the commands turned them, a counter no larger than the
    samples produced, and a decode loop that runs at the dialled spreading factor. -/
private structure Dialled (es : List LoopEvent) (t : SimLoop) : Prop where
  dials : t.dials = es.foldl Dials.next Dials.boot
  produced : t.produced.toNat ≤ Dials.produced es
  phase : ∀ sf txAllowed, t.phase = .rx sf txAllowed → sf = t.dials.sf

/-- A step turns the dials as its commands do, and the counter counts its samples. -/
private theorem dialled_step {es : List LoopEvent} {s t : SimLoop} {e : LoopEvent}
    (h : Dialled es s) (hstep : s.Step e t) : Dialled (es ++ [e]) t := by
  obtain ⟨hdials, hproduced, hphase⟩ := h
  have hcount := Dials.produced_concat es e
  rw [← hdials] at hcount
  rcases step_cases hstep with ⟨inp, rfl, htop, rfl⟩ | ⟨sf, txAllowed, r, clock, rfl, hrx, rfl⟩
  · refine ⟨?_, ?_, ?_⟩
    · -- an iteration turns the dials and counts its samples
      rw [dials_tick, hdials, List.foldl_concat]
    · have hle := produced_tick_le s inp
      omega
    · intro sf txAllowed hrx
      cases hrun : (s.drainCommands inp.commands).vm.running with
      | true =>
        rw [phase_tick_eq hrun] at hrx
        -- the decode loop is entered with the spreading factor of the iteration
        rw [dials_tick, ← (Phase.rx.inj hrx).1]
        exact congrArg Dials.sf (dials_drainCommands s inp.commands)
      | false =>
        rw [tick_paused hrun] at hrx
        exact nomatch htop.symm.trans hrx
  · refine ⟨?_, ?_, ?_⟩
    · rw [dials_decode, hdials, List.foldl_concat]
      rfl
    · rw [produced_decode, hcount]
      omega
    · intro sf' txAllowed' hrx'
      rw [dials_decode]
      rcases phase_decode s sf txAllowed clock r with htop | hsame
      · exact nomatch htop.symm.trans hrx'
      · exact hphase sf' txAllowed' (hsame ▸ hrx')

/-- A run leaves the dials as the commands turned them. -/
private theorem dialled_run {random : UInt32} {probed : Bool} {uhdOpen : Except String Unit}
    {es : List LoopEvent} {t : SimLoop}
    (h : Lts.Run Step (start (bootView random probed) uhdOpen) es t) : Dialled es t := by
  refine h.history_invariant ?_ fun _ _ _ _ ha hstep => dialled_step ha hstep
  constructor
  · exact dials_start random probed uhdOpen
  · exact Nat.zero_le _
  · exact fun _ _ => nofun

end

end SimLoop

/-! ## Operations in range -/

/-- The turn computes a frequency offset, and so shifts by the spreading factor. -/
def StreamDecodeResult.HasOffset : StreamDecodeResult → Prop
  | ok _ _ => True
  | crcFail _ _ _ _ => True
  | decodeFailed => False
  | none => False

namespace SimLoop

/-- The `u64` operations of an iteration, in the state its driver rebuild leaves. -/
structure SumsInRange (s : SimLoop) : Prop where
  interval : s.vm.intervalMs.toNat * srHz.toNat < 2 ^ 64
  nextTx : s.produced.toNat + s.vm.intervalSamples.toNat < 2 ^ 64
  nextBeacon : s.produced.toNat + beaconInterval.toNat < 2 ^ 64

/-- No operation that the event carries out leaves its range. -/
def InRange [Arith] [Features] (s : SimLoop) : LoopEvent → Prop
  | .tick inp => (s.drainCommands inp.commands).vm.running = true → (s.rebuilt inp).SumsInRange
  | .decode r _ => r.HasOffset → ∀ sf txAllowed, s.phase = .rx sf txAllowed → sf.toNat < 64

end SimLoop

/-- The dials an event works with are in bounds: the largest interval whose samples fit
    into a `u64`, the largest spreading factor that a `u64` can be shifted by. -/
def Dials.InBounds (d : Dials) : LoopEvent → Prop
  | .tick inp => (d.next (.tick inp)).running = true →
      (d.next (.tick inp)).intervalMs.toNat ≤ 18446744073709
  | .decode r _ => r.HasOffset → d.sf.toNat < 64

/-- With few samples behind it, only the interval can take an iteration out of range. -/
theorem SimLoop.sumsInRange_iff {s : SimLoop} (hfew : s.produced.toNat < 2 ^ 40) :
    s.SumsInRange ↔ s.vm.intervalMs.toNat ≤ 18446744073709 := by
  have hrate : srHz.toNat = 1000000 := rfl
  have hbeacon : beaconInterval.toNat = 5000000 := rfl
  constructor
  · intro h
    have hinterval := h.interval
    rw [hrate] at hinterval
    omega
  · intro hle
    -- the quotient is far below `2 ^ 64`, wrapped or not
    have hsamples : s.vm.intervalSamples.toNat ≤ 2 ^ 64 / 1000 := by
      show (s.vm.intervalMs * srHz / 1000).toNat ≤ 2 ^ 64 / 1000
      rw [UInt64.toNat_div]
      exact Nat.div_le_div_right (UInt64.toNat_lt _).le
    refine ⟨?_, ?_, ?_⟩
    · rw [hrate]
      omega
    · omega
    · omega

section

variable [Arith] [Prost] [Aes256] [Features]

/-- In every run, a step before which fewer than 2^40 samples were produced stays in range
    exactly if the commands so far leave the dials it works with in bounds. -/
theorem steps_in_range_iff {random : UInt32} {probed : Bool} {uhdOpen : Except String Unit}
    {es : List LoopEvent} {s t : SimLoop} {e : LoopEvent}
    (hrun : Lts.Run SimLoop.Step (SimLoop.start (bootView random probed) uhdOpen) es s)
    (hstep : s.Step e t) (hfew : Dials.produced es < 2 ^ 40) :
    s.InRange e ↔ (es.foldl Dials.next Dials.boot).InBounds e := by
  obtain ⟨hdials, hproduced, hphase⟩ := SimLoop.dialled_run hrun
  rw [← hdials]
  rcases SimLoop.step_cases hstep with
    ⟨inp, rfl, -, -⟩ | ⟨sf, txAllowed, r, clock, rfl, hrx, -⟩
  · have hrunning : (s.drainCommands inp.commands).vm.running =
        (s.dials.next (.tick inp)).running :=
      congrArg Dials.running (SimLoop.dials_drainCommands s inp.commands)
    have hinterval : (s.rebuilt inp).vm.intervalMs = (s.dials.next (.tick inp)).intervalMs :=
      congrArg Dials.intervalMs (SimLoop.dials_rebuilt s inp)
    -- the rebuild starts the counter over or keeps it
    have hbound : (s.rebuilt inp).produced.toNat < 2 ^ 40 := by
      rcases SimLoop.produced_rebuilt s inp with hzero | hsame
      · rw [hzero]
        decide
      · rw [hsame]
        omega
    rw [SimLoop.InRange, Dials.InBounds, hrunning, SimLoop.sumsInRange_iff hbound, hinterval]
  · -- the decode loop shifts by the spreading factor its tick began with
    rw [SimLoop.InRange, Dials.InBounds]
    constructor
    · intro h hoffset
      rw [← hphase sf txAllowed hrx]
      exact h hoffset sf txAllowed hrx
    · intro h hoffset sf' txAllowed' hrx'
      rw [hphase sf' txAllowed' hrx']
      exact h hoffset

end

section

open Samples

/-- Two commands that no check keeps out: an interval whose samples overflow, and a
    spreading factor of 64. -/
theorem commands_leave_range : ∃ (inp : TickInput) (r : StreamDecodeResult) (clock : RxClock)
    (s t : SimLoop),
    inp.commands = [.setIntervalMs 18446744073710, .setSf 64] ∧
      Lts.Run SimLoop.Step (Samples.boot 1) [.tick inp] s ∧ s.Step (.decode r clock) t ∧
      Dials.produced [.tick inp] < 2 ^ 40 ∧
      ¬ (Samples.boot 1).InRange (.tick inp) ∧ ¬ s.InRange (.decode r clock) := by
  obtain ⟨inp, hinp, hcmds⟩ := exists_tick [.setIntervalMs 18446744073710, .setSf 64]
  have hmixed : inp.mixedLen = 16000 := (congrArg (fun e => (match e with
    | .tick i => i.mixedLen
    | .decode _ _ => 16000 : Nat)) hinp).symm
  have hdrain : ((Samples.boot 1).drainCommands inp.commands).dials =
      { running := true, sf := 64, intervalMs := 18446744073710 } := by
    rw [SimLoop.dials_drainCommands, Samples.boot, SimLoop.dials_start, hcmds]
    rfl
  have hrunning : ((Samples.boot 1).drainCommands inp.commands).vm.running = true :=
    congrArg Dials.running hdrain
  have hphase := SimLoop.phase_tick_eq hrunning
  rw [show ((Samples.boot 1).drainCommands inp.commands).vm.sf = 64 from
    congrArg Dials.sf hdrain] at hphase
  refine ⟨inp, .ok [] 0.0, { now := "12:00:00", fwdNow := "12:00:00" }, _, _, hcmds,
    Lts.Run.single (SimLoop.step_tick rfl), SimLoop.step_decode hphase, ?_, ?_, ?_⟩
  · -- few samples so far
    have hle := Dials.produced_tick_le inp
    omega
  · -- the interval overflows in the tick
    intro h
    have hover := (h hrunning).interval
    have hinterval : ((Samples.boot 1).rebuilt inp).vm.intervalMs = 18446744073710 := by
      have hdials := SimLoop.dials_rebuilt (Samples.boot 1) inp
      rw [Dials.next, LoopEvent.commands, ← SimLoop.dials_drainCommands, hdrain] at hdials
      exact congrArg Dials.intervalMs hdials
    rw [hinterval] at hover
    exact absurd hover (by decide)
  · -- and the shift at the first decoded frame
    intro h
    exact absurd (h trivial 64 _ hphase) (by decide)

/-- Another interval and another spreading factor, both in bounds, for an iteration and a turn
    of its decode loop. -/
theorem steps_in_range_iff_sample : ∃ (inp : TickInput) (r : StreamDecodeResult)
    (clock : RxClock) (s t : SimLoop),
    inp.commands = [.setIntervalMs 500, .setSf 9] ∧
      Lts.Run SimLoop.Step (Samples.boot 1) [.tick inp] s ∧ s.Step (.decode r clock) t ∧
      (Samples.boot 1).InRange (.tick inp) ∧ s.InRange (.decode r clock) := by
  obtain ⟨inp, hinp, hcmds⟩ := exists_tick [.setIntervalMs 500, .setSf 9]
  have hmixed : inp.mixedLen = 16000 := (congrArg (fun e => (match e with
    | .tick i => i.mixedLen
    | .decode _ _ => 16000 : Nat)) hinp).symm
  -- both commands are drained before anything is computed from them
  have hdials : Dials.boot.next (.tick inp) =
      { running := true, sf := 9, intervalMs := 500 } := by
    rw [Dials.next, LoopEvent.commands, hcmds]
    rfl
  have hdrain : ((Samples.boot 1).drainCommands inp.commands).dials =
      { running := true, sf := 9, intervalMs := 500 } := by
    rw [SimLoop.dials_drainCommands, Samples.boot, SimLoop.dials_start]
    exact hdials
  have hphase := SimLoop.phase_tick_eq (congrArg Dials.running hdrain :
    ((Samples.boot 1).drainCommands inp.commands).vm.running = true)
  have hrun : Lts.Run SimLoop.Step (Samples.boot 1) [.tick inp] ((Samples.boot 1).tick inp) :=
    Lts.Run.single (SimLoop.step_tick rfl)
  have hdecode : ((Samples.boot 1).tick inp).Step
      (.decode (.ok [] 0.0) { now := "12:00:00", fwdNow := "12:00:00" }) _ :=
    SimLoop.step_decode hphase
  have hfew : Dials.produced [.tick inp] < 2 ^ 40 := by
    have hle := Dials.produced_tick_le inp
    omega
  refine ⟨inp, _, _, _, _, hcmds, hrun, hdecode, ?_, ?_⟩
  · refine (steps_in_range_iff .nil (SimLoop.step_tick rfl) (by decide)).mpr ?_
    rw [List.foldl_nil, Dials.InBounds, hdials]
    exact fun _ => by decide
  · refine (steps_in_range_iff hrun hdecode hfew).mpr ?_
    rw [List.foldl_cons, List.foldl_nil, hdials]
    exact fun _ => by decide

end

end Mesh
