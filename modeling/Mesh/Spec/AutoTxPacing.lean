import Mathlib.Data.List.MinMax
import Mesh.ForStd.Pacer
import Mesh.Spec.Emissions
import Mesh.Spec.TickRange

/-!
# The pace of automatic messages

The schedule of the loop is a `Pacer`: it counts samples, its setting is the interval,
and it acts by sending an automatic message. An iteration whose sums stay in range is a
round of it (`SimLoop.pacer_tick`), and the driver rebuild starts it over.

## Key results

- `SimLoop.pacer_clampNextTx`, `SimLoop.pacer_tick`: the loop's schedule is a pacer
- `SimLoop.within_run`: over every run the deadline is at most one interval ahead
- `auto_tx_is_paced`: deadlines and gaps, over every run
-/

namespace Mesh

open Ieee (F32 F64 Arith)

/-- The interval an event reads, in samples; a paused iteration reads none. -/
def Dials.intervals (d : Dials) : LoopEvent → List UInt64
  | .tick inp =>
    if (d.next (.tick inp)).running then [(d.next (.tick inp)).intervalMs * srHz / 1000] else []
  | .decode _ _ => []

namespace SimLoop

/-- What an interval amounts to. -/
def samplesOf (ms : UInt64) : Nat := (ms * srHz / 1000).toNat

/-- The schedule as a pacer. -/
def pacer (s : SimLoop) : Pacer UInt64 where
  count := s.produced.toNat
  due := s.nextTxAt.toNat
  interval := s.prevIntervalMs

/-- The pacer is a function of the clock of automatic messages. -/
theorem pacer_of_txClock {s t : SimLoop} (h : s.txClock = t.txClock) : s.pacer = t.pacer := by
  have hproduced : s.produced = t.produced := congrArg TxClock.produced h
  have hnext : s.nextTxAt = t.nextTxAt := congrArg TxClock.nextTxAt h
  have hprev : s.prevIntervalMs = t.prevIntervalMs := congrArg TxClock.prevIntervalMs h
  rw [pacer, pacer, hproduced, hnext, hprev]

section

variable [Arith] [Prost] [Aes256] [Features]

/-- The sums an unpaused iteration makes on its schedule stay in range. -/
structure SumsFit (s : SimLoop) (inp : TickInput) : Prop where
  earliest : (s.rebuilt inp).vm.intervalMs ≠ (s.rebuilt inp).prevIntervalMs →
    (s.rebuilt inp).produced.toNat + (s.rebuilt inp).vm.intervalSamples.toNat < 2 ^ 64
  next : (s.manualSent inp).autoDue ((s.drainCommands inp.commands).vm.mode != .listen) = true →
    (s.rebuilt inp).produced.toNat + (s.rebuilt inp).vm.intervalSamples.toNat < 2 ^ 64
  produced : (s.rebuilt inp).produced.toNat + inp.mixedLen < 2 ^ 64

/-- A step in which they do. -/
structure FitStep (s : SimLoop) (e : LoopEvent) (t : SimLoop) : Prop where
  step : s.Step e t
  fit : ∀ inp, e = .tick inp → (s.drainCommands inp.commands).vm.running = true → s.SumsFit inp

/-- The round an unpaused iteration is. -/
def roundOf (s : SimLoop) (inp : TickInput) : Pacer.Round UInt64 where
  interval := (s.rebuilt inp).vm.intervalMs
  enabled := (s.drainCommands inp.commands).vm.mode != .listen &&
    (s.drainCommands inp.commands).vm.autoTx
  advance := inp.mixedLen

/-! ## The loop's schedule is a pacer -/

omit [Prost] [Aes256] [Features] [Arith] in
/-- The clamp on an interval change is the pacer reading its setting, unless the sum overflows. -/
theorem pacer_clampNextTx (s : SimLoop)
    (h : s.vm.intervalMs ≠ s.prevIntervalMs →
      s.produced.toNat + s.vm.intervalSamples.toNat < 2 ^ 64) :
    (s.clampNextTx s.vm.intervalSamples).pacer = s.pacer.retime samplesOf s.vm.intervalMs := by
  unfold clampNextTx
  by_cases hsame : s.vm.intervalMs = s.prevIntervalMs
  · rw [if_neg (not_not.mpr hsame), Pacer.retime_of_eq hsame]
  · rw [if_pos hsame, Pacer.retime_of_ne hsame]
    have hsum : (s.produced + s.vm.intervalSamples).toNat =
        s.produced.toNat + samplesOf s.vm.intervalMs := by
      rw [UInt64.toNat_add]
      exact Nat.mod_eq_of_lt (h hsame)
    -- the later of the two is given up
    have hmin : (if s.nextTxAt > s.produced + s.vm.intervalSamples then
        s.produced + s.vm.intervalSamples else s.nextTxAt).toNat =
        min s.nextTxAt.toNat (s.produced.toNat + samplesOf s.vm.intervalMs) := by
      rw [← hsum]
      split
      · rename_i hlater
        have hlt := UInt64.lt_iff_toNat_lt.mp hlater
        omega
      · rename_i hearlier
        have hle : ¬ (s.produced + s.vm.intervalSamples).toNat < s.nextTxAt.toNat :=
          fun hlt => hearlier (UInt64.lt_iff_toNat_lt.mpr hlt)
        omega
    exact congrArg (fun due => Pacer.mk s.produced.toNat due s.vm.intervalMs) hmin

/-- The schedule as the automatic message finds it. -/
theorem pacer_manualSent {s : SimLoop} {inp : TickInput} (h : s.SumsFit inp) :
    (s.manualSent inp).pacer =
      (s.rebuilt inp).pacer.retime samplesOf (s.rebuilt inp).vm.intervalMs :=
  (pacer_of_txClock (txClock_manualSent s inp)).trans
    (pacer_clampNextTx (s.rebuilt inp) h.earliest)

/-- The gates of the automatic message let it through in the rounds the pacer acts in. -/
theorem acts_iff {s : SimLoop} {inp : TickInput} (h : s.SumsFit inp) :
    (s.rebuilt inp).pacer.Acts samplesOf (s.roundOf inp) ↔
      (s.manualSent inp).autoDue ((s.drainCommands inp.commands).vm.mode != .listen) = true := by
  have hdue : ((s.rebuilt inp).pacer.retime samplesOf (s.roundOf inp).interval).due =
      (s.manualSent inp).nextTxAt.toNat := (congrArg Pacer.due (pacer_manualSent h)).symm
  have hcount : (s.rebuilt inp).pacer.count = (s.manualSent inp).produced.toNat := by
    rw [produced_manualSent]
    rfl
  rw [Pacer.Acts, hdue, hcount, autoDue, autoTx_manualSent, roundOf, Bool.and_eq_true _ (decide _),
    decide_eq_true_iff]
  exact and_congr_right fun _ => UInt64.le_iff_toNat_le.symm

/-- An unpaused iteration is a round. -/
theorem pacer_tick {s : SimLoop} {inp : TickInput}
    (hrun : (s.drainCommands inp.commands).vm.running = true) (h : s.SumsFit inp) :
    (s.tick inp).pacer = (s.rebuilt inp).pacer.round samplesOf (s.roundOf inp) := by
  have hsent := pacer_manualSent h
  have hproduced := produced_manualSent s inp
  have hinterval : (s.manualSent inp).prevIntervalMs = (s.rebuilt inp).vm.intervalMs :=
    (congrArg Pacer.interval hsent).trans (Pacer.interval_retime _ _)
  obtain ⟨txDest, htick⟩ := tick_eq_autoTx hrun
  have hauto := txClock_autoTx (s.manualSent inp) inp.auto
    ((s.drainCommands inp.commands).vm.mode != .listen) txDest (s.rebuilt inp).vm.intervalSamples
  generalize ht : (s.manualSent inp).autoTx inp.auto _ txDest _ = t at htick hauto
  have hcount : t.produced = (s.rebuilt inp).produced := by
    rw [← hproduced, ← ht, produced_autoTx]
  have hprev : t.prevIntervalMs = (s.rebuilt inp).vm.intervalMs := by
    rw [← hinterval]
    refine (congrArg TxClock.prevIntervalMs hauto).trans ?_
    split <;> rfl
  have hnext : t.nextTxAt.toNat =
      if (s.rebuilt inp).pacer.Acts samplesOf (s.roundOf inp) then
        (s.rebuilt inp).produced.toNat + samplesOf (s.rebuilt inp).vm.intervalMs
      else ((s.rebuilt inp).pacer.retime samplesOf (s.rebuilt inp).vm.intervalMs).due := by
    have hclock := congrArg TxClock.nextTxAt hauto
    by_cases hdue : (s.manualSent inp).autoDue
        ((s.drainCommands inp.commands).vm.mode != .listen) = true
    · rw [if_pos hdue] at hclock
      rw [if_pos ((acts_iff h).mpr hdue), show t.nextTxAt = _ from hclock, hproduced,
        UInt64.toNat_add]
      exact Nat.mod_eq_of_lt (h.next hdue)
    · rw [if_neg hdue] at hclock
      rw [if_neg (mt (acts_iff h).mp hdue), show t.nextTxAt = _ from hclock]
      exact congrArg Pacer.due hsent
  -- the driver's tick counts on top
  have hsum : ((s.rebuilt inp).produced + UInt64.ofNat inp.mixedLen).toNat =
      (s.rebuilt inp).produced.toNat + inp.mixedLen := by
    have hfit := h.produced
    rw [UInt64.toNat_add, UInt64.toNat_ofNat', Nat.add_mod_mod]
    exact Nat.mod_eq_of_lt hfit
  have htotal : (s.tick inp).pacer =
      { count := (t.produced + UInt64.ofNat inp.mixedLen).toNat, due := t.nextTxAt.toNat
        interval := t.prevIntervalMs } := by
    rw [htick]
    rfl
  rw [htotal, hcount, hsum, hnext, hprev]
  rfl

/-! ## Deadlines over runs -/

/-- No deadline is later than the first one and one interval ahead. -/
def Punctual (s : SimLoop) : Prop := s.pacer.Within samplesOf srHz.toNat

omit [Prost] [Aes256] in
/-- At the start the deadline is the first one. -/
theorem punctual_start (vm : ViewModel) (uhdOpen : Except String Unit) :
    (start vm uhdOpen).Punctual :=
  Nat.le_max_left _ _

omit [Prost] [Aes256] in
/-- The rebuilds of an iteration, which may restart the clock, keep the deadline close. -/
theorem Punctual.rebuilt {s : SimLoop} (h : s.Punctual) (inp : TickInput) :
    (s.rebuilt inp).Punctual := by
  by_cases hrebuild : s.Rebuilds inp
  · -- the deadline is the first one again
    show (s.rebuilt inp).nextTxAt.toNat ≤ _
    rw [nextTxAt_rebuilt hrebuild]
    exact Nat.le_max_left _ _
  · rw [Punctual, pacer_of_txClock (txClock_rebuilt hrebuild)]
    exact h

/-- A step without overflow keeps the deadline close. -/
theorem Punctual.step {s t : SimLoop} {e : LoopEvent} (h : s.Punctual) (hstep : s.FitStep e t) :
    t.Punctual := by
  rcases step_cases hstep.step with ⟨inp, rfl, -, rfl⟩ | ⟨sf, txAllowed, r, clock, rfl, -, rfl⟩
  · cases hrun : (s.drainCommands inp.commands).vm.running with
    | true =>
      rw [Punctual, pacer_tick hrun (hstep.fit inp rfl hrun)]
      exact Pacer.Within.round (h.rebuilt inp) _
    | false =>
      rw [tick_paused hrun]
      exact h
  · rw [Punctual, pacer_of_txClock (txClock_decode s sf txAllowed clock r)]
    exact h

/-- In every run without overflow the deadline is the first one or at most one interval ahead. -/
theorem punctual_run {vm : ViewModel} {uhdOpen : Except String Unit} {es : List LoopEvent}
    {s : SimLoop} (h : Lts.Run FitStep (start vm uhdOpen) es s) : s.Punctual :=
  h.invariant (punctual_start vm uhdOpen) fun _ _ _ ha hstep => ha.step hstep

/-! ## Gaps over runs -/

/-- A step whose sums stay in range and which rebuilds no driver. -/
structure QuietStep (s : SimLoop) (e : LoopEvent) (t : SimLoop) : Prop extends FitStep s e t where
  quiet : ∀ inp, e = .tick inp → (s.drainCommands inp.commands).vm.running = true →
    ¬ s.Rebuilds inp

/-- The step sends an automatic message. -/
def Announces (s t : SimLoop) : Prop :=
  ∃ text, TxSite.auto text ∈ (pushed t.calls).drop (pushed s.calls).length

/-- An iteration that does is not paused, and the gates let the message through. -/
theorem autoDue_of_announces {s : SimLoop} {inp : TickInput} (h : s.Announces (s.tick inp)) :
    (s.drainCommands inp.commands).vm.running = true ∧
      (s.manualSent inp).autoDue ((s.drainCommands inp.commands).vm.mode != .listen) = true := by
  obtain ⟨text, htext⟩ := h
  cases hrun : (s.drainCommands inp.commands).vm.running with
  | false =>
    -- draining commands transmits nothing
    rw [tick_paused hrun] at htext
    have hnone : (pushed (s.drainCommands inp.commands).calls).drop (pushed s.calls).length = [] :=
      List.drop_length
    rw [hnone] at htext
    exact absurd htext List.not_mem_nil
  | true =>
    obtain ⟨n, autos, hemits, -, hautos⟩ := emits_tick hrun
    have hcalls : pushed (s.tick inp).calls = pushed s.calls ++ _ := hemits.pushed_eq
    rw [hcalls, List.drop_left] at htext
    refine ⟨rfl, ?_⟩
    by_contra hdue
    rw [hautos (Bool.not_eq_true _ ▸ hdue)] at htext
    simp only [List.map_nil, List.append_nil, List.mem_append, List.mem_replicate] at htext
    -- the sites of beacons and typed messages are others
    rcases htext with ⟨-, hbeacon⟩ | hmanual
    · cases hbeacon
    · split at hmanual
      · exact absurd hmanual List.not_mem_nil
      · obtain ⟨_, -, hmanual⟩ := List.mem_map.mp hmanual
        cases hmanual

omit [Prost] [Aes256] in
/-- An unpaused iteration reads the interval its commands left. -/
theorem intervals_tick {s : SimLoop} {inp : TickInput}
    (hrun : (s.drainCommands inp.commands).vm.running = true) :
    s.dials.intervals (.tick inp) = [(s.rebuilt inp).vm.intervalSamples] := by
  have hrunning : (s.dials.next (.tick inp)).running = true :=
    (congrArg Dials.running (dials_drainCommands s inp.commands)).symm.trans hrun
  have hinterval : (s.rebuilt inp).vm.intervalMs = (s.dials.next (.tick inp)).intervalMs :=
    congrArg Dials.intervalMs (dials_rebuilt s inp)
  rw [Dials.intervals, if_pos hrunning, ← hinterval]
  rfl

/-- The sample count at which an unpaused iteration sends. -/
theorem spaced_announce {s : SimLoop} {inp : TickInput} {low : Nat}
    (hfit : s.SumsFit inp) (h : s.Announces (s.tick inp))
    (hlow : ∀ i ∈ s.dials.intervals (.tick inp), low ≤ i.toNat) :
    (s.tick inp).pacer.Spaced (s.rebuilt inp).produced.toNat low := by
  obtain ⟨hrun, hdue⟩ := autoDue_of_announces h
  rw [intervals_tick hrun] at hlow
  rw [pacer_tick hrun hfit]
  exact Pacer.spaced_of_acts ((acts_iff hfit).mpr hdue) (hlow _ (List.mem_singleton_self _))

/-- A step without a driver rebuild keeps the next automatic message at least `low` away. -/
theorem spaced_step {s t : SimLoop} {e : LoopEvent} {p low : Nat} (h : s.pacer.Spaced p low)
    (hstep : s.QuietStep e t) (hlow : ∀ i ∈ s.dials.intervals e, low ≤ i.toNat) :
    t.pacer.Spaced p low := by
  rcases step_cases hstep.step with ⟨inp, rfl, -, rfl⟩ | ⟨sf, txAllowed, r, clock, rfl, -, rfl⟩
  · cases hrun : (s.drainCommands inp.commands).vm.running with
    | true =>
      have hrebuilt := pacer_of_txClock (txClock_rebuilt (hstep.quiet inp rfl hrun))
      rw [intervals_tick hrun] at hlow
      rw [pacer_tick hrun (hstep.fit inp rfl hrun), hrebuilt]
      exact Pacer.Spaced.round h (hlow _ (List.mem_singleton_self _))
    | false =>
      rw [tick_paused hrun]
      exact h
  · rw [pacer_of_txClock (txClock_decode s sf txAllowed clock r)]
    exact h

/-- A tick has one outcome. -/
theorem eq_tick_of_step {s t : SimLoop} {inp : TickInput}
    (h : s.Step (.tick inp) t) : t = s.tick inp := by
  rcases step_cases h with ⟨inp', he, -, ht⟩ | ⟨_, _, _, _, he, -, -⟩
  · cases he
    exact ht
  · cases he

/-- The dials after a step. -/
theorem dials_step {s t : SimLoop} {e : LoopEvent} (h : s.Step e t) :
    t.dials = s.dials.next e := by
  rcases step_cases h with ⟨inp, rfl, -, rfl⟩ | ⟨sf, txAllowed, r, clock, rfl, -, rfl⟩
  · exact dials_tick s inp
  · exact dials_decode s sf txAllowed clock r

/-- The dials after a run. -/
theorem dials_run {t u : SimLoop} {ds : List LoopEvent} (h : Lts.Run QuietStep t ds u) :
    u.dials = ds.foldl Dials.next t.dials := by
  refine h.history_invariant (I := fun fs b => b.dials = fs.foldl Dials.next t.dials) rfl ?_
  intro fs a e b ha hstep
  rw [dials_step hstep.step, ha, List.foldl_concat]

/-- As long as no driver is rebuilt, the next deadline keeps the distance that all intervals
    read since the message allow for. -/
theorem spaced_run {t u : SimLoop} {ds : List LoopEvent} {p low : Nat}
    (hrun : Lts.Run QuietStep t ds u) (h : t.pacer.Spaced p low)
    (hlow : ∀ i ∈ Lts.outputs Dials.next Dials.intervals t.dials ds, low ≤ i.toNat) :
    u.pacer.Spaced p low := by
  induction hrun with
  | nil => exact h
  | snoc hprefix hstep ih =>
    rw [Lts.outputs_concat, List.forall_mem_append, ← dials_run hprefix] at hlow
    exact spaced_step (ih hlow.1) hstep hlow.2

end

end SimLoop

section

variable [Arith] [Prost] [Aes256] [Features]

/-- In every run whose sums stay in range: after the interval step of an iteration, the
    deadline is at most `srHz`, or one interval ahead of the counter. And from one automatic
    message to a later one, with no driver rebuilt in between, the counter rises at least by
    the smallest interval read from the one iteration to the other. -/
theorem auto_tx_is_paced {vm : ViewModel} {uhdOpen : Except String Unit} {es : List LoopEvent}
    {s : SimLoop} (hrun : Lts.Run SimLoop.FitStep (SimLoop.start vm uhdOpen) es s) :
    (∀ inp, (s.drainCommands inp.commands).vm.running = true → s.SumsFit inp →
      let clamped := (s.rebuilt inp).clampNextTx (s.rebuilt inp).vm.intervalSamples
      clamped.nextTxAt.toNat ≤ max srHz.toNat
        (clamped.produced.toNat + (s.rebuilt inp).vm.intervalSamples.toNat)) ∧
    (∀ inp t ds u inp' v, s.FitStep (.tick inp) t → s.Announces t →
      Lts.Run SimLoop.QuietStep t ds u → u.QuietStep (.tick inp') v → u.Announces v →
      let reads := Lts.outputs Dials.next Dials.intervals s.dials
        (.tick inp :: (ds ++ [.tick inp']))
      ∃ i ∈ reads, (∀ j ∈ reads, i.toNat ≤ j.toNat) ∧
        (s.rebuilt inp).produced.toNat + i.toNat ≤ (u.rebuilt inp').produced.toNat) := by
  constructor
  · intro inp hrunning hfit clamped
    have hpacer := SimLoop.pacer_clampNextTx (s.rebuilt inp) hfit.earliest
    have hwithin := Pacer.Within.retime ((SimLoop.punctual_run hrun).rebuilt inp)
      (s.rebuilt inp).vm.intervalMs
    rw [← hpacer] at hwithin
    have hinterval : clamped.prevIntervalMs = (s.rebuilt inp).vm.intervalMs :=
      (congrArg Pacer.interval hpacer).trans (Pacer.interval_retime _ _)
    have hbound : clamped.nextTxAt.toNat ≤ max srHz.toNat
        (clamped.produced.toNat + SimLoop.samplesOf clamped.prevIntervalMs) := hwithin
    rw [hinterval] at hbound
    exact hbound
  · intro inp t ds u inp' v hfirst hsent hquiet hlast hsent' reads
    obtain rfl := SimLoop.eq_tick_of_step hfirst.step
    obtain rfl := SimLoop.eq_tick_of_step hlast.step
    have hrunning := (SimLoop.autoDue_of_announces hsent).1
    obtain ⟨hrunning', hdue'⟩ := SimLoop.autoDue_of_announces hsent'
    have hfit' := hlast.fit inp' rfl hrunning'
    -- the smallest of the intervals
    have hsome : reads ≠ [] := by
      show Dials.intervals s.dials (.tick inp) ++ _ ≠ []
      rw [SimLoop.intervals_tick hrunning]
      simp
    have hargmin : reads.argmin UInt64.toNat ≠ none := mt List.argmin_eq_none.mp hsome
    obtain ⟨i, hi⟩ := Option.ne_none_iff_exists'.mp hargmin
    have hmin : ∀ j ∈ reads, i.toNat ≤ j.toNat := fun j hj => List.le_of_mem_argmin hj hi
    refine ⟨i, List.argmin_mem hi, hmin, ?_⟩
    -- it bounds what the first iteration reads, the steps in between, and the last iteration
    have hsplit : reads = s.dials.intervals (.tick inp) ++
        (Lts.outputs Dials.next Dials.intervals (s.tick inp).dials ds ++
          u.dials.intervals (.tick inp')) := by
      rw [SimLoop.dials_run hquiet, ← Lts.outputs_concat, SimLoop.dials_tick]
      rfl
    rw [hsplit, List.forall_mem_append, List.forall_mem_append] at hmin
    obtain ⟨hread, hreads, hread'⟩ := hmin
    have hspaced := SimLoop.spaced_run hquiet
      (SimLoop.spaced_announce (hfirst.fit inp rfl hrunning) hsent hread) hreads
    have hrebuilt : (u.rebuilt inp').pacer = u.pacer :=
      SimLoop.pacer_of_txClock (SimLoop.txClock_rebuilt (hlast.quiet inp' rfl hrunning'))
    rw [← hrebuilt] at hspaced
    rw [SimLoop.intervals_tick hrunning'] at hread'
    have hlow : i.toNat ≤ SimLoop.samplesOf (u.roundOf inp').interval :=
      hread' _ (List.mem_singleton_self _)
    exact hspaced.le_count hlow ((SimLoop.acts_iff hfit').mpr hdue')

end

namespace Samples

/-- The input of an iteration that drains no command and hears nothing. -/
def beat : TickInput where
  commands := []
  rebuildNow := "12:00:00"
  uhdOpen := .error "no device"
  beacon := 3
  manual := fun _ => { random := 7, now := "12:00:00" }
  auto := { random := 8, now := "12:00:00" }
  mixedLen := 16000
  spectra := []

/-- A loop that sends, every 10 ms at most. -/
def lively : SimLoop :=
  SimLoop.start { ViewModel.new 1 with mode := .terminal, intervalMs := 10 } (.error "no device")

/-- A whole iteration. -/
def turn (s : SimLoop) : SimLoop :=
  (s.tick beat).decode 11 true { now := "12:00:00", fwdNow := "12:00:00" } .none

end Samples

open Samples

/-- The second and the third iteration send, at 16000 and 32000 samples; both read an interval
    of 10000. -/
theorem auto_tx_is_paced_sample :
    ∃ i ∈ Lts.outputs Dials.next Dials.intervals (turn lively).dials
        [.tick beat, idle, .tick beat],
      ((turn lively).rebuilt beat).produced.toNat + i.toNat ≤
        ((turn (turn lively)).rebuilt beat).produced.toNat := by
  -- three turns, the last two of which announce a message
  have hfit₀ : lively.SumsFit beat := by
    constructor <;> decide +kernel
  have hfit₁ : (turn lively).SumsFit beat := by
    constructor <;> decide +kernel
  have hfit₂ : (turn (turn lively)).SumsFit beat := by
    constructor <;> decide +kernel
  have htick : ∀ s : SimLoop, s.phase = .top → s.SumsFit beat →
      s.FitStep (.tick beat) (s.tick beat) := fun s htop hfit =>
    ⟨SimLoop.step_tick htop, fun inp hinp _ => LoopEvent.tick.inj hinp ▸ hfit⟩
  have hidle : ∀ s : SimLoop, (s.tick beat).phase = .rx 11 true →
      (s.tick beat).FitStep idle (turn s) := fun s hrx =>
    ⟨SimLoop.step_decode hrx, fun inp hinp => by cases hinp⟩
  -- TX is on in all of them
  have hphase : ∀ s : SimLoop, (s.drainCommands beat.commands).vm.running = true →
      (s.drainCommands beat.commands).vm.sf = 11 →
      ((s.drainCommands beat.commands).vm.mode != .listen) = true →
      (s.tick beat).phase = .rx 11 true := by
    intro s hrunning hsf hmode
    rw [SimLoop.phase_tick_eq hrunning, hsf, hmode]
  have hphase₀ := hphase lively (by decide +kernel) (by decide +kernel) (by decide +kernel)
  have hphase₁ := hphase (turn lively) (by decide +kernel) (by decide +kernel) (by decide +kernel)
  have hrun : Lts.Run SimLoop.FitStep lively [.tick beat, idle] (turn lively) :=
    .snoc (.single (htick lively rfl hfit₀)) (hidle lively hphase₀)
  have hsent₁ : (turn lively).Announces ((turn lively).tick beat) :=
    ⟨"Test #1", by decide +kernel⟩
  have hsent₂ : (turn (turn lively)).Announces ((turn (turn lively)).tick beat) :=
    ⟨"Test #2", by decide +kernel⟩
  have hnone : ¬ (turn (turn lively)).Rebuilds beat := by
    unfold SimLoop.Rebuilds
    decide +kernel
  have hquiet : Lts.Run SimLoop.QuietStep ((turn lively).tick beat) [idle] (turn (turn lively)) :=
    .single ⟨hidle (turn lively) hphase₁, fun inp hinp => by cases hinp⟩
  have hlast : (turn (turn lively)).QuietStep (.tick beat) ((turn (turn lively)).tick beat) :=
    ⟨htick (turn (turn lively)) rfl hfit₂, fun inp hinp _ => LoopEvent.tick.inj hinp ▸ hnone⟩
  obtain ⟨i, hi, -, hle⟩ := (auto_tx_is_paced hrun).2 beat ((turn lively).tick beat) [idle]
    (turn (turn lively)) beat ((turn (turn lively)).tick beat) (htick (turn lively) rfl hfit₁)
    hsent₁ hquiet hlast hsent₂
  exact ⟨i, hi, hle⟩

end Mesh
