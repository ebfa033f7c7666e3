import Mesh.ForStd.Lts
import Mesh.ForStd.Rolling
import Mesh.Native.DutyCycle
import Mesh.Spec.Samples

/-!
# The rolling duty-cycle budget

`canSend` looks at one window only, the one that ends when it is asked, and forgets
what is older. The log is ordered, so what it still holds is everything recorded
in that window, and a transmission recorded later lies at least as far from the
entries forgotten.

## Key results

- `DutyCycle.canSend_spec`: what a call forgets and what its answer means
- `Tracker.sound_step`: what one call preserves
- `every_window_within_budget`: over every history
-/

namespace Mesh

open Ieee (F64 Arith)

/-- Timestamps and airtimes in nanoseconds. -/
def airtimes (log : List (Instant × Duration)) : List (Nat × Nat) :=
  log.map fun e => (e.1.nanos, e.2.nanos)

/-- Dropping entries of the log is evicting them. -/
theorem airtimes_dropWhile (cutoff : Nat) (log : List (Instant × Duration)) :
    airtimes (log.dropWhile fun e => decide (e.1.nanos < cutoff)) =
      Rolling.evict cutoff (airtimes log) := by
  rw [airtimes, airtimes, Rolling.evict, List.dropWhile_map]
  rfl

namespace DutyCycle

variable [Arith] {self duty : DutyCycle} {now fallback : Instant} {tAir : Duration} {ok : Bool}

/-- A call forgets what is stale, and nothing else. -/
theorem canSend_state (h : self.canSend now fallback tAir = some (ok, duty)) :
    duty = self.evictStale now fallback := by
  unfold canSend at h
  obtain ⟨used, hused, h⟩ := Option.bind_eq_some_iff.mp h
  obtain ⟨budget, hbudget, h⟩ := Option.bind_eq_some_iff.mp h
  obtain ⟨total, htotal, h⟩ := Option.bind_eq_some_iff.mp h
  exact (Prod.mk.inj (Option.some.inj h)).2.symm

/-- A call grants exactly what fits into the budget beside the log that is left. -/
theorem canSend_true_iff :
    (∃ duty, self.canSend now fallback tAir = some (true, duty)) ↔
      ∃ budget, self.budget = some budget ∧
        tAir.nanos + Rolling.weight (airtimes (self.evictStale now fallback).log) ≤
          budget.nanos := by
  have hweight : Rolling.weight (airtimes (self.evictStale now fallback).log) =
      (((self.evictStale now fallback).log.map Prod.snd).map Duration.nanos).sum := by
    rw [Rolling.weight, airtimes, List.map_map, List.map_map]
    rfl
  constructor
  · rintro ⟨duty, h⟩
    unfold canSend at h
    obtain ⟨used, hused, h⟩ := Option.bind_eq_some_iff.mp h
    obtain ⟨budget, hbudget, h⟩ := Option.bind_eq_some_iff.mp h
    obtain ⟨total, htotal, h⟩ := Option.bind_eq_some_iff.mp h
    have hle := of_decide_eq_true (Prod.mk.inj (Option.some.inj h)).1
    have hsum : used.nanos = _ := Duration.nanos_of_ofNanos? hused
    have hadd : total.nanos = _ := Duration.nanos_of_ofNanos? htotal
    exact ⟨budget, hbudget, by omega⟩
  · rintro ⟨budget, hbudget, hle⟩
    -- a total within the budget is one a `Duration` can hold
    have hlt := budget.lt
    have hused : (((self.evictStale now fallback).log.map Prod.snd).map Duration.nanos).sum <
        2 ^ 64 * 1000000000 := by omega
    have htotal : (((self.evictStale now fallback).log.map Prod.snd).map Duration.nanos).sum +
        tAir.nanos < 2 ^ 64 * 1000000000 := by omega
    have hbudget' : (self.evictStale now fallback).budget = some budget := hbudget
    refine ⟨self.evictStale now fallback, ?_⟩
    unfold canSend
    simp only [Duration.sum, Duration.checkedAdd, Duration.ofNanos?, dif_pos hused, hbudget',
      Option.bind_eq_bind, Option.bind_some, dif_pos htotal]
    show some (decide (_ ≤ _), _) = _
    rw [decide_eq_true (by omega)]

omit [Arith] in
/-- Away from the clock's beginning, eviction cuts at one window ago. -/
theorem airtimes_evictStale (hnow : window.nanos ≤ now.nanos) :
    airtimes (self.evictStale now fallback).log =
      Rolling.evict (now.nanos - window.nanos) (airtimes self.log) := by
  rw [← airtimes_dropWhile, evictStale, Instant.checkedSub, if_pos hnow]
  rfl

omit [Arith] in
/-- Before a window has passed, the second clock reading is the cutoff. -/
theorem airtimes_evictStale_early (hnow : now.nanos < window.nanos) :
    airtimes (self.evictStale now fallback).log =
      Rolling.evict fallback.nanos (airtimes self.log) := by
  rw [← airtimes_dropWhile, evictStale, Instant.checkedSub, if_neg (by omega)]
  rfl

/-- A call forgets what is older than a window, and grants what fits beside the rest. -/
theorem canSend_spec (h : self.canSend now fallback tAir = some (ok, duty))
    (hnow : window.nanos ≤ now.nanos) :
    duty.limitFraction = self.limitFraction ∧
      airtimes duty.log = Rolling.evict (now.nanos - window.nanos) (airtimes self.log) ∧
      ∀ budget, self.budget = some budget → ok = true →
        Rolling.weight (airtimes duty.log) + tAir.nanos ≤ budget.nanos := by
  obtain rfl := canSend_state h
  refine ⟨rfl, airtimes_evictStale hnow, fun budget hbudget hok => ?_⟩
  subst hok
  obtain ⟨budget', hbudget', hle⟩ := canSend_true_iff.mp ⟨_, h⟩
  obtain rfl : budget = budget' := Option.some.inj (hbudget.symm.trans hbudget')
  rw [Nat.add_comm]
  exact hle

end DutyCycle

/-! ## Histories -/

/-- A call with the clock readings it makes. -/
inductive DutyEvent
  | canSend (now fallback : Instant) (tAir : Duration) (ok : Bool)
  | recordTx (now : Instant) (tAir : Duration)

/-- The tracker, the last clock reading, and what was granted since the last recorded
    transmission. -/
structure Tracker where
  duty : DutyCycle
  clock : Instant
  granted : List Duration

namespace Tracker

/-- A tracker that nobody has used yet. -/
def new (limitFraction : F64) : Tracker where
  duty := .new limitFraction
  clock := ⟨0⟩
  granted := []

/-- Calls at non-decreasing clock readings, each at least one window after the earliest
    instant; a transmission is recorded after it was granted, with none recorded in between. -/
inductive Step [Arith] (s : Tracker) : DutyEvent → Tracker → Prop
  | canSend {now fallback : Instant} {tAir : Duration} {ok : Bool} {duty : DutyCycle} :
      s.clock.nanos ≤ now.nanos → now.nanos ≤ fallback.nanos → window.nanos ≤ now.nanos →
      s.duty.canSend now fallback tAir = some (ok, duty) →
      Step s (.canSend now fallback tAir ok)
        { duty, clock := fallback, granted := if ok then tAir :: s.granted else s.granted }
  | recordTx {now : Instant} {tAir : Duration} :
      s.clock.nanos ≤ now.nanos → window.nanos ≤ now.nanos → tAir ∈ s.granted →
      Step s (.recordTx now tAir)
        { duty := s.duty.recordTx now tAir, clock := now, granted := [] }

end Tracker

/-- The transmissions recorded in a history. -/
def recordedTx (es : List DutyEvent) : List (Instant × Duration) :=
  es.filterMap fun
    | .recordTx now tAir => some (now, tAir)
    | .canSend _ _ _ _ => none

namespace Tracker

variable [Arith]

/-- The log holds everything recorded since some instant at least one window back. -/
structure Sound (budget : Duration) (es : List DutyEvent) (s : Tracker) : Prop where
  limit : s.duty.budget = some budget
  log : ∃ since, since ≤ s.clock.nanos - window.nanos ∧
    airtimes s.duty.log = Rolling.newer since (airtimes (recordedTx es))
  ordered : (airtimes (recordedTx es)).Pairwise fun x y => x.1 ≤ y.1
  past : ∀ x ∈ airtimes (recordedTx es), x.1 ≤ s.clock.nanos
  granted : ∀ tAir ∈ s.granted, ∃ since, since + window.nanos ≤ s.clock.nanos ∧
    Rolling.weight (Rolling.newer since (airtimes (recordedTx es))) + tAir.nanos ≤ budget.nanos
  admitted : Rolling.Admitted window.nanos budget.nanos (airtimes (recordedTx es))

/-- A call that records nothing keeps the recorded transmissions. -/
theorem Sound.of_recorded {budget : Duration} {es fs : List DutyEvent} {s : Tracker}
    (h : s.Sound budget es) (hsame : recordedTx fs = recordedTx es) : s.Sound budget fs := by
  obtain ⟨hlimit, hlog, hordered, hpast, hgranted, hadmitted⟩ := h
  rw [← hsame] at hlog hordered hpast hgranted hadmitted
  exact ⟨hlimit, hlog, hordered, hpast, hgranted, hadmitted⟩

/-- A new tracker has granted and recorded nothing. -/
theorem sound_new {limitFraction : F64} {budget : Duration}
    (h : (DutyCycle.new limitFraction).budget = some budget) :
    Sound budget [] (new limitFraction) :=
  ⟨h, ⟨0, Nat.zero_le _, rfl⟩, .nil, fun _ hx => absurd hx List.not_mem_nil,
    fun _ hd => absurd hd List.not_mem_nil, .nil⟩

/-- A question records nothing, and what it grants fits with the window before it. -/
theorem sound_canSend {budget : Duration} {es : List DutyEvent} {s : Tracker}
    {now fallback : Instant} {tAir : Duration} {ok : Bool} {duty : DutyCycle}
    (h : s.Sound budget es) (hclock : s.clock.nanos ≤ now.nanos)
    (hfallback : now.nanos ≤ fallback.nanos) (hnow : window.nanos ≤ now.nanos)
    (hcan : s.duty.canSend now fallback tAir = some (ok, duty)) :
    Sound budget (es ++ [.canSend now fallback tAir ok])
      { duty, clock := fallback, granted := if ok then tAir :: s.granted else s.granted } := by
  obtain ⟨hlimit, ⟨since, hsince, hlog⟩, hordered, hpast, hgranted, hadmitted⟩ := h
  obtain ⟨hlimit', hlog', hok⟩ := DutyCycle.canSend_spec hcan hnow
  have hrecorded : recordedTx (es ++ [.canSend now fallback tAir ok]) = recordedTx es := by
    rw [recordedTx, List.filterMap_append]
    exact List.append_nil _
  -- the log held all that is newer than an instant before the new cutoff
  have hnewer : airtimes duty.log =
      Rolling.newer (now.nanos - window.nanos) (airtimes (recordedTx es)) := by
    have hlater : since ≤ now.nanos - window.nanos := by omega
    rw [hlog', hlog, Rolling.evict_newer hordered hlater]
  have hback : now.nanos - window.nanos + window.nanos ≤ fallback.nanos := by omega
  refine Sound.of_recorded ?_ hrecorded
  constructor
  · -- eviction leaves the limit alone
    rw [DutyCycle.budget, hlimit']
    exact hlimit
  · exact ⟨now.nanos - window.nanos, Nat.le_sub_of_add_le hback, hnewer⟩
  · exact hordered
  · intro x hx
    have hold := hpast x hx
    show x.1 ≤ fallback.nanos
    omega
  · intro d hd
    -- earlier grants only grow older
    have hold : ∀ d ∈ s.granted, ∃ since, since + window.nanos ≤ fallback.nanos ∧
        Rolling.weight (Rolling.newer since (airtimes (recordedTx es))) + d.nanos ≤
          budget.nanos := by
      intro d hd
      obtain ⟨from', hfrom, hle⟩ := hgranted d hd
      exact ⟨from', by omega, hle⟩
    cases ok with
    | false => exact hold d hd
    | true =>
      rcases List.mem_cons.mp hd with rfl | hd
      · refine ⟨now.nanos - window.nanos, hback, ?_⟩
        rw [← hnewer]
        exact hok budget hlimit rfl
      · exact hold d hd
  · exact hadmitted

/-- A transmission that was granted is admitted, and uses up the other grants. -/
theorem sound_recordTx {budget : Duration} {es : List DutyEvent} {s : Tracker} {now : Instant}
    {tAir : Duration} (h : s.Sound budget es) (hclock : s.clock.nanos ≤ now.nanos)
    (hmem : tAir ∈ s.granted) :
    Sound budget (es ++ [.recordTx now tAir])
      { duty := s.duty.recordTx now tAir, clock := now, granted := [] } := by
  obtain ⟨hlimit, ⟨since, hsince, hlog⟩, hordered, hpast, hgranted, hadmitted⟩ := h
  obtain ⟨from', hfrom, hle⟩ := hgranted tAir hmem
  have hrecorded : airtimes (recordedTx (es ++ [.recordTx now tAir])) =
      airtimes (recordedTx es) ++ [(now.nanos, tAir.nanos)] := by
    rw [recordedTx, List.filterMap_append, airtimes, List.map_append]
    rfl
  constructor
  · exact hlimit
  · -- the new entry is newer than everything
    have hlast : since ≤ now.nanos := by omega
    refine ⟨since, hsince.trans (Nat.sub_le_sub_right hclock _), ?_⟩
    rw [hrecorded, Rolling.newer, List.filter_append, ← Rolling.newer, ← hlog]
    rw [List.filter_cons_of_pos (by simpa using hlast), DutyCycle.recordTx, airtimes,
      List.map_append]
    rfl
  · -- and comes last
    rw [hrecorded, List.pairwise_append]
    refine ⟨hordered, List.pairwise_singleton _ _, ?_⟩
    intro x hx y hy
    rw [List.mem_singleton.mp hy]
    exact (hpast x hx).trans hclock
  · intro x hx
    rw [hrecorded] at hx
    rcases List.mem_append.mp hx with hx | hx
    · exact (hpast x hx).trans hclock
    · rw [List.mem_singleton.mp hx]
  · exact fun _ hd => absurd hd List.not_mem_nil
  · rw [hrecorded]
    exact .snoc hadmitted (hfrom.trans hclock) hle

/-- What one call preserves. -/
theorem sound_step {budget : Duration} {es : List DutyEvent} {s t : Tracker} {e : DutyEvent}
    (h : s.Sound budget es) (hstep : s.Step e t) : t.Sound budget (es ++ [e]) := by
  cases hstep with
  | canSend hclock hfallback hnow hcan => exact sound_canSend h hclock hfallback hnow hcan
  | recordTx hclock _ hmem => exact sound_recordTx h hclock hmem

end Tracker

/-- In every history of a tracker, no closed interval as long as a window holds more recorded
    airtime than the budget, wherever it starts. -/
theorem every_window_within_budget [Arith] {limitFraction : F64} {budget : Duration}
    (hbudget : (DutyCycle.new limitFraction).budget = some budget) {es : List DutyEvent}
    {t : Tracker} (hrun : Lts.Run Tracker.Step (.new limitFraction) es t) (a : Nat) :
    Rolling.load a (a + window.nanos) (airtimes (recordedTx es)) ≤ budget.nanos := by
  have hsound := hrun.history_invariant (Tracker.sound_new hbudget)
    fun _ _ _ _ h hstep => Tracker.sound_step h hstep
  exact Rolling.load_le hsound.admitted a

section

open Samples

/-- IEEE multiplication at `3600 * 0.01`. -/
@[reducible] def percentArith : Arith := { bootArith with mul := fun _ _ => 36.0 }

/-- One percent of an hour is 36 seconds. -/
theorem budget_percent :
    @DutyCycle.budget percentArith (.new 0.01) = some (.fromSecs 36) := by decide +kernel

/-- Ten seconds of a budget of one percent, asked for after an hour and sent a second later. -/
theorem every_window_within_budget_sample : ∃ es : List DutyEvent,
    recordedTx es = [(⟨3601000000000⟩, .fromSecs 10)] ∧ ∀ a,
      Rolling.load a (a + window.nanos) (airtimes (recordedTx es)) ≤ 36000000000 := by
  let hour : Instant := ⟨3600000000000⟩
  let later : Instant := ⟨3601000000000⟩
  -- ten seconds are granted out of 36
  have hcan : @DutyCycle.canSend percentArith (.new 0.01) hour hour (.fromSecs 10) =
      some (true, .new 0.01) := by
    have hevict : (DutyCycle.new 0.01).evictStale hour hour = .new 0.01 := rfl
    unfold DutyCycle.canSend
    simp only [hevict, budget_percent]
    rfl
  have hask : @Tracker.Step percentArith (.new 0.01) (.canSend hour hour (.fromSecs 10) true)
      { duty := .new 0.01, clock := hour, granted := [.fromSecs 10] } :=
    @Tracker.Step.canSend percentArith (.new 0.01) _ _ _ true _ (Nat.zero_le _) le_rfl le_rfl hcan
  have hsend := @Tracker.Step.recordTx percentArith
    { duty := .new 0.01, clock := hour, granted := [.fromSecs 10] } later (.fromSecs 10)
    (by decide) (by decide) List.mem_cons_self
  have hrun := (Lts.Run.single hask).snoc hsend
  exact ⟨_, rfl, @every_window_within_budget percentArith _ _ budget_percent _ _ hrun⟩

end

end Mesh
