import Mesh.Spec.DutyCycleCorrect

/-!
# The log beside a ledger that forgets nothing

The log drops from its front what is older than an hour. As it is ordered, what is
left after a question is everything recorded in the hour before it, so the answer is
that of a ledger which keeps every transmission, and asking more often changes none.

Before the clock has run for an hour there is no instant an hour back, and the cutoff
is the present: a question then drops everything recorded before it.

## Key results

- `DutyCycle.evictStale_exact_iff`: when a question drops only what is an hour old
- `DutyCycle.remembers_call`: what one call preserves
- `DutyCycle.log_forgets_only_stale`: over every history
-/

namespace Mesh

open Ieee (F64 Arith)

/-! ## Histories -/

/-- The clock readings of a call, in the order it makes them. -/
def DutyEvent.readings : DutyEvent → List Nat
  | .canSend now fallback _ _ => [now.nanos, fallback.nanos]
  | .recordTx now _ => [now.nanos]

/-- The clock readings of a history. -/
def clockReadings (es : List DutyEvent) : List Nat := es.flatMap DutyEvent.readings

/-- What a ledger that forgets nothing counts: the transmissions at most an hour old. -/
def lastHour (now : Instant) (recorded : List (Instant × Duration)) :
    List (Instant × Duration) :=
  recorded.filter fun e => decide (now.nanos - e.1.nanos ≤ window.nanos)

/-- What is young enough is what lies after the cutoff. -/
theorem airtimes_filter_age (now width : Nat) (recorded : List (Instant × Duration)) :
    airtimes (recorded.filter fun e => decide (now - e.1.nanos ≤ width)) =
      Rolling.newer (now - width) (airtimes recorded) := by
  rw [Rolling.newer, airtimes, airtimes, List.filter_map]
  congr 1
  apply List.filter_congr
  intro e _
  simp only [Function.comp_apply, decide_eq_decide]
  omega

/-- The last hour of a history, as airtimes. -/
theorem airtimes_lastHour (now : Instant) (recorded : List (Instant × Duration)) :
    airtimes (lastHour now recorded) =
      Rolling.newer (now.nanos - window.nanos) (airtimes recorded) :=
  airtimes_filter_age now.nanos window.nanos recorded

/-- Airtimes tell histories apart. -/
theorem airtimes_inj {log log' : List (Instant × Duration)} :
    airtimes log = airtimes log' ↔ log = log' := by
  refine List.map_inj_right ?_
  rintro ⟨⟨t⟩, ⟨d, hd⟩⟩ ⟨⟨t'⟩, ⟨d', hd'⟩⟩ h
  simpa using h

/-- A recorded transmission carries a clock reading of its history. -/
theorem recordedTx_sublist (es : List DutyEvent) :
    ((airtimes (recordedTx es)).map Prod.fst).Sublist (clockReadings es) := by
  induction es with
  | nil => exact .refl _
  | cons e es ih =>
    cases e with
    | canSend now fallback tAir ok => exact (ih.cons fallback.nanos).cons now.nanos
    | recordTx now tAir => exact ih.cons_cons now.nanos

/-- With a clock that never goes back, transmissions are recorded in order. -/
theorem recordedTx_ordered {es : List DutyEvent} (h : (clockReadings es).Pairwise (· ≤ ·)) :
    (airtimes (recordedTx es)).Pairwise fun x y => x.1 ≤ y.1 :=
  List.pairwise_map.mp (h.sublist (recordedTx_sublist es))

/-- A question records nothing. -/
theorem recordedTx_concat_canSend (es : List DutyEvent) (now fallback : Instant)
    (tAir : Duration) (ok : Bool) :
    recordedTx (es ++ [.canSend now fallback tAir ok]) = recordedTx es := by
  simp [recordedTx]

/-- A transmission is recorded last. -/
theorem recordedTx_concat_recordTx (es : List DutyEvent) (now : Instant) (tAir : Duration) :
    recordedTx (es ++ [.recordTx now tAir]) = recordedTx es ++ [(now, tAir)] := by
  simp [recordedTx]

namespace DutyCycle

/-- A call that returns. -/
inductive Call [Arith] (self : DutyCycle) : DutyEvent → DutyCycle → Prop
  | canSend {now fallback : Instant} {tAir : Duration} {ok : Bool} {duty : DutyCycle} :
      self.canSend now fallback tAir = some (ok, duty) →
      Call self (.canSend now fallback tAir ok) duty
  | recordTx {now : Instant} {tAir : Duration} :
      Call self (.recordTx now tAir) (self.recordTx now tAir)

/-- The question comes an hour or more after the earliest instant, or finds nothing in the
    log that is older than its second clock reading. -/
def Timely (self : DutyCycle) (now fallback : Instant) : Prop :=
  window.nanos ≤ now.nanos ∨ ∀ e ∈ self.log, fallback.nanos ≤ e.1.nanos

/-- A call that returns, timely if it is a question. -/
def TimelyCall [Arith] (self : DutyCycle) (e : DutyEvent) (duty : DutyCycle) : Prop :=
  self.Call e duty ∧ ∀ now fallback tAir ok, e = .canSend now fallback tAir ok →
    self.Timely now fallback

/-! ## What the log remembers -/

/-- The log holds everything recorded since some instant an hour or more before any later
    reading of the clock. -/
structure Remembers (limitFraction : F64) (es : List DutyEvent) (duty : DutyCycle) : Prop where
  limit : duty.limitFraction = limitFraction
  log : ∃ since, (∀ t, (∀ r ∈ clockReadings es, r ≤ t) → since ≤ t - window.nanos) ∧
    airtimes duty.log = Rolling.newer since (airtimes (recordedTx es))

/-- At first there is nothing to remember. -/
theorem remembers_new (limitFraction : F64) : Remembers limitFraction [] (.new limitFraction) :=
  ⟨rfl, 0, fun _ _ => Nat.zero_le _, rfl⟩

variable {limitFraction : F64} {es : List DutyEvent} {duty : DutyCycle} {now fallback : Instant}

/-- In the first hour the log holds everything. -/
theorem log_early (h : Remembers limitFraction es duty)
    (hclock : (clockReadings es ++ [now.nanos, fallback.nanos]).Pairwise (· ≤ ·))
    (hnow : now.nanos < window.nanos) : duty.log = recordedTx es := by
  obtain ⟨since, hsince, hlog⟩ := h.log
  obtain ⟨-, -, hpast⟩ := List.pairwise_append.mp hclock
  have hlater := hsince now.nanos fun r hr => hpast r hr now.nanos (by simp)
  obtain rfl : since = 0 := by omega
  rw [← airtimes_inj, hlog]
  simp [Rolling.newer]

/-- A question leaves what the full ledger counts exactly when it is timely. -/
theorem evictStale_exact_iff (h : Remembers limitFraction es duty)
    (hclock : (clockReadings es ++ [now.nanos, fallback.nanos]).Pairwise (· ≤ ·)) :
    (duty.evictStale now fallback).log = lastHour now (recordedTx es) ↔
      duty.Timely now fallback := by
  obtain ⟨hreadings, -, hpast⟩ := List.pairwise_append.mp hclock
  have hordered := recordedTx_ordered hreadings
  rw [← airtimes_inj, airtimes_lastHour]
  rcases Nat.lt_or_ge now.nanos window.nanos with hnow | hnow
  · -- nothing can be an hour old, so nothing may be dropped
    have hzero : now.nanos - window.nanos = 0 := by omega
    have hlog := log_early h hclock hnow
    have hall : Rolling.newer 0 (airtimes (recordedTx es)) = airtimes (recordedTx es) := by
      simp [Rolling.newer]
    rw [airtimes_evictStale_early hnow, hzero, hall, hlog, Rolling.evict_eq_self_iff hordered,
      airtimes, List.forall_mem_map, Timely, hlog]
    simp only [Nat.not_le.mpr hnow, false_or]
  · obtain ⟨since, hsince, hlog⟩ := h.log
    have hlater := hsince now.nanos fun r hr => hpast r hr now.nanos (by simp)
    refine iff_of_true ?_ (.inl hnow)
    rw [airtimes_evictStale hnow, hlog, Rolling.evict_newer hordered hlater]

/-- A timely question leaves the last hour in the log. -/
theorem remembers_canSend [Arith] {tAir : Duration} {ok : Bool} {after : DutyCycle}
    (h : Remembers limitFraction es duty)
    (hclock : (clockReadings es ++ [now.nanos, fallback.nanos]).Pairwise (· ≤ ·))
    (htimely : duty.Timely now fallback)
    (hcan : duty.canSend now fallback tAir = some (ok, after)) :
    Remembers limitFraction (es ++ [.canSend now fallback tAir ok]) after := by
  -- the cutoff lies an hour before this reading, so an hour or more before any later one
  obtain rfl := canSend_state hcan
  refine ⟨h.limit, now.nanos - window.nanos, fun t ht => ?_, ?_⟩
  · have hnow : now.nanos ≤ t := ht now.nanos (by simp [clockReadings, DutyEvent.readings])
    omega
  · rw [recordedTx_concat_canSend, (evictStale_exact_iff h hclock).mpr htimely, airtimes_lastHour]

/-- What is recorded stays in the log. -/
theorem remembers_recordTx {tAir : Duration} (h : Remembers limitFraction es duty)
    (hclock : (clockReadings es ++ [now.nanos]).Pairwise (· ≤ ·)) :
    Remembers limitFraction (es ++ [.recordTx now tAir]) (duty.recordTx now tAir) := by
  obtain ⟨since, hsince, hlog⟩ := h.log
  obtain ⟨-, -, hpast⟩ := List.pairwise_append.mp hclock
  refine ⟨h.limit, since, fun t ht => hsince t fun r hr => ht r ?_, ?_⟩
  · rw [clockReadings, List.flatMap_append]
    exact List.mem_append_left _ hr
  · -- the new entry is newer than everything
    have hlast := hsince now.nanos fun r hr => hpast r hr now.nanos (by simp)
    have hnew : since ≤ now.nanos := by omega
    rw [recordedTx_concat_recordTx, recordTx, airtimes, List.map_append, ← airtimes, hlog,
      airtimes, airtimes, List.map_append, Rolling.newer, Rolling.newer, List.filter_append]
    simp [hnew]

/-- What one call preserves. -/
theorem remembers_call [Arith] {e : DutyEvent} {after : DutyCycle}
    (h : Remembers limitFraction es duty)
    (hclock : (clockReadings (es ++ [e])).Pairwise (· ≤ ·)) (hcall : duty.TimelyCall e after) :
    Remembers limitFraction (es ++ [e]) after := by
  obtain ⟨hcall, htimely⟩ := hcall
  have hsplit : clockReadings (es ++ [e]) = clockReadings es ++ e.readings := by
    simp [clockReadings]
  rw [hsplit] at hclock
  cases hcall with
  | canSend hcan => exact remembers_canSend h hclock (htimely _ _ _ _ rfl) hcan
  | recordTx => exact remembers_recordTx h hclock

/-- What a whole history preserves. -/
theorem remembers_run [Arith] (hrun : Lts.Run TimelyCall (.new limitFraction) es duty)
    (hclock : (clockReadings es).Pairwise (· ≤ ·)) : Remembers limitFraction es duty := by
  -- along the history, whose readings so far are ordered as all of them are
  refine hrun.history_invariant
    (I := fun es duty => (clockReadings es).Pairwise (· ≤ ·) → Remembers limitFraction es duty)
    (fun _ => remembers_new limitFraction) (fun fs a e b ih hcall hclock => ?_) hclock
  have hbefore : (clockReadings fs).Pairwise (· ≤ ·) := by
    rw [clockReadings, List.flatMap_append] at hclock
    exact (List.pairwise_append.mp hclock).1
  exact remembers_call (ih hbefore) hclock hcall

/-- Whether a question is timely does not depend on the questions before it. -/
theorem Timely.of_recorded {fs : List DutyEvent} {other : DutyCycle}
    (h : duty.Timely now fallback) (hduty : Remembers limitFraction es duty)
    (hes : (clockReadings es ++ [now.nanos, fallback.nanos]).Pairwise (· ≤ ·))
    (hother : Remembers limitFraction fs other)
    (hfs : (clockReadings fs ++ [now.nanos, fallback.nanos]).Pairwise (· ≤ ·))
    (hsame : recordedTx fs = recordedTx es) : other.Timely now fallback := by
  rcases Nat.lt_or_ge now.nanos window.nanos with hnow | hnow
  · -- both logs still hold everything, and the same was recorded
    rw [Timely, log_early hduty hes hnow] at h
    rw [Timely, log_early hother hfs hnow, hsame]
    exact h
  · exact .inl hnow

/-- Trackers with the same limit whose logs agree once they are evicted give the same result. -/
theorem canSend_congr [Arith] {other : DutyCycle} (tAir : Duration)
    (h : other.evictStale now fallback = duty.evictStale now fallback) :
    other.canSend now fallback tAir = duty.canSend now fallback tAir := by
  rw [canSend, canSend, h]

/-- In every history of timely calls at non-decreasing clock readings, the next question drops
    only what is more than an hour old exactly when it is timely itself. It is then granted
    exactly when it fits into the budget beside everything recorded in the last hour, and no
    other questions before it would have changed its result. -/
theorem log_forgets_only_stale [Arith]
    (hrun : Lts.Run TimelyCall (.new limitFraction) es duty)
    (hclock : (clockReadings es ++ [now.nanos, fallback.nanos]).Pairwise (· ≤ ·)) :
    ((duty.evictStale now fallback).log = lastHour now (recordedTx es) ↔
        duty.Timely now fallback) ∧
      (duty.Timely now fallback → ∀ tAir : Duration,
        ((∃ after, duty.canSend now fallback tAir = some (true, after)) ↔
          ∃ budget, (new limitFraction).budget = some budget ∧
            tAir.nanos + Rolling.weight (airtimes (lastHour now (recordedTx es))) ≤
              budget.nanos) ∧
        ∀ fs other, Lts.Run TimelyCall (.new limitFraction) fs other →
          (clockReadings fs ++ [now.nanos, fallback.nanos]).Pairwise (· ≤ ·) →
          recordedTx fs = recordedTx es →
          other.canSend now fallback tAir = duty.canSend now fallback tAir) := by
  have hduty := remembers_run hrun (List.pairwise_append.mp hclock).1
  have hexact := evictStale_exact_iff hduty hclock
  refine ⟨hexact, fun htimely tAir => ⟨?_, fun fs other hfs hclock' hsame => ?_⟩⟩
  · have hbudget : duty.budget = (new limitFraction).budget := by
      rw [budget, budget, hduty.limit]
      rfl
    rw [canSend_true_iff, hexact.mpr htimely, hbudget]
  · have hother := remembers_run hfs (List.pairwise_append.mp hclock').1
    have htimely' := htimely.of_recorded hduty hclock hother hclock' hsame
    have hlog := (evictStale_exact_iff hother hclock').mpr htimely'
    rw [hsame, ← hexact.mpr htimely] at hlog
    -- the eviction leaves the same log in both, and the limit never changes
    have hlimit : other.limitFraction = duty.limitFraction := hother.limit.trans hduty.limit.symm
    apply canSend_congr
    rw [evictStale, evictStale] at hlog ⊢
    exact congrArg₂ DutyCycle.mk hlimit hlog

/-- Thirty seconds recorded exactly an hour ago leave no room for ten more in a budget of one
    percent. -/
theorem log_forgets_only_stale_sample :
    ¬ ∃ after, @canSend percentArith ((new 0.01).recordTx ⟨1000000000⟩ (.fromSecs 30))
      ⟨3601000000000⟩ ⟨3601000000000⟩ (.fromSecs 10) = some (true, after) := by
  have hcall : @TimelyCall percentArith (new 0.01) (.recordTx ⟨1000000000⟩ (.fromSecs 30))
      ((new 0.01).recordTx ⟨1000000000⟩ (.fromSecs 30)) :=
    ⟨@Call.recordTx percentArith _ _ _, fun _ _ _ _ h => DutyEvent.noConfusion h⟩
  have hlate : ((new 0.01).recordTx ⟨1000000000⟩ (.fromSecs 30)).Timely
      ⟨3601000000000⟩ ⟨3601000000000⟩ := .inl (by decide)
  have hspec := @log_forgets_only_stale _ _ _ ⟨3601000000000⟩ ⟨3601000000000⟩ percentArith
    (.single hcall) (by decide)
  rw [((hspec.2 hlate) (.fromSecs 10)).1]
  rintro ⟨budget, hbudget, hle⟩
  obtain rfl := Option.some.inj (budget_percent.symm.trans hbudget)
  revert hle
  decide +kernel

/-- A question one second after the thirty were recorded, two seconds after the earliest
    instant, drops them: ten more are granted then and when an hour has passed. -/
theorem early_question_forgets : ∃ es duty after,
    @Lts.Run _ _ (@Call percentArith) (new 0.01) es duty ∧
      (clockReadings es ++ [2000000000, 2000000000]).Pairwise (· ≤ ·) ∧
      @canSend percentArith duty ⟨2000000000⟩ ⟨2000000000⟩ (.fromSecs 10) = some (true, after) ∧
      (¬ ∃ budget, @DutyCycle.budget percentArith (new 0.01) = some budget ∧
        (Duration.fromSecs 10).nanos + Rolling.weight (airtimes (lastHour ⟨2000000000⟩
          (recordedTx es))) ≤ budget.nanos) ∧
      ∃ later, @canSend percentArith after ⟨3601000000000⟩ ⟨3601000000000⟩ (.fromSecs 10) =
        some (true, later) := by
  let duty := (new 0.01).recordTx ⟨1000000000⟩ (.fromSecs 30)
  have hrun : @Lts.Run _ _ (@Call percentArith) (new 0.01)
      [.recordTx ⟨1000000000⟩ (.fromSecs 30)] duty := .single (@Call.recordTx percentArith _ _ _)
  -- the cutoff falls back to now, and 30 s of a second ago are gone
  have hnow : ∃ after, @canSend percentArith duty ⟨2000000000⟩ ⟨2000000000⟩ (.fromSecs 10) =
      some (true, after) :=
    (@canSend_true_iff percentArith _ _ _ _).mpr ⟨_, budget_percent, by decide +kernel⟩
  obtain ⟨after, hafter⟩ := hnow
  refine ⟨_, duty, after, hrun, by decide, hafter, ?_, ?_⟩
  · rintro ⟨budget, hbudget, hle⟩
    -- 30 s and 10 s are more than 36 s
    obtain rfl := Option.some.inj (budget_percent.symm.trans hbudget)
    revert hle
    decide +kernel
  · obtain rfl := @canSend_state percentArith _ _ _ _ _ _ hafter
    exact (@canSend_true_iff percentArith _ _ _ _).mpr ⟨_, budget_percent, by decide +kernel⟩

end DutyCycle

end Mesh
