import Mathlib.Algebra.Ring.Nat

/-!
# Pacing by a deadline

A pacer counts upwards. In a round it acts if it is enabled and its count has reached the
deadline, and the action moves the deadline one interval ahead. The interval is read anew
in every round: one that differs from the last pulls a deadline in that lies more than
this interval ahead, and never puts one off.

Intervals are told apart as settings; `span` is what a setting amounts to.
-/

universe u

/-- The count, the deadline, and the setting read last. -/
structure Pacer (ι : Type u) where
  count : Nat
  due : Nat
  interval : ι

/-- A round: the setting it reads, whether it may act, and how far it counts. -/
structure Pacer.Round (ι : Type u) where
  interval : ι
  enabled : Bool
  advance : Nat

namespace Pacer

variable {ι : Type u} [DecidableEq ι] (span : ι → Nat)

/-- Read a setting. -/
def retime (p : Pacer ι) (i : ι) : Pacer ι :=
  if i = p.interval then p else { p with due := min p.due (p.count + span i), interval := i }

/-- The pacer acts in the round. -/
def Acts (p : Pacer ι) (r : Round ι) : Prop :=
  r.enabled = true ∧ (p.retime span r.interval).due ≤ p.count

instance (p : Pacer ι) (r : Round ι) : Decidable (p.Acts span r) :=
  inferInstanceAs (Decidable (_ ∧ _))

/-- Take a round. -/
def round (p : Pacer ι) (r : Round ι) : Pacer ι where
  count := p.count + r.advance
  due := if p.Acts span r then p.count + span r.interval else (p.retime span r.interval).due
  interval := r.interval

/-! ## No deadline is far ahead -/

/-- The deadline is the first one, or at most one interval ahead. -/
def Within (first : Nat) (p : Pacer ι) : Prop :=
  p.due ≤ max first (p.count + span p.interval)

variable {span} {p : Pacer ι} {r : Round ι} {first : Nat}

/-- Whatever setting is read, the deadline is the first one or at most one interval ahead. -/
theorem Within.retime (h : Within span first p) (i : ι) :
    Within span first (p.retime span i) := by
  unfold Pacer.retime
  split
  · exact h
  · show min p.due (p.count + span i) ≤ max first (p.count + span i)
    omega

/-- The setting that was read last changes nothing. -/
theorem retime_of_eq {i : ι} (h : i = p.interval) : p.retime span i = p := if_pos h

/-- Another setting pulls a deadline in that lies more than its interval ahead. -/
theorem retime_of_ne {i : ι} (h : i ≠ p.interval) : p.retime span i =
    { count := p.count, due := min p.due (p.count + span i), interval := i } := if_neg h

/-- The setting is remembered. -/
theorem interval_retime (p : Pacer ι) (i : ι) : (p.retime span i).interval = i := by
  unfold retime
  split
  · rename_i hsame
    exact hsame.symm
  · rfl

/-- Reading a setting does not count. -/
theorem count_retime (p : Pacer ι) (i : ι) : (p.retime span i).count = p.count := by
  unfold retime
  split <;> rfl

/-- A round ends with the first deadline or one that is at most one interval ahead. -/
theorem Within.round (h : Within span first p) (r : Round ι) :
    Within span first (p.round span r) := by
  -- acting puts the deadline exactly one interval ahead, and the count only rises
  have hread := h.retime r.interval
  rw [Within, interval_retime, count_retime] at hread
  rw [Within, Pacer.round]
  dsimp only
  split
  · omega
  · omega

/-! ## Actions are apart -/

/-- The pacer acted at `start`, and all it read since amounts to `low` or more. -/
structure Spaced (start low : Nat) (p : Pacer ι) : Prop where
  due : start + low ≤ p.due
  count : start ≤ p.count

variable {start low : Nat}

/-- A setting that amounts to `low` or more does not pull the deadline in before
    `start + low`. -/
theorem Spaced.retime (h : Spaced start low p) {i : ι} (hlow : low ≤ span i) :
    Spaced start low (p.retime span i) := by
  obtain ⟨hdue, hcount⟩ := h
  unfold Pacer.retime
  split
  · exact ⟨hdue, hcount⟩
  · -- the new deadline is an interval ahead of a count past `start`
    refine ⟨?_, hcount⟩
    show start + low ≤ min p.due (p.count + span i)
    omega

/-- An action puts the next deadline at least `low` ahead. -/
theorem spaced_of_acts (h : p.Acts span r) (hlow : low ≤ span r.interval) :
    Spaced p.count low (p.round span r) := by
  refine ⟨?_, Nat.le_add_right _ _⟩
  show p.count + low ≤ if p.Acts span r then _ else _
  rw [if_pos h]
  omega

/-- Whether it acts or not, a round leaves the deadline at least `low` past `start`. -/
theorem Spaced.round (h : Spaced start low p) (hlow : low ≤ span r.interval) :
    Spaced start low (p.round span r) := by
  -- a new deadline is counted from here, an old one was far enough
  have hdue := (h.retime hlow).due
  have hcount := h.count
  constructor
  · show start + low ≤ if p.Acts span r then _ else _
    split
    · omega
    · exact hdue
  · show start ≤ p.count + r.advance
    omega

/-- The next action is `low` or more after the one at `start`. -/
theorem Spaced.le_count (h : Spaced start low p) (hlow : low ≤ span r.interval)
    (hacts : p.Acts span r) : start + low ≤ p.count :=
  Nat.le_trans (h.retime hlow).due hacts.2

end Pacer
