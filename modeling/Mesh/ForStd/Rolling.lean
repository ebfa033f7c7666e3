import Mathlib.Algebra.Order.BigOperators.Group.List
import Mathlib.Algebra.Order.Monoid.Canonical.Defs

/-!
# Rolling budgets

Entries carry a timestamp and a weight, in order of their timestamps. If each of
them, when it was added, fitted into the budget together with everything logged
since some instant at least one window before it, then every window, wherever it
starts, is within the budget.

`evict_eq_newer` is for logs that forget their oldest entries: dropping from the
front what is older than an instant drops all that is older.
-/

namespace Rolling

variable {τ ω : Type*}

section

variable [LinearOrder τ]

/-- What an ordered log keeps when its front older than `since` is dropped. -/
def evict (since : τ) (log : List (τ × ω)) : List (τ × ω) :=
  log.dropWhile fun x => decide (x.1 < since)

/-- The entries from an instant on. -/
def newer (since : τ) (log : List (τ × ω)) : List (τ × ω) :=
  log.filter fun x => decide (since ≤ x.1)

/-- In an ordered log, eviction keeps exactly what is newer. -/
theorem evict_eq_newer {since : τ} {log : List (τ × ω)}
    (h : log.Pairwise fun x y => x.1 ≤ y.1) : evict since log = newer since log := by
  induction log with
  | nil => rfl
  | cons x log ih =>
    obtain ⟨hx, hlog⟩ := List.pairwise_cons.mp h
    by_cases hlt : x.1 < since
    · rw [evict, List.dropWhile_cons_of_pos (by simpa using hlt), ← evict, ih hlog, newer, newer,
        List.filter_cons_of_neg (by simpa using hlt)]
    · -- nothing behind an entry that stays is older
      have hall : ∀ y ∈ x :: log, decide (since ≤ y.1) = true := by
        intro y hy
        rw [decide_eq_true_eq]
        rcases List.mem_cons.mp hy with rfl | hy
        · exact not_lt.mp hlt
        · exact (not_lt.mp hlt).trans (hx y hy)
      rw [evict, List.dropWhile_cons_of_neg (by simpa using hlt), newer,
        List.filter_eq_self.mpr hall]

/-- Eviction keeps an ordered log whole exactly when nothing in it is older. -/
theorem evict_eq_self_iff {since : τ} {log : List (τ × ω)}
    (h : log.Pairwise fun x y => x.1 ≤ y.1) :
    evict since log = log ↔ ∀ x ∈ log, since ≤ x.1 := by
  simp only [evict_eq_newer h, newer, List.filter_eq_self, decide_eq_true_eq]

/-- Of two cutoffs the later one decides. -/
theorem newer_newer {a b : τ} (h : a ≤ b) (log : List (τ × ω)) :
    newer b (newer a log) = newer b log := by
  rw [newer, newer, List.filter_filter]
  apply List.filter_congr
  intro x _
  simpa using fun hb => h.trans hb

/-- A log that was evicted before is evicted as if it had never been. -/
theorem evict_newer {a b : τ} {log : List (τ × ω)} (h : log.Pairwise fun x y => x.1 ≤ y.1)
    (hle : a ≤ b) : evict b (newer a log) = newer b log := by
  have hkept : (newer a log).Pairwise fun x y => x.1 ≤ y.1 := h.filter _
  rw [evict_eq_newer hkept, newer_newer hle]

end

variable [AddCommMonoid ω] [PartialOrder ω] [IsOrderedAddMonoid ω] [CanonicallyOrderedAdd ω]

/-- The weight of a log. -/
def weight (log : List (τ × ω)) : ω := (log.map Prod.snd).sum

/-- A part of a log weighs no more than all of it. -/
theorem weight_mono {xs ys : List (τ × ω)} (h : xs.Sublist ys) : weight xs ≤ weight ys :=
  (h.map Prod.snd).sum_le_sum fun _ _ => zero_le

variable [AddCommMonoid τ] [LinearOrder τ] [IsOrderedCancelAddMonoid τ]

/-- The weight of the entries in a closed interval. -/
def load (a b : τ) (log : List (τ × ω)) : ω :=
  weight (log.filter fun x => decide (a ≤ x.1 ∧ x.1 ≤ b))

/-- Every entry fitted with all that was logged since some instant at least one window before
    it. -/
inductive Admitted (window : τ) (budget : ω) : List (τ × ω) → Prop
  | nil : Admitted window budget []
  | snoc {log : List (τ × ω)} {t since : τ} {w : ω} : Admitted window budget log →
      since + window ≤ t → weight (newer since log) + w ≤ budget →
      Admitted window budget (log ++ [(t, w)])

/-- No window holds more than the budget. -/
theorem load_le {window : τ} {budget : ω} {log : List (τ × ω)}
    (h : Admitted window budget log) (a : τ) : load a (a + window) log ≤ budget := by
  induction h with
  | nil => exact zero_le
  | @snoc log t since w _ hsince hfits ih =>
    rw [load, List.filter_append]
    by_cases hin : a ≤ t ∧ t ≤ a + window
    · -- all of the window before the last entry was logged since `since`
      have hle : since ≤ a := le_of_add_le_add_right (hsince.trans hin.2)
      have hsub : (log.filter fun x => decide (a ≤ x.1 ∧ x.1 ≤ a + window)).Sublist
          (newer since log) := by
        apply List.monotone_filter_right
        intro x hx
        rw [decide_eq_true_eq] at hx ⊢
        exact hle.trans hx.1
      have hlast : ([(t, w)].filter fun x => decide (a ≤ x.1 ∧ x.1 ≤ a + window)) = [(t, w)] :=
        List.filter_cons_of_pos (by simpa using hin)
      -- the last entry fitted together with those
      rw [hlast, weight, List.map_append, List.sum_append, ← weight]
      calc weight (log.filter fun x => decide (a ≤ x.1 ∧ x.1 ≤ a + window)) + _
          ≤ weight (newer since log) + w := by
            simpa using add_le_add_left (weight_mono hsub) w
        _ ≤ budget := hfits
    · have hlast : ([(t, w)].filter fun x => decide (a ≤ x.1 ∧ x.1 ≤ a + window)) = [] :=
        List.filter_cons_of_neg (by simpa using hin)
      -- an entry outside the window adds nothing
      rw [hlast, List.append_nil]
      exact ih

end Rolling
