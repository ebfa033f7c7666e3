import Mathlib.Data.List.Basic

/-!
# First-in first-out links

A link hands on items in the order they were sent: those that arrived, then those
underway. `Link` is this law as a relation of three lists, with one rule for a move of
items and one for two links in a row.
-/

variable {α β : Type*}

/-- What was sent has arrived in order, but for what is underway. -/
def Link (sent underway arrived : List α) : Prop := sent = arrived ++ underway

namespace Link

variable {s u m v a : List α}

theorem idle : Link ([] : List α) [] [] := rfl

/-- What is underway, and what is sent now, arrives now or is underway still. -/
theorem move {s' a' : List α} (h : Link s u a) (hflow : u ++ s' = a' ++ v) :
    Link (s ++ s') v (a ++ a') := by
  rw [Link, h, List.append_assoc, hflow, List.append_assoc]

/-- What is sent joins what is underway. -/
theorem send (h : Link s u a) (xs : List α) : Link (s ++ xs) (u ++ xs) a := by
  rw [Link, h, List.append_assoc]

/-- What comes out of one link goes into the next. -/
theorem trans (h : Link s u m) (h' : Link m v a) : Link s (v ++ u) a := by
  rw [Link, h, h', List.append_assoc]

/-- A part of what is sent is on a link of its own. -/
theorem filterMap (f : α → Option β) (h : Link s u a) :
    Link (s.filterMap f) (u.filterMap f) (a.filterMap f) := by
  rw [Link, h, List.filterMap_append]

end Link
