import Mathlib.Data.List.DropRight
import Mathlib.Data.Finset.Card
import Mathlib.Data.Finset.Dedup

/-!
# A bounded first-in first-out set

`insert` keeps a list of distinct elements of length at most `cap`: an element
already present changes nothing, a new one goes to the back and pushes the front
out when the list is full. `accepted` is the unbounded ledger behind it, all
elements that were new when they came; the list is always its last `cap` entries
(`foldl_insert_eq_rtake`).

`push` is the same without a look at what is there (`foldl_push_rtake`).
-/

namespace Fifo

variable {α : Type*} [DecidableEq α]

/-- Insert into a list of at most `cap` distinct elements. -/
def insert (cap : Nat) (a : α) (xs : List α) : List α :=
  if a ∈ xs then xs else (if xs.length = cap then xs.tail else xs) ++ [a]

/-- The ledger after one more element: appended unless it is among the last `cap`. -/
def accept (cap : Nat) (h : List α) (a : α) : List α :=
  if a ∈ h.rtake cap then h else h ++ [a]

/-- All elements of `as` that were new when they came. -/
def accepted (cap : Nat) (as : List α) : List α := as.foldl (accept cap) []

theorem insert_of_mem {cap : Nat} {a : α} {xs : List α} (h : a ∈ xs) :
    insert cap a xs = xs := if_pos h

theorem insert_of_not_mem {cap : Nat} {a : α} {xs : List α} (h : a ∉ xs) :
    insert cap a xs = (if xs.length = cap then xs.tail else xs) ++ [a] := if_neg h

/-- What was inserted is present. -/
theorem mem_insert_self (cap : Nat) (a : α) (xs : List α) : a ∈ insert cap a xs := by
  unfold insert
  split <;> simp_all

/-- The list never outgrows its capacity. -/
theorem length_insert_le {cap : Nat} (hcap : 0 < cap) (a : α) {xs : List α}
    (h : xs.length ≤ cap) : (insert cap a xs).length ≤ cap := by
  unfold insert
  split
  · exact h
  · split <;> simp <;> omega

/-- No element is there twice. -/
theorem nodup_insert (cap : Nat) (a : α) {xs : List α} (h : xs.Nodup) :
    (insert cap a xs).Nodup := by
  unfold insert
  split
  · exact h
  · rename_i ha
    -- appending a new element, whether or not the front was pushed out
    have key : ∀ ys : List α, ys.Nodup → a ∉ ys → (ys ++ [a]).Nodup := by
      intro ys hys hmem
      rw [List.nodup_append]
      refine ⟨hys, List.nodup_singleton a, fun b hb c hc => ?_⟩
      rw [List.mem_singleton.mp hc]
      exact fun hba => hmem (hba ▸ hb)
    split
    · exact key _ h.tail (fun hmem => ha (List.mem_of_mem_tail hmem))
    · exact key _ h ha

/-! ## The ledger -/

/-- One insertion into the last `cap` entries of the ledger. -/
theorem insert_rtake {cap : Nat} (hcap : 0 < cap) (h : List α) (a : α) :
    insert cap a (h.rtake cap) = (accept cap h a).rtake cap := by
  unfold insert accept
  split
  · rfl
  · have hlen : (h.rtake cap).length = min cap h.length := by
      simp only [List.rtake, List.length_drop]; omega
    rw [hlen, List.rtake, List.rtake, List.length_append, List.length_singleton]
    split
    · -- full: dropping one more than before
      rename_i hfull
      rw [← List.drop_one, List.drop_drop, ← List.drop_append_of_le_length (by omega)]
      congr 1
      omega
    · rename_i hfull
      have h0 : h.length - cap = 0 := by omega
      have h1 : h.length + 1 - cap = 0 := by omega
      rw [h0, h1]
      rfl

/-- The bounded list is the last `cap` entries of the ledger. -/
theorem foldl_insert_rtake {cap : Nat} (hcap : 0 < cap) (h as : List α) :
    as.foldl (fun xs a => insert cap a xs) (h.rtake cap) =
      (as.foldl (accept cap) h).rtake cap := by
  induction as generalizing h with
  | nil => rfl
  | cons a as ih => rw [List.foldl_cons, List.foldl_cons, insert_rtake hcap, ih]

/-- From empty, the bounded list is the last `cap` entries of `accepted`. -/
theorem foldl_insert_eq_rtake {cap : Nat} (hcap : 0 < cap) (as : List α) :
    as.foldl (fun xs a => insert cap a xs) [] = (accepted cap as).rtake cap := by
  have h := foldl_insert_rtake hcap ([] : List α) as
  rwa [List.rtake_nil] at h

/-! ## How long an element stays -/

/-- If `k` and then `l` are the newest entries, inserting `a` leaves `k` in place
    as long as `l` with `a` added stays shorter than `cap`. -/
theorem suffix_insert {cap : Nat} {k a : α} {l xs : List α} (hcap : xs.length ≤ cap)
    (hsuf : k :: l <:+ xs) (ha : a ∉ xs) (hlen : l.length + 1 < cap) :
    k :: (l ++ [a]) <:+ insert cap a xs := by
  obtain ⟨pre, rfl⟩ := hsuf
  rw [insert_of_not_mem ha]
  split
  · -- full, so something older than `k` is pushed out
    rename_i hfull
    cases pre with
    | nil => simp at hfull; omega
    | cons p pre => exact ⟨pre, by simp⟩
  · exact ⟨pre, by simp⟩

/-! ## Without a look at what is there -/

omit [DecidableEq α]

/-- Append, and push the front out of a list that has grown longer than `cap`. -/
def push (cap : Nat) (xs : List α) (a : α) : List α :=
  if (xs ++ [a]).length > cap then (xs ++ [a]).tail else xs ++ [a]

/-- What is in the list was there or was pushed. -/
theorem mem_of_mem_foldl_push {cap : Nat} {a : α} {xs as : List α}
    (h : a ∈ as.foldl (push cap) xs) : a ∈ xs ∨ a ∈ as := by
  induction as generalizing xs with
  | nil => exact .inl h
  | cons b as ih =>
    rcases ih h with hmem | hmem
    · have hpush : a ∈ xs ++ [b] := by
        unfold push at hmem
        split at hmem
        · exact List.mem_of_mem_tail hmem
        · exact hmem
      rcases List.mem_append.mp hpush with hold | hnew
      · exact .inl hold
      · exact .inr (List.mem_singleton.mp hnew ▸ List.mem_cons_self)
    · exact .inr (List.mem_cons_of_mem _ hmem)

/-- The newest elements of a history, one element later. -/
theorem push_rtake (cap : Nat) (h : List α) (a : α) :
    push cap (h.rtake cap) a = (h ++ [a]).rtake cap := by
  have hlen : (h.rtake cap ++ [a]).length = min cap h.length + 1 := by
    simp only [List.rtake, List.length_append, List.length_drop, List.length_singleton]
    omega
  rw [push, hlen, List.rtake, List.rtake, List.length_append, List.length_singleton]
  split
  · -- full: dropping one more than before
    rename_i hfull
    rw [← List.drop_one, ← List.drop_append_of_le_length (by omega), List.drop_drop]
    congr 1
    omega
  · rename_i hfull
    have h0 : h.length - cap = 0 := by omega
    have h1 : h.length + 1 - cap = 0 := by omega
    rw [h0, h1]
    rfl

/-- The list is the last `cap` elements that ever were pushed. -/
theorem foldl_push_rtake (cap : Nat) (h as : List α) :
    as.foldl (push cap) (h.rtake cap) = (h ++ as).rtake cap := by
  induction as generalizing h with
  | nil => rw [List.foldl_nil, List.append_nil]
  | cons a as ih => rw [List.foldl_cons, push_rtake, ih, List.append_assoc, List.singleton_append]

end Fifo
