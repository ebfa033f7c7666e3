import Mathlib.Data.List.Basic

/-!
# Splitting a list at a pattern

`pieces pat s` are the parts of `s` between the occurrences of `pat`, which are
found from the left and do not overlap (`str::split` on characters).

An element that does not occur in the pattern separates the two sides of a list:
the pieces of the whole are those of the sides, the last of the one joined to the
first of the other (`pieces_append_cons`).
-/

namespace Split

variable {α : Type*} [DecidableEq α]

/-- The pieces of a list, the first `skip` elements of which belong to the occurrence
    that ended the piece before. -/
def piecesFrom (pat : List α) : Nat → List α → List (List α)
  | _, [] => [[]]
  | skip + 1, _ :: s => piecesFrom pat skip s
  | 0, c :: s =>
    if pat.isPrefixOf (c :: s) then [] :: piecesFrom pat (pat.length - 1) s
    else (piecesFrom pat 0 s).modifyHead (c :: ·)

/-- The parts of a list between the occurrences of a pattern. -/
def pieces (pat s : List α) : List (List α) := piecesFrom pat 0 s

/-- Skipped elements do not matter to the pieces. -/
theorem piecesFrom_eq_pieces_drop (pat : List α) (skip : Nat) (s : List α) :
    piecesFrom pat skip s = pieces pat (s.drop skip) := by
  induction s generalizing skip with
  | nil => cases skip <;> rfl
  | cons c s ih =>
    cases skip with
    | zero => rfl
    | succ skip => exact ih skip

/-- An occurrence at the front ends an empty piece. -/
theorem pieces_append_self {pat : List α} (hpat : pat ≠ []) (t : List α) :
    pieces pat (pat ++ t) = [] :: pieces pat t := by
  obtain ⟨c, rest, rfl⟩ := List.exists_cons_of_ne_nil hpat
  have hfront : (c :: rest).isPrefixOf (c :: (rest ++ t)) = true := by
    rw [List.isPrefixOf_iff_prefix]
    exact List.prefix_append (c :: rest) t
  rw [pieces, List.cons_append, piecesFrom, if_pos hfront, piecesFrom_eq_pieces_drop]
  simp

/-- There is always a last piece. -/
theorem piecesFrom_ne_nil (pat : List α) (skip : Nat) (s : List α) :
    piecesFrom pat skip s ≠ [] := by
  induction s generalizing skip with
  | nil => cases skip <;> simp [piecesFrom]
  | cons c s ih =>
    cases skip with
    | zero =>
      rw [piecesFrom]
      split
      · simp
      · cases h : piecesFrom pat 0 s with
        | nil => exact absurd h (ih 0)
        | cons p ps => simp
    | succ skip => exact ih skip

/-- There is always a piece, if only an empty one. -/
theorem pieces_ne_nil (pat s : List α) : pieces pat s ≠ [] := piecesFrom_ne_nil pat 0 s

/-- A list without the pattern is a single piece. -/
theorem pieces_of_not_infix {pat s : List α} (h : ¬ pat <:+: s) : pieces pat s = [s] := by
  induction s with
  | nil => rfl
  | cons c s ih =>
    have hfront : pat.isPrefixOf (c :: s) = false := by
      rw [← Bool.not_eq_true, List.isPrefixOf_iff_prefix]
      exact fun hpre => h hpre.isInfix
    -- neither at the front nor further on
    have hrest : ¬ pat <:+: s := fun hin => h (hin.trans (List.suffix_cons c s).isInfix)
    have hs : piecesFrom pat 0 s = [s] := ih hrest
    rw [pieces, piecesFrom, hfront, hs]
    rfl

/-- A list with the pattern has several pieces. -/
theorem one_lt_length_pieces {pat s : List α} (h : pat <:+: s) (hpat : pat ≠ []) :
    1 < (pieces pat s).length := by
  induction s with
  | nil => exact absurd (List.eq_nil_of_infix_nil h) hpat
  | cons c s ih =>
    rw [pieces, piecesFrom]
    split
    · rw [piecesFrom_eq_pieces_drop, List.length_cons]
      have := List.length_pos_of_ne_nil (pieces_ne_nil pat (s.drop (pat.length - 1)))
      omega
    · rename_i hfront
      rw [List.length_modifyHead]
      rcases List.infix_cons_iff.mp h with hpre | hin
      · exact absurd (List.isPrefixOf_iff_prefix.mpr hpre) hfront
      · exact ih hin

/-- The pieces of two lists with an element between them. -/
def join (c : α) : List (List α) → List (List α) → List (List α)
  | [], qs => qs
  | [p], qs => qs.modifyHead (p ++ c :: ·)
  | p :: p' :: ps, qs => p :: join c (p' :: ps) qs

omit [DecidableEq α] in
/-- An element before the first piece comes before the joined list. -/
theorem join_modifyHead_cons (c d : α) {ps : List (List α)} (hps : ps ≠ [])
    (qs : List (List α)) :
    join c (ps.modifyHead (d :: ·)) qs = (join c ps qs).modifyHead (d :: ·) := by
  match ps, hps with
  | [p], _ => cases qs <;> rfl
  | p :: p' :: ps, _ => rfl

/-- A prefix of a list reaches past an element that it does not contain only if it fits
    in front of it. -/
theorem isPrefixOf_append_cons {pat : List α} {c : α} (hc : c ∉ pat) (s t : List α) :
    pat.isPrefixOf (s ++ c :: t) = pat.isPrefixOf s := by
  induction pat generalizing s with
  | nil => cases s <;> rfl
  | cons d pat ih =>
    rw [List.mem_cons, not_or] at hc
    cases s with
    | nil =>
      have hne : (d == c) = false := beq_eq_false_iff_ne.mpr (Ne.symm hc.1)
      simp [List.isPrefixOf, hne]
    | cons e s => simp [List.isPrefixOf, ih hc.2]

/-- An occurrence that began before `s` ends within it, and none reaches past the element. -/
theorem piecesFrom_append_cons {pat : List α} (hpat : pat ≠ []) {c : α} (hc : c ∉ pat)
    {skip : Nat} {s : List α} (hskip : skip ≤ s.length) (t : List α) :
    piecesFrom pat skip (s ++ c :: t) = join c (piecesFrom pat skip s) (pieces pat t) := by
  induction s generalizing skip with
  | nil =>
    obtain rfl : skip = 0 := Nat.le_zero.mp hskip
    have hfront : pat.isPrefixOf (c :: t) = false := by
      have hnil : pat.isPrefixOf (c :: t) = pat.isPrefixOf [] := isPrefixOf_append_cons hc [] t
      rw [hnil, ← Bool.not_eq_true, List.isPrefixOf_iff_prefix]
      exact fun h => hpat (List.prefix_nil.mp h)
    show (if pat.isPrefixOf (c :: t) then _ else _) = join c [[]] (pieces pat t)
    rw [hfront]
    rfl
  | cons d s ih =>
    cases skip with
    | zero =>
      rw [List.cons_append, piecesFrom, piecesFrom, ← List.cons_append,
        isPrefixOf_append_cons hc]
      split
      · rename_i hfront
        have hlen : pat.length ≤ (d :: s).length :=
          (List.isPrefixOf_iff_prefix.mp hfront).length_le
        rw [List.length_cons] at hlen
        -- the occurrence ends before the element
        have hrest : pat.length - 1 ≤ s.length := by omega
        obtain ⟨p, ps, hps⟩ :=
          List.exists_cons_of_ne_nil (piecesFrom_ne_nil pat (pat.length - 1) s)
        rw [ih hrest, hps]
        rfl
      · rw [ih (Nat.zero_le _), join_modifyHead_cons c d (piecesFrom_ne_nil pat 0 s)]
    | succ skip => exact ih (Nat.le_of_succ_le_succ hskip)

/-- An element that does not occur in the pattern separates the pieces on its sides. -/
theorem pieces_append_cons {pat : List α} (hpat : pat ≠ []) {c : α} (hc : c ∉ pat)
    (s t : List α) : pieces pat (s ++ c :: t) = join c (pieces pat s) (pieces pat t) :=
  piecesFrom_append_cons hpat hc (Nat.zero_le _) t

end Split
