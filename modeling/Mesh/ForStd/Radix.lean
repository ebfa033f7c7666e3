import Mathlib.Data.List.Basic
import Mathlib.Tactic.IntervalCases

/-!
# Reading numbers in a radix

`fromStrRadix` reads an unsigned number as `from_str_radix` does: an optional `+`,
then at least one digit of either case, with every step checked against the bound
of the integer type.

`fromStrRadix_eq_some_iff` says what it accepts: the numerals (`IsNumeral`) of
numbers below the bound, leading zeros included. Those that `Nat.toDigits` writes
are among them (`areDigits_toDigits`).
-/

namespace Radix

/-- The value of a digit (`char::to_digit`). -/
def toDigit (radix : Nat) (c : Char) : Option Nat :=
  let digit :=
    if '0' ≤ c ∧ c ≤ '9' then some (c.toNat - '0'.toNat)
    else if 'a' ≤ c ∧ c ≤ 'z' then some (c.toNat - 'a'.toNat + 10)
    else if 'A' ≤ c ∧ c ≤ 'Z' then some (c.toNat - 'A'.toNat + 10)
    else none
  digit.filter (· < radix)

/-- Read digits on top of what was read, checking for overflow. -/
def readDigits (bound radix : Nat) (acc : Nat) : List Char → Option Nat
  | [] => some acc
  | c :: cs =>
    match toDigit radix c with
    | some d =>
      if acc * radix + d < bound then readDigits bound radix (acc * radix + d) cs else none
    | none => none

/-- Read an unsigned number below `bound`. -/
def fromStrRadix (bound radix : Nat) (src : List Char) : Option Nat :=
  match src with
  | [] => none
  | ['+'] => none
  | ['-'] => none
  | '+' :: digits => readDigits bound radix 0 digits
  | digits => readDigits bound radix 0 digits

/-! ## Numerals -/

/-- The number some digit values stand for, on top of what was read. -/
def value (radix acc : Nat) (ds : List Nat) : Nat := ds.foldl (fun a d => a * radix + d) acc

/-- The value of a numeral is read off digit by digit. -/
theorem value_append (radix acc : Nat) (ds es : List Nat) :
    value radix acc (ds ++ es) = value radix (value radix acc ds) es :=
  List.foldl_append

/-- Further digits never make a value smaller. -/
theorem le_value {radix : Nat} (hradix : 0 < radix) (acc : Nat) (ds : List Nat) :
    acc ≤ value radix acc ds := by
  induction ds generalizing acc with
  | nil => exact Nat.le_refl _
  | cons d ds ih =>
    have hstep : acc ≤ acc * radix + d := by
      have := Nat.le_mul_of_pos_right acc hradix
      omega
    exact Nat.le_trans hstep (ih _)

/-- The characters are digits that stand for `n`. -/
def AreDigits (radix : Nat) (cs : List Char) (n : Nat) : Prop :=
  ∃ ds : List Nat, cs.map (toDigit radix) = ds.map some ∧ value radix 0 ds = n

/-- The characters are a numeral of `n`. -/
def IsNumeral (radix : Nat) (src : List Char) (n : Nat) : Prop :=
  ∃ cs : List Char, (src = cs ∨ src = '+' :: cs) ∧ cs ≠ [] ∧ AreDigits radix cs n

/-- The first of some digits, and the others. -/
theorem map_toDigit_cons {radix : Nat} {c : Char} {cs : List Char} {ds : List Nat}
    (h : (c :: cs).map (toDigit radix) = ds.map some) : ∃ d ds', ds = d :: ds' ∧
      toDigit radix c = some d ∧ cs.map (toDigit radix) = ds'.map some := by
  cases ds with
  | nil => exact absurd h (by simp)
  | cons d ds =>
    rw [List.map_cons, List.map_cons, List.cons.injEq] at h
    exact ⟨d, ds, rfl, h.1, h.2⟩

/-- A sign is no digit. -/
theorem not_areDigits_cons {radix n : Nat} {c : Char} {cs : List Char}
    (hc : toDigit radix c = none) : ¬ AreDigits radix (c :: cs) n := by
  intro h
  obtain ⟨ds, hds, -⟩ := h
  obtain ⟨d, _, -, hd, -⟩ := map_toDigit_cons hds
  simp [hc] at hd

/-- A leading `+` is skipped. -/
theorem isNumeral_plus {radix n : Nat} {cs : List Char} :
    IsNumeral radix ('+' :: cs) n ↔ cs ≠ [] ∧ AreDigits radix cs n := by
  constructor
  · intro h
    obtain ⟨digits, hsrc | hsrc, hne, hdigits⟩ := h
    · exact absurd (hsrc ▸ hdigits) (not_areDigits_cons rfl)
    · obtain rfl := (List.cons.inj hsrc).2
      exact ⟨hne, hdigits⟩
  · intro h
    exact ⟨cs, .inr rfl, h.1, h.2⟩

/-- Without a sign a numeral is its digits. -/
theorem isNumeral_of_ne_plus {radix n : Nat} {src : List Char} (h : ∀ cs, src ≠ '+' :: cs) :
    IsNumeral radix src n ↔ src ≠ [] ∧ AreDigits radix src n := by
  constructor
  · intro hnum
    obtain ⟨digits, hsrc | hsrc, hne, hdigits⟩ := hnum
    · rw [hsrc]
      exact ⟨hne, hdigits⟩
    · exact absurd hsrc (h digits)
  · intro hnum
    exact ⟨src, .inl rfl, hnum.1, hnum.2⟩

/-! ## What is read -/

/-- Digits are read exactly if all are digits of the radix and their value is in bounds. -/
theorem readDigits_eq_some_iff {bound radix : Nat} (hradix : 0 < radix) {acc n : Nat}
    (hacc : acc < bound) {cs : List Char} :
    readDigits bound radix acc cs = some n ↔
      ∃ ds : List Nat, cs.map (toDigit radix) = ds.map some ∧ value radix acc ds = n ∧
        n < bound := by
  induction cs generalizing acc with
  | nil =>
    rw [readDigits, Option.some.injEq]
    constructor
    · intro h
      exact ⟨[], rfl, h, h ▸ hacc⟩
    · intro h
      obtain ⟨ds, hds, hvalue, -⟩ := h
      obtain rfl : ds = [] := List.map_eq_nil_iff.mp hds.symm
      exact hvalue
  | cons c cs ih =>
    rw [readDigits]
    cases hd : toDigit radix c with
    | none =>
      refine iff_of_false (by simp) ?_
      intro h
      obtain ⟨ds, hds, -⟩ := h
      obtain ⟨d, _, -, hsome, -⟩ := map_toDigit_cons hds
      simp [hd] at hsome
    | some d =>
      show (if acc * radix + d < bound then _ else _) = _ ↔ _
      constructor
      · intro h
        split at h
        · rename_i hlt
          obtain ⟨ds, hds, hvalue, hn⟩ := (ih hlt).mp h
          exact ⟨d :: ds, by rw [List.map_cons, List.map_cons, hd, hds], hvalue, hn⟩
        · simp at h
      · intro h
        obtain ⟨_, hmap, hvalue, hn⟩ := h
        obtain ⟨d', ds, rfl, hsome, hds⟩ := map_toDigit_cons hmap
        obtain rfl : d = d' := Option.some.inj (hd.symm.trans hsome)
        -- what is read so far is below the bound, as the number read in the end is
        have hlt : acc * radix + d < bound :=
          Nat.lt_of_le_of_lt (Nat.le_trans (le_value hradix _ ds) (Nat.le_of_eq hvalue)) hn
        rw [if_pos hlt]
        exact (ih hlt).mpr ⟨ds, hds, hvalue, hn⟩

/-- What is read: the numerals of the numbers below the bound. -/
theorem fromStrRadix_eq_some_iff {bound radix : Nat} (hradix : 0 < radix) (hbound : 0 < bound)
    {src : List Char} {n : Nat} :
    fromStrRadix bound radix src = some n ↔ IsNumeral radix src n ∧ n < bound := by
  have hread : ∀ cs : List Char, cs ≠ [] →
      (readDigits bound radix 0 cs = some n ↔ (cs ≠ [] ∧ AreDigits radix cs n) ∧ n < bound) := by
    intro cs hcs
    rw [readDigits_eq_some_iff hradix hbound, and_iff_right hcs]
    constructor
    · intro h
      obtain ⟨ds, hds, hvalue, hn⟩ := h
      exact ⟨⟨ds, hds, hvalue⟩, hn⟩
    · intro h
      obtain ⟨⟨ds, hds, hvalue⟩, hn⟩ := h
      exact ⟨ds, hds, hvalue, hn⟩
  unfold fromStrRadix
  split
  · -- nothing
    rw [isNumeral_of_ne_plus (by simp)]
    simp
  · -- a sign alone
    rw [isNumeral_plus]
    simp
  · have hminus : ¬ AreDigits radix ['-'] n := not_areDigits_cons rfl
    rw [isNumeral_of_ne_plus (by simp)]
    simp [hminus]
  · rename_i digits hsome
    rw [isNumeral_plus]
    exact hread digits fun h => hsome (by rw [h])
  · rename_i hnil _ _ hsign
    rw [isNumeral_of_ne_plus hsign]
    exact hread src hnil

/-! ## Written numbers -/

/-- A digit is read back as what was written. -/
theorem toDigit_digitChar {radix d : Nat} (hd : d < radix) (hradix : radix ≤ 16) :
    toDigit radix d.digitChar = some d := by
  have hsmall : d < 16 := Nat.lt_of_lt_of_le hd hradix
  have hkeep : (some d).filter (fun x => decide (x < radix)) = some d := by simp [hd]
  -- one of sixteen characters
  interval_cases d <;> exact hkeep

/-- Numbers are written in digits. -/
theorem areDigits_toDigits {radix : Nat} (hlow : 1 < radix) (hhigh : radix ≤ 16) (n : Nat) :
    AreDigits radix (Nat.toDigits radix n) n := by
  induction n using Nat.strongRecOn with
  | ind n ih =>
    by_cases hn : n < radix
    · refine ⟨[n], ?_, ?_⟩
      · rw [Nat.toDigits_of_lt_base hn]
        exact congrArg (fun d => [d]) (toDigit_digitChar hn hhigh)
      · simp [value]
    · -- the last digit is the remainder, the others those of the quotient
      have hle : radix ≤ n := Nat.le_of_not_lt hn
      have hdiv : n / radix < n := Nat.div_lt_self (by omega) hlow
      have hmod : n % radix < radix := Nat.mod_lt n (by omega)
      obtain ⟨ds, hds, hvalue⟩ := ih (n / radix) hdiv
      refine ⟨ds ++ [n % radix], ?_, ?_⟩
      · rw [Nat.toDigits_of_base_le hlow hle, List.map_append, hds, List.map_append]
        exact congrArg (fun d => ds.map some ++ [d]) (toDigit_digitChar hmod hhigh)
      · rw [value_append, hvalue]
        exact Nat.div_add_mod' n radix

/-- Leading zeros change nothing. -/
theorem AreDigits.leading_zeros {radix : Nat} (hradix : 0 < radix) {cs : List Char} {n : Nat}
    (h : AreDigits radix cs n) (k : Nat) : AreDigits radix (List.replicate k '0' ++ cs) n := by
  obtain ⟨ds, hds, hvalue⟩ := h
  refine ⟨List.replicate k 0 ++ ds, ?_, ?_⟩
  · have hzero : toDigit radix '0' = some 0 := by
      show (some 0).filter (fun x => decide (x < radix)) = some 0
      simp [hradix]
    rw [List.map_append, List.map_replicate, hzero, hds, List.map_append, List.map_replicate]
  · have hzeros : value radix 0 (List.replicate k 0) = 0 := by
      induction k with
      | zero => rfl
      | succ k ih => rw [List.replicate_succ, value, List.foldl_cons, Nat.zero_mul, ← value, ih]
    rw [value_append, hzeros, hvalue]

end Radix
