import Mathlib.Data.Multiset.Basic
import Mathlib.Logic.Hydra

/-!
# Labelled runs

Runs of a labelled step relation, as the list of their labels, and the two rules
every safety proof over them uses: an invariant of the state, and an invariant
of the state together with the labels that led to it.

`outputs`, `Allowed` and the register rules are for machines that a list of events drives:
what such a machine puts out, whether every event meets a condition on its state, and what
a part of the state holds that only some events write to.

`no_infinite_run` is the termination rule for systems whose steps use up one
item of a multiset of pending work and put back finitely many of lower rank.
-/

namespace Lts

variable {σ ℓ : Type*} {step : σ → ℓ → σ → Prop}

/-- `Run step s es t`: the labels `es` lead from `s` to `t`. -/
inductive Run (step : σ → ℓ → σ → Prop) (s : σ) : List ℓ → σ → Prop
  | nil : Run step s [] s
  | snoc {es : List ℓ} {t u : σ} {e : ℓ} :
      Run step s es t → step t e u → Run step s (es ++ [e]) u

/-- One step is a run. -/
theorem Run.single {s t : σ} {e : ℓ} (h : step s e t) : Run step s [e] t :=
  .snoc .nil h

/-- What holds at the start and is kept by every step holds after every run. -/
theorem Run.invariant {s t : σ} {es : List ℓ} {I : σ → Prop} (h : Run step s es t)
    (hstart : I s) (hstep : ∀ a e b, I a → step a e b → I b) : I t := by
  induction h with
  | nil => exact hstart
  | snoc _ hs ih => exact hstep _ _ _ ih hs

/-- `Run.invariant` with the labels so far in view. -/
theorem Run.history_invariant {s t : σ} {es : List ℓ} {I : List ℓ → σ → Prop}
    (h : Run step s es t) (hstart : I [] s)
    (hstep : ∀ fs a e b, I fs a → step a e b → I (fs ++ [e]) b) : I es t := by
  induction h with
  | nil => exact hstart
  | snoc _ hs ih => exact hstep _ _ _ _ ih hs

/-- A run with labels in less detail. -/
theorem Run.map_label {κ : Type*} {s t : σ} {es : List ℓ} {coarse : σ → κ → σ → Prop}
    {label : ℓ → κ} (h : Run step s es t) (hstep : ∀ a e b, step a e b → coarse a (label e) b) :
    Run coarse s (es.map label) t := by
  induction h with
  | nil => exact .nil
  | snoc _ hs ih =>
    rw [List.map_append]
    exact ih.snoc (hstep _ _ _ hs)

/-- If every step can be labelled in more detail, so can a run. -/
theorem Run.exists_refined {κ : Type*} {s t : σ} {es : List ℓ} {fine : σ → κ → σ → Prop}
    {label : κ → ℓ} (h : Run step s es t)
    (hstep : ∀ a e b, step a e b → ∃ k, label k = e ∧ fine a k b) :
    ∃ ks, ks.map label = es ∧ Run fine s ks t := by
  induction h with
  | nil => exact ⟨[], rfl, .nil⟩
  | snoc _ hs ih =>
    obtain ⟨ks, rfl, hks⟩ := ih
    obtain ⟨k, rfl, hk⟩ := hstep _ _ _ hs
    exact ⟨ks ++ [k], by rw [List.map_append, List.map_singleton], hks.snoc hk⟩

/-- If every step removes one item from the pending work and puts back finitely many
    items of strictly lower rank, there is no infinite sequence of steps. -/
theorem no_infinite_run {α : Type*} {next : σ → σ → Prop} (work : σ → Multiset α)
    (rank : α → Nat)
    (hnext : ∀ s t, next s t → ∃ (rest new : Multiset α) (a : α),
      work s = a ::ₘ rest ∧ work t = rest + new ∧ ∀ b ∈ new, rank b < rank a) :
    ¬ ∃ f : Nat → σ, ∀ n, next (f n) (f (n + 1)) := by
  rintro ⟨f, hf⟩
  have hwf : WellFounded (Relation.CutExpand (InvImage (· < ·) rank)) :=
    (InvImage.wf rank Nat.lt_wfRel.wf).cutExpand
  have hdown : ∀ n, Relation.CutExpand (InvImage (· < ·) rank) (work (f (n + 1))) (work (f n)) := by
    intro n
    obtain ⟨rest, new, a, hs, ht, hlt⟩ := hnext _ _ (hf n)
    refine ⟨new, a, fun b hb => hlt b hb, ?_⟩
    rw [hs, ht, ← Multiset.singleton_add]
    rw [add_comm (rest + new), add_assoc]
  -- a well-founded relation has no infinite descending sequence
  have hno := (wellFounded_iff_isEmpty_descending_chain.mp hwf).false
  exact hno ⟨fun n => work (f n), hdown⟩

/-! ## Machines driven by a list of events -/

section

variable {ε α : Type*} (next : σ → ε → σ)

/-- What a machine puts out along some events. -/
def outputs (out : σ → ε → List α) : σ → List ε → List α
  | _, [] => []
  | s, e :: es => out s e ++ outputs out (next s e) es

/-- Every event finds the machine in a state that allows it. -/
def Allowed (P : σ → ε → Prop) : σ → List ε → Prop
  | _, [] => True
  | s, e :: es => P s e ∧ Allowed P (next s e) es

/-- The last event of a list adds its output in the state the others lead to. -/
theorem outputs_concat (out : σ → ε → List α) (s : σ) (es : List ε) (e : ε) :
    outputs next out s (es ++ [e]) = outputs next out s es ++ out (es.foldl next s) e := by
  induction es generalizing s with
  | nil => simp [outputs]
  | cons f es ih =>
    rw [List.cons_append, outputs, ih, outputs, List.foldl_cons, List.append_assoc]

/-- The last event of a list is allowed in the state the others lead to. -/
theorem allowed_concat {P : σ → ε → Prop} {s : σ} {es : List ε} {e : ε} :
    Allowed next P s (es ++ [e]) ↔ Allowed next P s es ∧ P (es.foldl next s) e := by
  induction es generalizing s with
  | nil => simp [Allowed]
  | cons f es ih => rw [List.cons_append, Allowed, ih, Allowed, List.foldl_cons, and_assoc]

/-- A condition on all outputs is one on what each event puts out. -/
theorem forall_outputs_iff {out : σ → ε → List α} {Q : α → Prop} {s : σ} {es : List ε} :
    (∀ x ∈ outputs next out s es, Q x) ↔ Allowed next (fun s e => ∀ x ∈ out s e, Q x) s es := by
  induction es generalizing s with
  | nil => simp [outputs, Allowed]
  | cons e es ih => rw [outputs, List.forall_mem_append, ih, Allowed]

/-- A property that a step keeps exactly when it meets a condition holds all along a run
    exactly when every step meets the condition. -/
theorem forall_prefix_iff {I : σ → Prop} {P : σ → ε → Prop}
    (hstep : ∀ s e, I s → (I (next s e) ↔ P s e)) {s : σ} {es : List ε} (hs : I s) :
    (∀ fs, fs <+: es → I (fs.foldl next s)) ↔ Allowed next P s es := by
  induction es generalizing s with
  | nil =>
    refine iff_of_true ?_ trivial
    intro fs hfs
    rw [List.prefix_nil.mp hfs]
    exact hs
  | cons e es ih =>
    rw [Allowed, ← hstep s e hs]
    refine ⟨fun h => ?_, fun ⟨hnext, h⟩ fs hfs => ?_⟩
    · -- the first event alone is a prefix, and so is it with every prefix of the rest
      have hnext : I (next s e) := h [e] (by simp)
      have hrest := ih hnext
      exact ⟨hnext, hrest.mp fun fs hfs => h (e :: fs) (by simpa using hfs)⟩
    · -- a prefix is empty or begins with the first event
      cases fs with
      | nil => exact hs
      | cons f fs =>
        obtain ⟨rfl, htail⟩ := List.cons_prefix_cons.mp hfs
        exact (ih hnext).mpr h fs htail

/-- Equivalent conditions allow the same events. -/
theorem allowed_congr {P Q : σ → ε → Prop} (h : ∀ s e, P s e ↔ Q s e) {s : σ} {es : List ε} :
    Allowed next P s es ↔ Allowed next Q s es := by
  induction es generalizing s with
  | nil => rfl
  | cons e es ih => rw [Allowed, Allowed, h, ih]

omit next in
/-- Where an event stands in a list that one more event ends. -/
theorem concat_eq_append_cons_iff {es before after : List ε} {e f : ε} :
    es ++ [e] = before ++ f :: after ↔
      (after = [] ∧ es = before ∧ e = f) ∨ ∃ mid, after = mid ++ [e] ∧ es = before ++ f :: mid := by
  rcases after.eq_nil_or_concat' with rfl | ⟨mid, g, rfl⟩
  · simp [List.append_singleton_inj]
  · have hassoc : before ++ f :: (mid ++ [g]) = (before ++ f :: mid) ++ [g] := by simp
    rw [hassoc, List.append_singleton_inj]
    constructor
    · rintro ⟨hes, rfl⟩
      exact .inr ⟨mid, rfl, hes⟩
    · rintro (⟨hnil, -⟩ | ⟨mid', hmid, hes⟩)
      · simp at hnil
      · obtain ⟨rfl, rfl⟩ := List.append_singleton_inj.mp hmid
        exact ⟨hes, rfl⟩

/-- A register holds what the last event that wrote to it wrote. -/
theorem register_eq_some_iff {β : Type*} (read : σ → Option β) {writes : σ → ε → β → Prop}
    (hwrite : ∀ s e b, writes s e b → read (next s e) = some b)
    (hkeep : ∀ s e, (∀ b, ¬ writes s e b) → read (next s e) = read s)
    {s : σ} (hs : read s = none) {es : List ε} {b : β} :
    read (es.foldl next s) = some b ↔
      ∃ before e after, es = before ++ e :: after ∧ writes (before.foldl next s) e b ∧
        ∀ mid f rest c, after = mid ++ f :: rest →
          ¬ writes ((before ++ e :: mid).foldl next s) f c := by
  induction es using List.reverseRecOn with
  | nil => simp [hs]
  | append_singleton es e ih =>
    rw [List.foldl_append, List.foldl_cons, List.foldl_nil]
    simp only [concat_eq_append_cons_iff]
    by_cases hnow : ∃ c, writes (es.foldl next s) e c
    · obtain ⟨c, hc⟩ := hnow
      rw [hwrite _ _ _ hc, Option.some.injEq]
      constructor
      · rintro rfl
        exact ⟨es, e, [], .inl ⟨rfl, rfl, rfl⟩, hc, by simp⟩
      · rintro ⟨before, f, after, ⟨rfl, rfl, rfl⟩ | ⟨mid, rfl, rfl⟩, hf, hlast⟩
        · rw [← Option.some.injEq, ← hwrite _ _ _ hc, hwrite _ _ _ hf]
        · -- the last event wrote after `f`
          exact absurd hc (hlast mid e [] c rfl)
    · rw [hkeep _ _ (not_exists.mp hnow), ih]
      constructor
      · rintro ⟨before, f, after, rfl, hf, hlast⟩
        refine ⟨before, f, after ++ [e], .inr ⟨after, rfl, rfl⟩, hf, fun mid g rest c hafter => ?_⟩
        rcases concat_eq_append_cons_iff.mp hafter with ⟨rfl, rfl, rfl⟩ | ⟨rest, rfl, hrest⟩
        · exact fun hc => hnow ⟨c, hc⟩
        · exact hlast mid g rest c hrest
      · rintro ⟨before, f, after, ⟨rfl, rfl, rfl⟩ | ⟨after, rfl, rfl⟩, hf, hlast⟩
        · exact absurd ⟨b, hf⟩ hnow
        · refine ⟨before, f, after, rfl, hf, fun mid g rest c hafter => ?_⟩
          exact hlast mid g (rest ++ [e]) c (by simp [hafter])

/-- A register holds something once an event wrote to it. -/
theorem register_isSome_iff {β : Type*} (read : σ → Option β) {writes : σ → ε → β → Prop}
    (hwrite : ∀ s e b, writes s e b → read (next s e) = some b)
    (hkeep : ∀ s e, (∀ b, ¬ writes s e b) → read (next s e) = read s)
    {s : σ} (hs : read s = none) {es : List ε} :
    (read (es.foldl next s)).isSome ↔
      ∃ before e after b, es = before ++ e :: after ∧ writes (before.foldl next s) e b := by
  constructor
  · intro h
    obtain ⟨b, hb⟩ := Option.isSome_iff_exists.mp h
    obtain ⟨before, e, after, hes, he, -⟩ := (register_eq_some_iff next read hwrite hkeep hs).mp hb
    exact ⟨before, e, after, b, hes, he⟩
  · rintro ⟨before, e, after, b, rfl, he⟩
    -- nothing empties the register after `e`
    induction after using List.reverseRecOn with
    | nil => simp [hwrite _ _ _ he]
    | append_singleton after f ih =>
      rw [← List.cons_append, ← List.append_assoc, List.foldl_append, List.foldl_cons,
        List.foldl_nil]
      by_cases hnow : ∃ c, writes ((before ++ e :: after).foldl next s) f c
      · obtain ⟨c, hc⟩ := hnow
        rw [hwrite _ _ _ hc]
        rfl
      · rw [hkeep _ _ (not_exists.mp hnow)]
        exact ih

end

end Lts
