import Mathlib.Combinatorics.SimpleGraph.Metric

/-!
# Breadth-first flooding of a graph

The flood from `o` in rounds, in its own terms: a round reaches the vertices not
reached before that have a neighbour reached in the previous round. Round `r`
reaches exactly the vertices at distance `r` (`frontier_eq_sphere`).
-/

namespace SimpleGraph

variable {V : Type*} (G : SimpleGraph V) (o : V)

/-- The vertices at distance `r` from `o`, in the component of `o`. -/
def sphere (r : Nat) : Set V := {v | G.Reachable o v ∧ G.dist o v = r}

/-- The vertices first reached in round `r` of the flood from `o`. -/
def frontier : Nat → Set V
  | 0 => {o}
  | r + 1 => {v | (∃ u ∈ frontier r, G.Adj u v) ∧ ∀ q ≤ r, v ∉ frontier q}

variable {G o}

@[simp] theorem mem_sphere {r : Nat} {v : V} :
    v ∈ G.sphere o r ↔ G.Reachable o v ∧ G.dist o v = r := Iff.rfl

/-- The flood begins at the origin. -/
theorem mem_frontier_zero {v : V} : v ∈ G.frontier o 0 ↔ v = o := by
  rw [frontier, Set.mem_singleton_iff]

/-- A round reaches the neighbours of the last frontier that no round has reached. -/
theorem mem_frontier_succ {r : Nat} {v : V} :
    v ∈ G.frontier o (r + 1) ↔
      (∃ u ∈ G.frontier o r, G.Adj u v) ∧ ∀ q ≤ r, v ∉ G.frontier o q := by
  rw [frontier, Set.mem_ofPred_eq]

/-- Only the origin is at distance zero. -/
theorem mem_sphere_zero {v : V} : v ∈ G.sphere o 0 ↔ v = o := by
  constructor
  · rintro ⟨hr, hd⟩
    exact ((hr.dist_eq_zero_iff).mp hd).symm
  · rintro rfl
    exact ⟨Reachable.refl v, dist_self⟩

/-- A vertex lies on one sphere at most. -/
theorem sphere_unique {r q : Nat} {v : V} (h : v ∈ G.sphere o r) (h' : v ∈ G.sphere o q) :
    r = q := h.2.symm.trans h'.2

/-- Distances of neighbours differ by at most one. -/
theorem adj_sphere {r : Nat} {u v : V} (hu : u ∈ G.sphere o r) (hadj : G.Adj u v) :
    ∃ q, v ∈ G.sphere o q ∧ q ≤ r + 1 ∧ r ≤ q + 1 := by
  obtain ⟨hreach, hdist⟩ := hu
  have hreach' : G.Reachable o v := hreach.trans hadj.reachable
  refine ⟨G.dist o v, ⟨hreach', rfl⟩, ?_, ?_⟩
  · obtain ⟨w, hw⟩ := hreach.exists_walk_length_eq_dist
    have hle := G.dist_le (w.concat hadj)
    rw [Walk.length_concat, hw] at hle
    omega
  · obtain ⟨w, hw⟩ := hreach'.exists_walk_length_eq_dist
    have hle := G.dist_le (w.concat hadj.symm)
    rw [Walk.length_concat, hw] at hle
    omega

/-- Every vertex of sphere `r + 1` has a neighbour on sphere `r`. -/
theorem exists_adj_of_mem_sphere_succ {r : Nat} {v : V} (hv : v ∈ G.sphere o (r + 1)) :
    ∃ u ∈ G.sphere o r, G.Adj u v := by
  obtain ⟨hreach, hdist⟩ := hv
  -- the second vertex of a shortest walk back
  obtain ⟨w, hw⟩ := hreach.symm.exists_walk_length_eq_dist
  rw [dist_comm, hdist] at hw
  cases w with
  | nil => simp at hw
  | @cons _ u _ hadj p =>
    have hlen : p.length = r := by simpa using hw
    have hup : G.Reachable o u := p.reachable.symm
    refine ⟨u, ⟨hup, ?_⟩, hadj.symm⟩
    have hle : G.dist o u ≤ r := by
      rw [dist_comm, ← hlen]
      exact G.dist_le p
    obtain ⟨q, hq, hq1, -⟩ := adj_sphere (o := o) ⟨hup, rfl⟩ hadj.symm
    rw [← hq.2, hdist] at hq1
    omega

/-- Round `r` of the flood reaches the vertices at distance `r`. -/
theorem frontier_eq_sphere (r : Nat) : G.frontier o r = G.sphere o r := by
  induction r using Nat.strong_induction_on with
  | _ r ih =>
    cases r with
    | zero =>
      ext v
      rw [mem_sphere_zero, mem_frontier_zero]
    | succ r =>
      ext v
      rw [mem_frontier_succ]
      constructor
      · rintro ⟨⟨u, hu, hadj⟩, hnew⟩
        rw [ih r (by omega)] at hu
        obtain ⟨q, hq, hq1, -⟩ := adj_sphere hu hadj
        -- not on an earlier sphere, so on the next one
        have hqr : ¬ q ≤ r := fun hle => hnew q hle (by rwa [ih q (by omega)])
        have : q = r + 1 := by omega
        rwa [this] at hq
      · intro hv
        obtain ⟨u, hu, hadj⟩ := exists_adj_of_mem_sphere_succ hv
        refine ⟨⟨u, by rwa [ih r (by omega)], hadj⟩, fun q hq hmem => ?_⟩
        rw [ih q (by omega)] at hmem
        have := sphere_unique hv hmem
        omega

end SimpleGraph
