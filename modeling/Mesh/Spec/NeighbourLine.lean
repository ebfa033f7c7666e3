import Mesh.Native.Radio
import Mesh.Native.View

/-!
# The neighbour list between the loop and the view

The loop publishes a neighbour as one line, its short name in front of its id; the
view reads the id back out of the line when an entry is chosen. The name is not
escaped, so the delimiter of the id may also stand in the name.

## Key results

- `pieces_neighbourLine`: where the line is cut
- `neighbour_line_faithful_iff`: the entries that lead to their own node
- `names_lead_astray`: an entry that cannot be chosen, and one for another node
-/

namespace Mesh

/-- What the view cuts a line at. -/
def idDelimiter : List Char := "(!".toList

/-- The digits of an id as a line shows them. -/
def hexDigits (id : UInt32) : List Char := id.toHex8.toList

/-- An id is written in hexadecimal digits. -/
theorem areDigits_hexDigits (id : UInt32) : Radix.AreDigits 16 (hexDigits id) id.toNat := by
  rw [hexDigits, UInt32.toHex8, String.toList_ofList]
  exact (Radix.areDigits_toDigits (by omega) (by omega) id.toNat).leading_zeros (by omega) _

/-- The code reads exactly the hexadecimal numerals of 32 bits. -/
theorem parseHexId_eq_some_iff {hex : List Char} {id : UInt32} :
    parseHexId hex = some id ↔ Radix.IsNumeral 16 hex id.toNat := by
  have hread : ∀ n : Nat, Radix.fromStrRadix (2 ^ 32) 16 hex = some n ↔
      Radix.IsNumeral 16 hex n ∧ n < 2 ^ 32 := fun n =>
    Radix.fromStrRadix_eq_some_iff (by omega) (by omega)
  rw [parseHexId, Option.map_eq_some_iff]
  constructor
  · intro ⟨n, hn, hid⟩
    obtain ⟨hnumeral, hlt⟩ := (hread n).mp hn
    rw [← hid, UInt32.toNat_ofNat_of_lt' hlt]
    exact hnumeral
  · intro hnumeral
    exact ⟨id.toNat, (hread _).mpr ⟨hnumeral, id.toNat_lt⟩, UInt32.ofNat_toNat⟩

/-- The digits of an id are read back as the id. -/
theorem parseHexId_hexDigits (id : UInt32) : parseHexId (hexDigits id) = some id := by
  rw [parseHexId_eq_some_iff]
  refine ⟨hexDigits id, .inl rfl, ?_, areDigits_hexDigits id⟩
  rw [hexDigits, UInt32.toHex8, String.toList_ofList]
  simp

/-- No digit is a bracket. -/
theorem bracket_not_mem_hexDigits (id : UInt32) : '(' ∉ hexDigits id := by
  intro hmem
  obtain ⟨ds, hds, -⟩ := areDigits_hexDigits id
  have hnone : none ∈ ds.map some := by
    rw [← hds]
    exact List.mem_map.mpr ⟨'(', hmem, rfl⟩
  simp at hnone

/-! ## Cutting the line -/

/-- The line is cut where its name is, and once more behind the name. -/
theorem pieces_neighbourLine (n : NodeInfo) :
    Split.pieces idDelimiter (SimLoop.neighbourLine n).toList =
      Split.join ' ' (Split.pieces idDelimiter n.shortName.toList)
        [[], hexDigits n.nodeId ++ [')']] := by
  have hline : (SimLoop.neighbourLine n).toList =
      n.shortName.toList ++ ' ' :: (idDelimiter ++ (hexDigits n.nodeId ++ [')'])) := by
    simp [SimLoop.neighbourLine, hexDigits, idDelimiter]
  -- the space separates the name, and nothing after the delimiter looks like another one
  have hid : ¬ idDelimiter <:+: hexDigits n.nodeId ++ [')'] := by
    intro hin
    have hmem : '(' ∈ hexDigits n.nodeId ++ [')'] := hin.subset (by simp [idDelimiter])
    simp [bracket_not_mem_hexDigits] at hmem
  rw [hline, Split.pieces_append_cons (by decide) (by decide), Split.pieces_append_self (by decide),
    Split.pieces_of_not_infix hid]

/-- What the view reads an id from. -/
theorem entryDest_of_pieces {entry : String} {s : List Char}
    (h : (Split.pieces idDelimiter entry.toList)[1]? = some s) :
    entryDest entry = (stripSuffix ')' s).bind parseHexId := by
  rw [entryDest, ← idDelimiter, h]
  rfl

/-- The id that the view reads out of a line. -/
theorem entryDest_neighbourLine (n : NodeInfo) :
    entryDest (SimLoop.neighbourLine n) =
      match Split.pieces idDelimiter n.shortName.toList with
      | [_, _] => none
      | _ :: s :: _ :: _ => (stripSuffix ')' s).bind parseHexId
      | _ => some n.nodeId := by
  have hpieces := pieces_neighbourLine n
  match hname : Split.pieces idDelimiter n.shortName.toList with
  | [] => exact absurd hname (Split.pieces_ne_nil _ _)
  | [p] =>
    -- the id is the second piece
    rw [hname] at hpieces
    rw [entryDest_of_pieces (s := hexDigits n.nodeId ++ [')']) (by rw [hpieces]; rfl)]
    simp [stripSuffix, parseHexId_hexDigits]
  | [p, q] =>
    -- the second piece ends with the space behind the name
    rw [hname] at hpieces
    rw [entryDest_of_pieces (s := q ++ [' ']) (by rw [hpieces]; rfl)]
    simp [stripSuffix]
  | p :: q :: r :: ps =>
    -- the second piece is one of the name
    rw [hname] at hpieces
    exact entryDest_of_pieces (by rw [hpieces]; rfl)

/-! ## Faithful entries -/

/-- The name of a neighbour leaves its line readable: it does not contain the delimiter,
    or contains it at least twice with a numeral of the neighbour's own id and a closing
    bracket between the first two. -/
def NodeInfo.Readable (n : NodeInfo) : Prop :=
  ¬ idDelimiter <:+: n.shortName.toList ∨
    ∃ (p hex q : List Char) (ps : List (List Char)),
      Split.pieces idDelimiter n.shortName.toList = p :: (hex ++ [')']) :: q :: ps ∧
        Radix.IsNumeral 16 hex n.nodeId.toNat

/-- A suffix is stripped where there is one. -/
theorem stripSuffix_eq_some_iff {c : Char} {s t : List Char} :
    stripSuffix c s = some t ↔ s = t ++ [c] := by
  rw [stripSuffix]
  constructor
  · intro h
    split at h
    · rename_i hlast
      rw [← Option.some.inj h]
      exact (List.dropLast_append_getLast? c hlast).symm
    · exact nomatch h
  · intro h
    simp [h]

/-- A line is read back as the id exactly if the name leaves it readable. -/
theorem entryDest_neighbourLine_eq_some_iff (n : NodeInfo) :
    entryDest (SimLoop.neighbourLine n) = some n.nodeId ↔ n.Readable := by
  have hinfix : idDelimiter <:+: n.shortName.toList ↔
      1 < (Split.pieces idDelimiter n.shortName.toList).length := by
    constructor
    · intro h
      exact Split.one_lt_length_pieces h (by decide)
    · intro h
      by_contra hnot
      rw [Split.pieces_of_not_infix hnot] at h
      simp at h
  rw [entryDest_neighbourLine, NodeInfo.Readable, hinfix]
  match hname : Split.pieces idDelimiter n.shortName.toList with
  | [] => exact absurd hname (Split.pieces_ne_nil _ _)
  | [p] => simp
  | [p, q] => simp
  | p :: s :: r :: ps =>
    -- what stands between the first two occurrences decides
    simp only [Option.bind_eq_some_iff, stripSuffix_eq_some_iff, parseHexId_eq_some_iff]
    simp

/-- Choosing a neighbour's entry sends its own id, exactly if its name leaves the line
    readable. -/
theorem neighbour_line_faithful_iff [Ieee.Arith] (n : NodeInfo) :
    (entryDest (SimLoop.neighbourLine n) = some n.nodeId ∧
      ∀ (app : MeshSimApp) (shared : ViewModel) (i : Nat),
        shared.neighbours[i]? = some (SimLoop.neighbourLine n) →
          (app.handle shared (.selectNeighbour i)).2 = [.setTxDest n.nodeId]) ↔ n.Readable := by
  constructor
  · intro ⟨hdest, _⟩
    exact (entryDest_neighbourLine_eq_some_iff n).mp hdest
  · intro hreadable
    have hdest := (entryDest_neighbourLine_eq_some_iff n).mpr hreadable
    refine ⟨hdest, ?_⟩
    intro app shared i hentry
    simp [MeshSimApp.handle, hentry, hdest, MeshSimApp.sendTo]

/-- A name that hides its entry, and one that puts another node in its place. -/
theorem names_lead_astray : ∃ hidden forged : NodeInfo,
    entryDest (SimLoop.neighbourLine hidden) = none ∧ forged.nodeId = 7 ∧
      entryDest (SimLoop.neighbourLine forged) = some 1 := by
  refine ⟨
    { nodeId := 7, shortName := "x (!00000001)", longName := "", lastRssi := none },
    { nodeId := 7, shortName := "(!00000001)(!", longName := "", lastRssi := none }, ?_, rfl, ?_⟩
  · decide
  · decide

end Mesh
