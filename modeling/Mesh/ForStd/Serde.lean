import Mesh.ForStd.Radix

/-!
# JSON documents and derived encodings

A `Json` is a parsed document; numbers keep their text. A `Codec` is how a type is
written to a document and read back, after serde's derived implementations: records
are objects whose members may come in any order and among foreign ones (or arrays
in the order of the fields), absent optional members read as `none`, a plain
enumeration is the name of its variant.

Codecs lose values, a float that is not finite for one. `Survives` says that a value
is read back as itself, and each combinator has a lemma that says when.
-/

namespace Serde

/-- A JSON document. -/
inductive Json
  | null
  | bool (b : Bool)
  /-- A number as it is written. -/
  | num (text : String)
  | str (s : String)
  | arr (items : List Json)
  | obj (members : List (String × Json))

/-- An encoding in JSON. -/
structure Codec (α : Type) where
  enc : α → Json
  dec : Json → Option α
  /-- What a member that is absent reads as. -/
  absent : Option α

namespace Codec

variable {α β : Type}

/-- The value is read back as itself. -/
def Survives (c : Codec α) (x : α) : Prop := c.dec (c.enc x) = some x

def bool : Codec Bool where
  enc := .bool
  dec
    | .bool b => some b
    | _ => none
  absent := none

@[simp] theorem survives_bool (b : Bool) : bool.Survives b := rfl

def string : Codec String where
  enc := .str
  dec
    | .str s => some s
    | _ => none
  absent := none

@[simp] theorem survives_string (s : String) : string.Survives s := rfl

/-- Unsigned integers below a bound; a number with a sign, a fraction or an exponent is
    none. -/
def nat (bound : Nat) : Codec Nat where
  enc n := .num n.repr
  dec
    | .num text => Radix.readDigits bound 10 0 text.toList
    | _ => none
  absent := none

/-- Numbers in bounds are read back. -/
theorem survives_nat {bound n : Nat} (h : n < bound) : (nat bound).Survives n := by
  have hdigits : Radix.AreDigits 10 (Nat.toDigits 10 n) n :=
    Radix.areDigits_toDigits (by omega) (by omega) n
  obtain ⟨ds, hds, hvalue⟩ := hdigits
  show Radix.readDigits bound 10 0 n.repr.toList = some n
  rw [Nat.toList_repr, Radix.readDigits_eq_some_iff (by omega) (by omega)]
  exact ⟨ds, hds, hvalue, h⟩

/-- Values through another type. -/
def map (f : α → β) (g : β → α) (c : Codec α) : Codec β where
  enc y := c.enc (g y)
  dec j := (c.dec j).map f
  absent := c.absent.map f

/-- A codec through a map survives if the map is undone. -/
theorem survives_map {f : α → β} {g : β → α} {c : Codec α} {y : β} (hfg : f (g y) = y)
    (h : c.Survives (g y)) : (c.map f g).Survives y := by
  show (c.dec (c.enc (g y))).map f = some y
  rw [h, Option.map_some, hfg]

/-- A value survives under another type of the same values if it does under its own. -/
theorem survives_map_iff {f : α → β} {g : β → α} {c : Codec α} (hgf : ∀ x, g (f x) = x)
    (hfg : ∀ y, f (g y) = y) {y : β} : (c.map f g).Survives y ↔ c.Survives (g y) := by
  refine ⟨?_, survives_map (hfg y)⟩
  intro h
  -- what was read is a value whose image is `y`, so it is the one that was written
  have hmap : (c.dec (c.enc (g y))).map f = some y := h
  obtain ⟨x, hx, hy⟩ := Option.map_eq_some_iff.mp hmap
  rw [Survives, hx, ← hy, hgf]

def uint8 : Codec UInt8 := (nat (2 ^ 8)).map UInt8.ofNat UInt8.toNat

@[simp] theorem survives_uint8 (n : UInt8) : uint8.Survives n :=
  survives_map UInt8.ofNat_toNat (survives_nat n.toNat_lt)

def uint32 : Codec UInt32 := (nat (2 ^ 32)).map UInt32.ofNat UInt32.toNat

@[simp] theorem survives_uint32 (n : UInt32) : uint32.Survives n :=
  survives_map UInt32.ofNat_toNat (survives_nat n.toNat_lt)

def uint64 : Codec UInt64 := (nat (2 ^ 64)).map UInt64.ofNat UInt64.toNat

@[simp] theorem survives_uint64 (n : UInt64) : uint64.Survives n :=
  survives_map UInt64.ofNat_toNat (survives_nat n.toNat_lt)

/-- Floats: what is not finite is written as `null`, which is no number. -/
def float (isFinite : α → Bool) (shown : α → String) (read : String → Option α) : Codec α where
  enc x := if isFinite x then .num (shown x) else .null
  dec
    | .num text => read text
    | _ => none
  absent := none

/-- What is read of a float is read from the digits of a finite one. -/
theorem dec_enc_float_iff {isFinite : α → Bool} {shown : α → String} {read : String → Option α}
    {x y : α} : (float isFinite shown read).dec ((float isFinite shown read).enc x) = some y ↔
      isFinite x = true ∧ read (shown x) = some y := by
  show (match if isFinite x then Json.num (shown x) else Json.null with
    | .num text => read text
    | _ => none) = some y ↔ _
  cases hx : isFinite x with
  | true => simp
  | false => simp

/-- A float is read back exactly if it is finite and its digits say all of it. -/
theorem survives_float_iff {isFinite : α → Bool} {shown : α → String} {read : String → Option α}
    {x : α} : (float isFinite shown read).Survives x ↔
      isFinite x = true ∧ read (shown x) = some x := dec_enc_float_iff

/-- The name of a variant without content: a string, or the externally tagged form. -/
def variantName : Json → Option String
  | .str s => some s
  | .obj [(s, .null)] => some s
  | _ => none

/-- Variants without content, by their names. -/
def enumeration (name : α → String) (variants : List α) : Codec α where
  enc x := .str (name x)
  dec j := (variantName j).bind fun s => variants.find? fun x => name x == s
  absent := none

/-! ## Compound values -/

/-- `null` is nothing. -/
def option (c : Codec α) : Codec (Option α) where
  enc
    | none => .null
    | some x => c.enc x
  dec
    | .null => some none
    | j => (c.dec j).map some
  absent := some none

/-- Nothing is written as `null`, which is read as nothing. -/
@[simp] theorem survives_none (c : Codec α) : c.option.Survives none := rfl

/-- A value that is not written as `null` survives inside an option as it does outside. -/
theorem survives_some_iff {c : Codec α} {x : α} (hnull : c.enc x ≠ .null) :
    c.option.Survives (some x) ↔ c.Survives x := by
  unfold Survives option
  cases hx : c.enc x with
  | null => exact absurd hx hnull
  | _ => simp

/-- A list is written as an array. -/
def list (c : Codec α) : Codec (List α) where
  enc xs := .arr (xs.map c.enc)
  dec
    | .arr items => items.mapM c.dec
    | _ => none
  absent := none

/-- A list is read back exactly if all its elements are. -/
theorem survives_list_iff {c : Codec α} {xs : List α} :
    c.list.Survives xs ↔ ∀ x ∈ xs, c.Survives x := by
  show (xs.map c.enc).mapM c.dec = some xs ↔ _
  induction xs with
  | nil => simp
  | cons x xs ih =>
    rw [List.map_cons, List.mapM_cons, List.forall_mem_cons, ← ih]
    unfold Survives
    constructor
    · -- the items are read one by one
      intro h
      obtain ⟨y, hy, h⟩ := Option.bind_eq_some_iff.mp h
      obtain ⟨ys, hys, h⟩ := Option.bind_eq_some_iff.mp h
      obtain ⟨rfl, rfl⟩ := List.cons.inj (Option.some.inj h)
      exact ⟨hy, hys⟩
    · intro ⟨hx, hxs⟩
      simp [hx, hxs]

end Codec

/-! ## Records -/

/-- The one member of a name; two of them are an error. -/
def member (name : String) (members : List (String × Json)) : Option (Option Json) :=
  match members.filter fun m => m.1 == name with
  | [] => some none
  | [m] => some (some m.2)
  | _ => none

/-- Members of other names do not matter. -/
theorem member_cons_of_ne {name other : String} (h : other ≠ name) (j : Json)
    (members : List (String × Json)) :
    member name ((other, j) :: members) = member name members := by
  simp [member, h]

/-- The fields of a record, in order. A field is read from the members of its own name
    alone, so if the names differ, a record is read back field by field. -/
structure Fields (α : Type) where
  names : List String
  enc : α → List (String × Json)
  decMembers : List (String × Json) → Option α
  decItems : List Json → Option α
  /-- Each field of the first record is read back as that of the second. -/
  Reads : α → α → Prop
  names_enc : ∀ x, (enc x).map Prod.fst = names
  decMembers_cons : ∀ name j members, name ∉ names →
    decMembers ((name, j) :: members) = decMembers members
  decMembers_enc_iff : names.Nodup → ∀ x y, decMembers (enc x) = some y ↔ Reads x y

namespace Fields

variable {α β : Type}

/-- No fields. -/
def nil : Fields Unit where
  names := []
  enc _ := []
  decMembers _ := some ()
  decItems
    | [] => some ()
    | _ => none
  Reads _ _ := True
  names_enc _ := rfl
  decMembers_cons _ _ _ _ := rfl
  decMembers_enc_iff _ _ _ := by simp

/-- Read the field of a name, and then the others. -/
def decCons (name : String) (c : Codec α) (f : Fields β) (members : List (String × Json)) :
    Option (α × β) := do
  let found ← member name members
  let x ← found.elim c.absent c.dec
  let y ← f.decMembers members
  some (x, y)

/-- A member that no field is named after is skipped. -/
theorem decCons_cons {name other : String} {c : Codec α} {f : Fields β} (j : Json)
    (members : List (String × Json)) (h : other ∉ name :: f.names) :
    decCons name c f ((other, j) :: members) = decCons name c f members := by
  rw [List.mem_cons, not_or] at h
  rw [decCons, member_cons_of_ne h.1, f.decMembers_cons other j members h.2, decCons]

/-- Of the members written, the first field and the others read their own. -/
theorem decCons_enc {name : String} {c : Codec α} {f : Fields β} (hname : name ∉ f.names)
    (x : α) (y : β) : decCons name c f ((name, c.enc x) :: f.enc y) =
      (c.dec (c.enc x)).bind fun x' => (f.decMembers (f.enc y)).map fun y' => (x', y') := by
  have hmember : member name ((name, c.enc x) :: f.enc y) = some (some (c.enc x)) := by
    -- none of the later members has the name
    have hrest : (f.enc y).filter (fun m => m.1 == name) = [] := by
      rw [List.filter_eq_nil_iff]
      intro m hm heq
      rw [← f.names_enc y] at hname
      exact hname (List.mem_map.mpr ⟨m, hm, beq_iff_eq.mp heq⟩)
    simp [member, hrest]
  rw [decCons, hmember, f.decMembers_cons name (c.enc x) (f.enc y) hname]
  cases f.decMembers (f.enc y) <;> simp

/-- The first field and the others are read apart, and either may fail. -/
theorem decCons_enc_iff {name : String} {c : Codec α} {f : Fields β}
    (h : (name :: f.names).Nodup) (x : α × β) (y : α × β) :
    decCons name c f ((name, c.enc x.1) :: f.enc x.2) = some y ↔
      c.dec (c.enc x.1) = some y.1 ∧ f.Reads x.2 y.2 := by
  obtain ⟨hname, hnodup⟩ := List.nodup_cons.mp h
  rw [decCons_enc hname, ← f.decMembers_enc_iff hnodup]
  cases c.dec (c.enc x.1) <;> cases f.decMembers (f.enc x.2) <;> simp [Prod.ext_iff]

/-- One more field in front. -/
def cons (name : String) (c : Codec α) (f : Fields β) : Fields (α × β) where
  names := name :: f.names
  enc x := (name, c.enc x.1) :: f.enc x.2
  decMembers := decCons name c f
  decItems
    | [] => none
    | j :: items => do
      let x ← c.dec j
      let y ← f.decItems items
      some (x, y)
  Reads x y := c.dec (c.enc x.1) = some y.1 ∧ f.Reads x.2 y.2
  names_enc x := by rw [List.map_cons, f.names_enc]
  decMembers_cons _ j members h := decCons_cons j members h
  decMembers_enc_iff h x y := decCons_enc_iff h x y

@[simp] theorem names_nil : nil.names = [] := rfl

@[simp] theorem names_cons {name : String} {c : Codec α} {f : Fields β} :
    (cons name c f).names = name :: f.names := rfl

@[simp] theorem reads_nil (x y : Unit) : nil.Reads x y := trivial

/-- A record is read field by field. -/
theorem reads_cons {name : String} {c : Codec α} {f : Fields β} {x x' : α} {y y' : β} :
    (cons name c f).Reads (x, y) (x', y') ↔ c.dec (c.enc x) = some x' ∧ f.Reads y y' := Iff.rfl

/-- A record with one more field is read back as itself if that field and the others are. -/
@[simp] theorem reads_self_cons {name : String} {c : Codec α} {f : Fields β} {x : α} {y : β} :
    (cons name c f).Reads (x, y) (x, y) ↔ c.Survives x ∧ f.Reads y y := Iff.rfl

/-- A record as an object, or as an array of all its fields. -/
def record (f : Fields α) : Codec α where
  enc x := .obj (f.enc x)
  dec
    | .obj members => f.decMembers members
    | .arr items => f.decItems items
    | _ => none
  absent := none

/-- A record is read back as another one exactly if each field is. -/
theorem dec_record_enc_iff {f : Fields α} (h : f.names.Nodup) {x y : α} :
    f.record.dec (f.record.enc x) = some y ↔ f.Reads x y := f.decMembers_enc_iff h x y

/-- A record is read back exactly if each of its fields is. -/
theorem survives_record_iff {f : Fields α} (h : f.names.Nodup) {x : α} :
    f.record.Survives x ↔ f.Reads x x := dec_record_enc_iff h

end Fields

/-! ## Adjacently tagged enumerations -/

/-- The tag and the content of a document, an object or an array of the two. Among members
    the tag is read as a variant without content, in an array as a plain string. -/
def tagged (tag content : String) : Json → Option (String × Option Json)
  | .obj members => do
    let name ← member tag members
    let j ← member content members
    let s ← name.bind Codec.variantName
    some (s, j)
  | .arr [.str s, j] => some (s, some j)
  | _ => none

/-- Read a variant with one field out of its content. -/
def newtype {α β : Type} (c : Codec α) (mk : α → β) (content : Option Json) : Option β :=
  (content.bind c.dec).map mk

/-- Read a variant without fields. -/
def unit {β : Type} (value : β) : Option Json → Option β
  | none => some value
  | some .null => some value
  | _ => none

/-- A variant with a field is read from a content that the field is read from. -/
theorem newtype_eq_some_iff {α β : Type} {c : Codec α} {mk : α → β} {content : Option Json}
    {y : β} : newtype c mk content = some y ↔
      ∃ j x, content = some j ∧ c.dec j = some x ∧ mk x = y := by
  unfold newtype
  cases content with
  | none => simp
  | some j => simp

/-- A variant is read back if its content is. -/
theorem newtype_enc_iff {α β : Type} {c : Codec α} {mk : α → β} (hmk : Function.Injective mk)
    {x : α} : newtype c mk (some (c.enc x)) = some (mk x) ↔ c.Survives x := by
  rw [newtype_eq_some_iff]
  constructor
  · intro ⟨j, x', hj, hx', hmk'⟩
    rw [Codec.Survives, Option.some.inj hj, hx', hmk hmk']
  · intro h
    exact ⟨c.enc x, x, rfl, h, rfl⟩

end Serde
