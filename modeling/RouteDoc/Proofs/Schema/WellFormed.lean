import RouteDoc.Proofs.Requests

/-! Well-formed schemas. Whatever is asked for, the schemas that are answered and those in the table
keep the rules on which parts go together, at every depth. -/
namespace RouteDoc
open Disk Go

namespace Schema

/-- The rules for one schema, whatever stands inside it. -/
structure Proper (s : Schema) : Prop where
  /-- A reference stands alone. -/
  reference : s.ref.isSome = true → s = { ref := s.ref }
  items : s.items.isSome = true ↔ s.type = some "array"
  /-- Only objects have properties, required ones among them, or values of one kind. -/
  object : s.properties.isSome = true ∨ s.required.isSome = true ∨ s.additional.isSome = true →
    s.type = some "object"
  required : ∀ names, s.required = some names → names ≠ [] ∧
    ∀ name ∈ names, ∃ m, s.properties = some m ∧ (m.lookup name).isSome = true
  enumValues : ∀ values, s.enumValues = some values → values ≠ []

def WellFormed (s : Schema) : Prop := s.Everywhere Proper

variable {s : Schema}

theorem Proper.withDescription (h : s.Proper) (hs : s.ref = none) (d : Option String) :
    { s with description := d }.Proper :=
  { h with reference := fun hr => by simp [hs] at hr }

theorem WellFormed.withDescription (h : s.WellFormed) (hs : s.ref = none) (d : Option String) :
    { s with description := d }.WellFormed := by
  obtain ⟨hproper, hinside⟩ := everywhere_iff.mp h
  exact everywhere_iff.mpr ⟨hproper.withDescription hs d, hinside⟩

theorem wellFormed_reference (name : String) : (reference name).WellFormed :=
  everywhere_iff.mpr ⟨by constructor <;> simp [reference], by simp [reference]⟩

theorem WellFormed.array (h : s.WellFormed) : (array s).WellFormed :=
  everywhere_iff.mpr
    ⟨by constructor <;> simp [Schema.array], by simpa [Schema.array, WellFormed] using h⟩

theorem WellFormed.mapOf (h : s.WellFormed) : (mapOf s).WellFormed :=
  everywhere_iff.mpr
    ⟨by constructor <;> simp [Schema.mapOf], by simpa [Schema.mapOf, WellFormed] using h⟩

/-- The required names are those of some of the fields, and all fields become properties. -/
theorem proper_ofFieldSchemas (fields : List (FieldDef × Schema)) :
    (ofFieldSchemas fields).Proper where
  reference h := by simp [ofFieldSchemas] at h
  items := by simp [ofFieldSchemas]
  object _ := rfl
  required := by
    intro names hnames
    simp only [ofFieldSchemas] at hnames
    split_ifs at hnames with hempty
    obtain rfl := Option.some.inj hnames
    refine ⟨mt List.isEmpty_iff.mpr hempty, fun name hname => ⟨_, rfl, ?_⟩⟩
    obtain ⟨e, he, rfl⟩ := List.mem_map.mp hname
    refine KeyMap.contains_ofList.mpr ?_
    rw [List.map_map]
    exact List.mem_map.mpr ⟨e, (List.mem_filter.mp he).1, rfl⟩
  enumValues := by simp [ofFieldSchemas]

theorem isFamily_wellFormed : IsFamily WellFormed where
  plain := by
    rintro s ⟨type, format, htype, rfl⟩
    exact everywhere_iff.mpr ⟨by constructor <;> simp [htype], by simp⟩
  array h := h.array
  mapOf h := h.mapOf
  fields := by
    intro fields h
    refine everywhere_iff.mpr ⟨proper_ofFieldSchemas fields, ?_, ?_, ?_⟩
    · intro m hm name p hp
      cases hm
      obtain ⟨e, he, heq⟩ := List.mem_map.mp (KeyMap.mem_of_mem_ofList hp)
      cases heq
      exact h e he
    · simp [ofFieldSchemas]
    · simp [ofFieldSchemas]
  enumeration := by
    intro type description values htype
    refine everywhere_iff.mpr ⟨?_, by simp⟩
    constructor <;> simp [htype]
  described d hs h := h.withDescription hs d

end Schema

namespace ModelIndex
open Schema (isFamily_wellFormed)
variable (index : ModelIndex)

/-- The schema for a name is a reference or an open object, with any fuel. -/
theorem wellFormed_ofName (fuel : Nat) (package : Option String) (name : String)
    (dir : Option FilePath) (t : SchemaTable) :
    (Schema.ofName index fuel package name dir t).1.WellFormed := by
  have hobject := isFamily_wellFormed.plain Schema.isPlain_object
  cases fuel with
  | zero => exact hobject
  | succ fuel =>
    simp only [Schema.ofName]
    split_ifs
    · exact Schema.wellFormed_reference name
    · exact hobject
    · split
      · exact hobject
      · exact Schema.wellFormed_reference name

theorem wellFormed_schemaOf (type : TypeExpr) (dir : Option FilePath) (t : SchemaTable) :
    (index.schemaOf type dir t).1.WellFormed :=
  isFamily_wellFormed.ofType (fun package name t _ => index.wellFormed_ofName _ package name dir t)
    false t

theorem Sound.wellFormed_entry {index : ModelIndex} {t : SchemaTable} (ht : index.Sound t)
    {name : String} {s : Schema} (hs : t.get? name = some s) : s.WellFormed := by
  have hname : ∀ k, (index.nameSchema k).WellFormed := by
    intro k
    unfold nameSchema
    split_ifs
    · exact Schema.wellFormed_reference k
    · exact isFamily_wellFormed.plain Schema.isPlain_object
  obtain ⟨m, -, rfl, -⟩ := ht.entry name s hs
  exact isFamily_wellFormed.ofModel (fun _ k _ _ => hname k) {}

/-- The schema that is answered for a type is well-formed at every depth, whatever the table holds,
and so is every entry of the table after any requests. -/
theorem schemas_wellFormed (index : ModelIndex) :
    (∀ (type : TypeExpr) (dir : Option FilePath) (t : SchemaTable),
      (index.schemaOf type dir t).1.WellFormed) ∧
    ∀ (requests : List Request) (name : String) (s : Schema),
      (index.serve requests).table.get? name = some s → s.WellFormed :=
  ⟨index.wellFormed_schemaOf, fun requests _ _ hs =>
    (index.serve_closed requests).sound.wellFormed_entry hs⟩

end ModelIndex

end RouteDoc
