import RouteDoc.Proofs.KeyMap
import RouteDoc.Proofs.Schema.Refs
import RouteDoc.Schema.Generate

/-! The names that a type or a model asks for, and its schema where every name has a fixed one. -/
namespace RouteDoc
open Disk Go

namespace Go.TypeExpr

/-- The type under pointers, slices, arrays and generic types with arguments. -/
def undecorated : TypeExpr → TypeExpr
  | .pointer elem => elem.undecorated
  | .slice elem => elem.undecorated
  | .array _ elem => elem.undecorated
  | .generic _ (arg :: _) => arg.undecorated
  | type => type

/-- Induction on the parts of a type that its schema is made from. -/
@[elab_as_elim]
theorem part_induction {motive : TypeExpr → Prop}
    (named : ∀ name, motive (.named name))
    (qualified : ∀ package name, motive (.qualified package name))
    (pointer : ∀ elem, motive elem → motive (.pointer elem))
    (slice : ∀ elem, motive elem → motive (.slice elem))
    (array : ∀ length elem, motive elem → motive (.array length elem))
    (map : ∀ key value, motive value → motive (.map key value))
    (base : ∀ base, motive base → motive (.generic base []))
    (argument : ∀ base arg rest, motive arg → motive (.generic base (arg :: rest)))
    (struct : ∀ fields, (∀ f ∈ fields, motive f.type) → motive (.struct fields))
    (interface : motive .interface) (func : motive .func) (chan : ∀ elem, motive (.chan elem))
    (other : ∀ text, motive (.other text)) (type : TypeExpr) : motive type := by
  have ih : ∀ part : TypeExpr, sizeOf part < sizeOf type → motive part := fun part _ =>
    part_induction named qualified pointer slice array map base argument struct interface func
      chan other part
  cases type with
  | named name => exact named name
  | qualified package name => exact qualified package name
  | pointer elem => exact pointer elem (ih elem (by simp))
  | slice elem => exact slice elem (ih elem (by simp))
  | array length elem => exact array length elem (ih elem (by simp))
  | map key value => exact map key value (ih value (by simp))
  | generic b args =>
    cases args with
    | nil =>
      refine base b (ih b ?_)
      rw [generic.sizeOf_spec]
      omega
    | cons arg rest =>
      refine argument b arg rest (ih arg ?_)
      rw [generic.sizeOf_spec, List.cons.sizeOf_spec]
      omega
  | struct fields =>
    refine struct fields fun f hf => ih f.type ?_
    have hlt := List.sizeOf_lt_of_mem hf
    cases f
    simp only [TypeExpr.struct.sizeOf_spec, Field.mk.sizeOf_spec] at hlt ⊢
    omega
  | interface => exact interface
  | func => exact func
  | chan elem => exact chan elem
  | other text => exact other text
termination_by type

/-- A type asks for the names in it that are not built in. Keys of maps and all but the first
argument of a generic type do not count, nor do fields that are not serialized. -/
inductive Asks : TypeExpr → String → Prop where
  | named {name : String} (h : Schema.builtin? name = none) : Asks (.named name) name
  | qualified {package name : String} (h : Schema.builtin? (package ++ "." ++ name) = none) :
      Asks (.qualified package name) name
  | pointer {elem : TypeExpr} {name : String} (h : Asks elem name) : Asks (.pointer elem) name
  | slice {elem : TypeExpr} {name : String} (h : Asks elem name) : Asks (.slice elem) name
  | array {length : String} {elem : TypeExpr} {name : String} (h : Asks elem name) :
      Asks (.array length elem) name
  | map {key value : TypeExpr} {name : String} (h : Asks value name) : Asks (.map key value) name
  | base {base : TypeExpr} {name : String} (h : Asks base name) : Asks (.generic base []) name
  | argument {base arg : TypeExpr} {rest : List TypeExpr} {name : String}
      (h : Asks arg.undecorated name) : Asks (.generic base (arg :: rest)) name
  | field {fields : List Field} {f : Field} {d : FieldDef} {name : String} (hf : f ∈ fields)
      (hd : FieldDef.ofField? f = some d) (h : Asks d.type name) : Asks (.struct fields) name

section
variable {elem : TypeExpr} {name : String}

theorem asks_named {n : String} : (named n).Asks name ↔ Schema.builtin? n = none ∧ name = n := by
  constructor
  · intro h
    cases h with
    | named h => exact ⟨h, rfl⟩
  · rintro ⟨h, rfl⟩
    exact .named h

theorem asks_qualified {package n : String} : (qualified package n).Asks name ↔
    Schema.builtin? (package ++ "." ++ n) = none ∧ name = n := by
  constructor
  · intro h
    cases h with
    | qualified h => exact ⟨h, rfl⟩
  · rintro ⟨h, rfl⟩
    exact .qualified h

theorem asks_pointer : (pointer elem).Asks name ↔ elem.Asks name :=
  ⟨fun | .pointer h => h, .pointer⟩

theorem asks_slice : (slice elem).Asks name ↔ elem.Asks name := ⟨fun | .slice h => h, .slice⟩

theorem asks_array {length : String} : (array length elem).Asks name ↔ elem.Asks name :=
  ⟨fun | .array h => h, .array⟩

theorem asks_map {key : TypeExpr} : (map key elem).Asks name ↔ elem.Asks name :=
  ⟨fun | .map h => h, .map⟩

theorem asks_base : (generic elem []).Asks name ↔ elem.Asks name := ⟨fun | .base h => h, .base⟩

theorem asks_undecorated {type : TypeExpr} : type.undecorated.Asks name ↔ type.Asks name := by
  induction type using part_induction with
  | pointer elem ih => exact ih.trans asks_pointer.symm
  | slice elem ih => exact ih.trans asks_slice.symm
  | array length elem ih => exact ih.trans asks_array.symm
  | argument base arg rest ih =>
    change arg.undecorated.Asks name ↔ _
    exact ⟨.argument, fun | .argument h => h⟩
  | _ => exact Iff.rfl

theorem asks_argument {base : TypeExpr} {rest : List TypeExpr} :
    (generic base (elem :: rest)).Asks name ↔ elem.Asks name :=
  ⟨fun | .argument h => asks_undecorated.mp h, fun h => .argument (asks_undecorated.mpr h)⟩

theorem asks_struct {fields : List Field} :
    (struct fields).Asks name ↔
      ∃ d ∈ fields.filterMap FieldDef.ofField?, d.type.Asks name := by
  constructor
  · intro h
    cases h with
    | field hf hd h => exact ⟨_, List.mem_filterMap.mpr ⟨_, hf, hd⟩, h⟩
  · rintro ⟨d, hd, h⟩
    obtain ⟨f, hf, hfd⟩ := List.mem_filterMap.mp hd
    exact .field hf hfd h

end

end Go.TypeExpr

theorem FieldDef.type_of_ofField? {f : Field} {d : FieldDef} (h : FieldDef.ofField? f = some d) :
    d.type = f.type := by
  simp only [FieldDef.ofField?, Option.bind_eq_bind, Option.bind_eq_some_iff] at h
  obtain ⟨json, -, h⟩ := h
  split at h
  · split at h
    · cases h
    · cases h
      rfl
  · cases h

/-- A model asks for the names that the types of its fields ask for, or the type it stands for. An
enumeration asks for none, and neither does a model that stands for a type of another package. -/
inductive ModelKind.Asks : ModelKind → String → Prop where
  | field {fields : List FieldDef} {d : FieldDef} {name : String} (hd : d ∈ fields)
      (h : d.type.Asks name) : Asks (.struct fields) name
  | synonym {type : TypeExpr} {name : String} (hq : ∀ p n, type ≠ .qualified p n)
      (h : type.Asks name) : Asks (.synonym type) name

namespace ModelKind

theorem asks_struct {fields : List FieldDef} {name : String} :
    (ModelKind.struct fields).Asks name ↔ ∃ d ∈ fields, d.type.Asks name :=
  ⟨fun | .field hd h => ⟨_, hd, h⟩, fun ⟨_, hd, h⟩ => .field hd h⟩

theorem asks_synonym {type : TypeExpr} (hq : ∀ p n, type ≠ .qualified p n) {name : String} :
    (ModelKind.synonym type).Asks name ↔ type.Asks name :=
  ⟨fun | .synonym _ h => h, .synonym hq⟩

end ModelKind

namespace Schema

theorem ofInlineFields_eq_ofFields (named : NameSchema) (dir : Option FilePath)
    (fields : List Field) (t : SchemaTable) :
    ofInlineFields named dir fields t =
      ofFields named dir (fields.filterMap FieldDef.ofField?) t := by
  induction fields generalizing t with
  | nil => simp [ofInlineFields, ofFields]
  | cons f rest ih =>
    obtain ⟨names, type, tag, doc⟩ := f
    cases h : FieldDef.ofField? ⟨names, type, tag, doc⟩ with
    | none => simp [ofInlineFields, h, ih]
    | some d =>
      have hd : d.type = type := FieldDef.type_of_ofField? h
      simp [ofInlineFields, ofFields, h, ih, hd]

theorem ofType_bare (named : NameSchema) (dir : Option FilePath) (type : TypeExpr)
    (t : SchemaTable) :
    ofType named dir true type t = ofType named dir false type.undecorated t := by
  induction type using TypeExpr.part_induction with
  | pointer elem ih => simpa only [ofType, TypeExpr.undecorated] using ih
  | slice elem ih => simpa only [ofType, TypeExpr.undecorated, if_true] using ih
  | array length elem ih => simpa only [ofType, TypeExpr.undecorated, if_true] using ih
  | argument base arg rest ih => simpa only [ofType, TypeExpr.undecorated] using ih
  | _ => simp only [ofType, TypeExpr.undecorated]

theorem ofKind_synonym (named : NameSchema) {m : Model} {type : TypeExpr}
    (hk : m.kind = .synonym type) (hq : ∀ p n, type ≠ .qualified p n) (t : SchemaTable) :
    ofKind named m t = ofType named (some m.dir) false type t := by
  unfold ofKind
  rw [hk]
  cases type with
  | qualified p n => exact absurd rfl (hq p n)
  | _ => rfl

theorem mem_ofFields {named : NameSchema} {dir : Option FilePath} {fields : List FieldDef}
    {t : SchemaTable} {e : FieldDef × Schema} (he : e ∈ (ofFields named dir fields t).1) :
    e.1 ∈ fields ∧ ∃ t', e.2 = (ofType named dir false e.1.type t').1 := by
  induction fields generalizing t with
  | nil => cases he
  | cons d rest ih =>
    rcases List.mem_cons.mp he with rfl | he
    · exact ⟨List.mem_cons_self, t, rfl⟩
    · exact (ih he).imp_left (List.mem_cons_of_mem d)

/-- Every name has a fixed schema, and the table is left alone. -/
def fixedNames (f : String → Schema) : NameSchema := fun _ name _ t => (f name, t)

/-- The schema of a type where names have the schemas `f`. -/
def shape (f : String → Schema) (bare : Bool) (type : TypeExpr) : Schema :=
  (ofType (fixedNames f) none bare type {}).1

section
variable (f : String → Schema)

private theorem ofFields_fixedNames_of {fields : List FieldDef} {dir : Option FilePath}
    (h : ∀ d ∈ fields, ∀ t, ofType (fixedNames f) dir false d.type t = (shape f false d.type, t))
    (t : SchemaTable) :
    ofFields (fixedNames f) dir fields t = (fields.map fun d => (d, shape f false d.type), t) := by
  induction fields with
  | nil => rfl
  | cons d rest ih =>
    have hd := h d List.mem_cons_self t
    have hrest := ih fun d hd => h d (List.mem_cons_of_mem _ hd)
    simp only [ofFields, hd, hrest, List.map_cons]

private theorem ofInlineFields_fixedNames_of {fields : List Field} {dir : Option FilePath}
    (h : ∀ g ∈ fields, ∀ t, ofType (fixedNames f) dir false g.type t = (shape f false g.type, t))
    (t : SchemaTable) :
    ofInlineFields (fixedNames f) dir fields t =
      ((fields.filterMap FieldDef.ofField?).map fun d => (d, shape f false d.type), t) := by
  rw [ofInlineFields_eq_ofFields]
  refine ofFields_fixedNames_of f ?_ t
  intro d hd t
  obtain ⟨g, hg, hgd⟩ := List.mem_filterMap.mp hd
  rw [FieldDef.type_of_ofField? hgd]
  exact h g hg t

theorem ofType_fixedNames (type : TypeExpr) (bare : Bool) (dir : Option FilePath)
    (t : SchemaTable) : ofType (fixedNames f) dir bare type t = (shape f bare type, t) := by
  unfold shape
  induction type using TypeExpr.part_induction generalizing bare dir t with
  | named name => cases h : builtin? name <;> simp only [ofType, h, fixedNames]
  | qualified package name =>
    cases h : builtin? (package ++ "." ++ name) <;> simp only [ofType, h, fixedNames]
  | pointer elem ih => simpa only [ofType] using ih bare dir t
  | slice elem ih =>
    cases bare with
    | true => simpa only [ofType, if_true] using ih true dir t
    | false => simp only [ofType, Bool.false_eq_true, if_false, ih false dir t]
  | array length elem ih =>
    cases bare with
    | true => simpa only [ofType, if_true] using ih true dir t
    | false => simp only [ofType, Bool.false_eq_true, if_false, ih false dir t]
  | map key value ih => simp only [ofType, ih false dir t]
  | base base ih => simpa only [ofType] using ih false dir t
  | argument base arg rest ih => simpa only [ofType] using ih true dir t
  | struct fields ih =>
    simp only [ofType]
    rw [ofInlineFields_fixedNames_of f (fun g hg t => ih g hg false dir t),
      ofInlineFields_fixedNames_of f (fun g hg t => ih g hg false none t)]
  | _ => simp only [ofType]

theorem ofFields_fixedNames (fields : List FieldDef) (dir : Option FilePath) (t : SchemaTable) :
    ofFields (fixedNames f) dir fields t = (fields.map fun d => (d, shape f false d.type), t) :=
  ofFields_fixedNames_of f (fun d _ t => ofType_fixedNames f d.type false dir t) t

end

/-- The rules for schemas of types where names have the schemas `f`. Pointers do not show, slices and
arrays become arrays, maps become objects with any names, a generic type is replaced by its first
argument, and the fields of a struct become properties. -/
structure IsShape (f : String → Schema) (g : TypeExpr → Schema) : Prop where
  named : ∀ name, g (.named name) = (builtin? name).getD (f name)
  qualified : ∀ package name,
    g (.qualified package name) = (builtin? (package ++ "." ++ name)).getD (f name)
  pointer : ∀ elem, g (.pointer elem) = g elem
  slice : ∀ elem, g (.slice elem) = array (g elem)
  array : ∀ length elem, g (.array length elem) = Schema.array (g elem)
  map : ∀ key value, g (.map key value) = mapOf (g value)
  base : ∀ base, g (.generic base []) = g base
  argument : ∀ base arg rest, g (.generic base (arg :: rest)) = g arg.undecorated
  struct : ∀ fields, g (.struct fields) =
    ofFieldSchemas ((fields.filterMap FieldDef.ofField?).map fun d => (d, g d.type))
  interface : g .interface = object
  func : g .func = object
  chan : ∀ elem, g (.chan elem) = object
  other : ∀ text, g (.other text) = object

theorem isShape_shape (f : String → Schema) : IsShape f (shape f false) where
  named name := by cases h : builtin? name <;> simp [shape, ofType, h, fixedNames]
  qualified package name := by
    cases h : builtin? (package ++ "." ++ name) <;> simp [shape, ofType, h, fixedNames]
  pointer elem := by simp only [shape, ofType]
  slice elem := by simp [shape, ofType]
  array length elem := by simp [shape, ofType]
  map key value := by simp only [shape, ofType]
  base base := by simp only [shape, ofType]
  argument base arg rest := by simp only [shape, ofType, ofType_bare]
  struct fields := by
    rw [shape, ofType]
    simp only [ofInlineFields_eq_ofFields, ofFields_fixedNames]
  interface := by simp only [shape, ofType]
  func := by simp only [shape, ofType]
  chan elem := by simp only [shape, ofType]
  other text := by simp only [shape, ofType]

/-- A schema that says no more than its type, which is not that of arrays, and a format. -/
def IsPlain (s : Schema) : Prop :=
  ∃ (type : String) (format : Option String), type ≠ "array" ∧ s = { type := some type, format }

/-- A family of schemas that holds what schemas of types and models are made from, and with schemas
also what is made of them. -/
structure IsFamily (P : Schema → Prop) : Prop where
  plain : ∀ {s : Schema}, IsPlain s → P s
  array : ∀ {s : Schema}, P s → P (array s)
  mapOf : ∀ {s : Schema}, P s → P (mapOf s)
  fields : ∀ {fields : List (FieldDef × Schema)},
    (∀ e ∈ fields, P (describeField e.1 e.2)) → P (ofFieldSchemas fields)
  enumeration : ∀ {type : String} {description : Option String} {values : List Json},
    type ≠ "array" →
      P { type := some type, description,
          enumValues := if values.isEmpty then none else some values }
  /-- References have no description. -/
  described : ∀ {s : Schema} (d : Option String), s.ref = none → P s → P { s with description := d }

private theorem of_ite_eq_some {P : Schema → Prop} {c : Prop} [Decidable c] {a s : Schema}
    {o : Option Schema} (ha : P a) (ho : o = some s → P s)
    (h : (if c then some a else o) = some s) : P s := by
  by_cases hc : c
  · rw [if_pos hc] at h
    cases h
    exact ha
  · rw [if_neg hc] at h
    exact ho h

theorem isPlain_of_builtin? {name : String} {s : Schema} (h : builtin? name = some s) :
    IsPlain s := by
  unfold builtin? at h
  revert h
  iterate 9 refine of_ite_eq_some (P := IsPlain) ⟨_, _, by decide, rfl⟩ ?_
  intro h
  cases h

theorem underlyingType_ne_array (name : String) : underlyingType name ≠ "array" := by
  unfold underlyingType
  extract_lets base
  split_ifs <;> decide

theorem isPlain_object : IsPlain object := ⟨"object", none, by decide, rfl⟩

theorem isPlain_underlying (name : String) : IsPlain (typed (underlyingType name)) :=
  ⟨_, none, underlyingType_ne_array name, rfl⟩

namespace IsFamily
variable {P : Schema → Prop} (hP : IsFamily P)
include hP

theorem describeField {s : Schema} (f : FieldDef) (h : P s) : P (describeField f s) := by
  unfold Schema.describeField
  split_ifs with hdescribed
  · rw [Bool.and_eq_true, Option.isNone_iff_eq_none] at hdescribed
    exact hP.described _ hdescribed.1 h
  · exact h

/-- The schema of a type is in a family that holds the schemas of all names it asks for. -/
theorem ofType {named : NameSchema} {dir : Option FilePath} {type : TypeExpr}
    (h : ∀ package name t, type.Asks name → P (named package name dir t).1) (bare : Bool)
    (t : SchemaTable) : P (ofType named dir bare type t).1 := by
  induction type using TypeExpr.part_induction generalizing bare t with
  | named name =>
    cases hb : builtin? name with
    | none => simpa only [Schema.ofType, hb] using h none name t (.named hb)
    | some s => simpa only [Schema.ofType, hb] using hP.plain (isPlain_of_builtin? hb)
  | qualified package name =>
    cases hb : builtin? (package ++ "." ++ name) with
    | none => simpa only [Schema.ofType, hb] using h (some package) name t (.qualified hb)
    | some s => simpa only [Schema.ofType, hb] using hP.plain (isPlain_of_builtin? hb)
  | pointer elem ih =>
    have he := ih fun package name t hn => h package name t (.pointer hn)
    simpa only [Schema.ofType] using he bare t
  | slice elem ih =>
    have he := ih fun package name t hn => h package name t (.slice hn)
    cases bare with
    | true => simpa only [Schema.ofType, if_true] using he true t
    | false => simpa [Schema.ofType] using hP.array (he false t)
  | array length elem ih =>
    have he := ih fun package name t hn => h package name t (.array hn)
    cases bare with
    | true => simpa only [Schema.ofType, if_true] using he true t
    | false => simpa [Schema.ofType] using hP.array (he false t)
  | map key value ih =>
    have hv := ih fun package name t hn => h package name t (.map hn)
    simpa only [Schema.ofType] using hP.mapOf (hv false t)
  | base base ih =>
    have hb := ih fun package name t hn => h package name t (.base hn)
    simpa only [Schema.ofType] using hb false t
  | argument base arg rest ih =>
    have ha := ih fun package name t hn => h package name t (TypeExpr.asks_argument.mpr hn)
    simpa only [Schema.ofType] using ha true t
  | struct fields ih =>
    simp only [Schema.ofType, ofInlineFields_eq_ofFields]
    refine hP.fields fun e he => hP.describeField _ ?_
    obtain ⟨hd, t', hs⟩ := mem_ofFields he
    obtain ⟨f, hf, hfd⟩ := List.mem_filterMap.mp hd
    have htype := FieldDef.type_of_ofField? hfd
    rw [hs, htype]
    exact ih f hf (fun package name t hn => h package name t (.field hf hfd (htype ▸ hn))) false t'
  | _ => simpa only [Schema.ofType] using hP.plain isPlain_object

/-- The same for the schema of a model. -/
theorem ofModel {named : NameSchema} {m : Model}
    (h : ∀ package name t, m.kind.Asks name → P (named package name (some m.dir) t).1)
    (t : SchemaTable) : P (ofModel named m t).1 := by
  have hkind : P (ofKind named m t).1 := by
    cases hk : m.kind with
    | struct fields =>
      simp only [ofKind, hk]
      refine hP.fields fun e he => hP.describeField _ ?_
      obtain ⟨hd, t', hs⟩ := mem_ofFields he
      rw [hs]
      exact hP.ofType (fun package name t hn => h package name t (hk ▸ .field hd hn)) false t'
    | enumeration underlying values =>
      simp only [ofKind, hk]
      exact hP.enumeration (underlyingType_ne_array _)
    | synonym type =>
      by_cases hq : ∃ p n, type = .qualified p n
      · obtain ⟨p, n, rfl⟩ := hq
        simp only [ofKind, hk]
        cases hb : builtin? (p ++ "." ++ n) with
        | none => exact hP.plain (isPlain_underlying n)
        | some s => exact hP.plain (isPlain_of_builtin? hb)
      · have hne : ∀ p n, type ≠ .qualified p n := fun p n he => hq ⟨p, n, he⟩
        rw [ofKind_synonym _ hk hne]
        exact hP.ofType (fun package name t hn => h package name t (hk ▸ .synonym hne hn)) false t
  unfold Schema.ofModel
  dsimp only
  split_ifs with hdescribed
  · rw [Bool.and_eq_true, Option.isNone_iff_eq_none, Option.isNone_iff_eq_none] at hdescribed
    exact hP.described _ hdescribed.2 hkind
  · exact hkind

end IsFamily

theorem isFamily_refsSatisfy (P : String → Prop) : IsFamily (RefsSatisfy P) where
  plain h := by
    obtain ⟨type, format, -, rfl⟩ := h
    exact refsSatisfy_iff.mpr (by simp)
  array h := refsSatisfy_array.mpr h
  mapOf h := refsSatisfy_mapOf.mpr h
  fields h := by
    refine refsSatisfy_properties.mpr fun name p hp => ?_
    obtain ⟨e, he, heq⟩ := List.mem_map.mp (KeyMap.mem_of_mem_ofList hp)
    cases heq
    exact h e he
  enumeration _ := refsSatisfy_iff.mpr (by simp)
  described d _ h := h.withDescription d

/-- The references in the schema of a type come from the names that the type asks for. -/
theorem refsSatisfy_shape {P : String → Prop} {f : String → Schema} {type : TypeExpr}
    (h : ∀ name, type.Asks name → (f name).RefsSatisfy P) (bare : Bool) :
    (shape f bare type).RefsSatisfy P :=
  (isFamily_refsSatisfy P).ofType (fun _ name _ => h name) bare {}

end Schema

namespace Model
open Schema

/-- The schema of a model where names have the schemas `f`. -/
def shape (f : String → Schema) (m : Model) : Schema := (ofModel (fixedNames f) m {}).1

theorem refsSatisfy_shape {P : String → Prop} {f : String → Schema} {m : Model}
    (h : ∀ name, m.kind.Asks name → (f name).RefsSatisfy P) : (m.shape f).RefsSatisfy P :=
  (isFamily_refsSatisfy P).ofModel (fun _ name _ => h name) {}

end Model

end RouteDoc
