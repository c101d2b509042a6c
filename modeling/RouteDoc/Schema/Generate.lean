import RouteDoc.Model
import RouteDoc.Schema.Basic

/-! Schemas of Go types. Schemas of models go into a table, and are referred to by name. -/
namespace RouteDoc
open Disk Go

/-- The schema for a name, its package if it is qualified, and the directory of its use. -/
abbrev NameSchema := Option String → String → Option FilePath → SchemaTable → Schema × SchemaTable

namespace Schema

/-- A field's description belongs to its schema unless that is a reference. -/
def describeField (f : FieldDef) (s : Schema) : Schema :=
  if s.ref.isNone && f.description.isSome then { s with description := f.description } else s

def ofFieldSchemas (fields : List (FieldDef × Schema)) : Schema :=
  let required := (fields.filter fun (f, _) => f.required).map fun (f, _) => f.jsonName
  { type := some "object"
    properties :=
      some (KeyMap.ofList (fields.map fun (f, s) => (f.jsonName, describeField f s))).entries
    required := if required.isEmpty then none else some required }

section
variable (named : NameSchema) (dir : Option FilePath)

mutual
/-- The schema of a type. Of a generic type only the first argument counts, and of that argument the
type under pointers, slices and arrays; `bare` says that these are to be dropped. -/
def ofType (bare : Bool) : TypeExpr → SchemaTable → Schema × SchemaTable
  | .named name, t =>
    match builtin? name with
    | some s => (s, t)
    | none => named none name dir t
  | .qualified package name, t =>
    match builtin? (package ++ "." ++ name) with
    | some s => (s, t)
    | none => named (some package) name dir t
  | .pointer elem, t => ofType bare elem t
  | .slice elem, t =>
    if bare then ofType true elem t
    else let (s, t) := ofType false elem t; (array s, t)
  | .array _ elem, t =>
    if bare then ofType true elem t
    else let (s, t) := ofType false elem t; (array s, t)
  | .map _ value, t => let (s, t) := ofType false value t; (mapOf s, t)
  | .generic base [], t => ofType false base t
  | .generic _ (arg :: _), t => ofType true arg t
  | .struct fields, t => let (fs, t) := ofInlineFields fields t; (ofFieldSchemas fs, t)
  | .interface, t => (object, t)
  | .func, t => (object, t)
  | .chan _, t => (object, t)
  | .other _, t => (object, t)

def ofInlineFields : List Field → SchemaTable → List (FieldDef × Schema) × SchemaTable
  | [], t => ([], t)
  | ⟨names, type, tag, doc⟩ :: rest, t =>
    match FieldDef.ofField? ⟨names, type, tag, doc⟩ with
    | none => ofInlineFields rest t
    | some f =>
      let (s, t) := ofType false type t
      let (fs, t) := ofInlineFields rest t
      ((f, s) :: fs, t)
end

def ofFields : List FieldDef → SchemaTable → List (FieldDef × Schema) × SchemaTable
  | [], t => ([], t)
  | f :: rest, t =>
    let (s, t) := ofType named dir false f.type t
    let (fs, t) := ofFields rest t
    ((f, s) :: fs, t)
end

/-- The schema of a model without its doc comment. -/
def ofKind (named : NameSchema) (m : Model) (t : SchemaTable) : Schema × SchemaTable :=
  match m.kind with
  | .struct fields => let (fs, t) := ofFields named (some m.dir) fields t; (ofFieldSchemas fs, t)
  | .enumeration underlying values =>
    ({ type := some (underlyingType underlying)
       description := some ("Enum type: " ++ m.name)
       enumValues := if values.isEmpty then none else some values }, t)
  | .synonym (.qualified package name) =>
    ((builtin? (package ++ "." ++ name)).getD (typed (underlyingType name)), t)
  | .synonym type => ofType named (some m.dir) false type t

def ofModel (named : NameSchema) (m : Model) (t : SchemaTable) : Schema × SchemaTable :=
  let (s, t) := ofKind named m t
  (if s.description.isNone && s.ref.isNone then { s with description := m.description } else s, t)

/-- The schema for a name: a reference to an entry of the table, which is made if it is new, or an
open object where there is no such model. While an entry is made its name is in progress, so that a
model that leads back to itself gets a reference. The fuel bounds how many names get in progress. -/
def ofName (index : ModelIndex) : Nat → NameSchema
  | 0 => fun _ _ _ t => (object, t)
  | fuel + 1 => fun package name dir t =>
    if t.contains name || t.inProgress.contains name then (reference name, t)
    else if t.missing.contains name then (object, t)
    else match index.find? package name dir with
      | none => (object, t.addMissing name)
      | some m =>
        let (s, t) := ofModel (ofName index fuel) m (t.start name)
        (reference name, t.complete name s)

end Schema

namespace ModelIndex

/-- The schema of a type, and the table with the schemas that it needs. No name gets in progress twice
and each is that of a model, so their number is bounded by that of the models. -/
def schemaOf (index : ModelIndex) (type : TypeExpr) (dir : Option FilePath) (t : SchemaTable) :
    Schema × SchemaTable :=
  Schema.ofType (Schema.ofName index (index.size + 1)) dir false type t

def schemaOfText (index : ModelIndex) (text : String) (t : SchemaTable) : Schema × SchemaTable :=
  index.schemaOf (.ofText text) none t

end ModelIndex

end RouteDoc
