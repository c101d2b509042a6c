import RouteDoc.Disk.Path
import RouteDoc.Go.Literal
import RouteDoc.Go.TypeText
import RouteDoc.Json.Basic

/-! Models: the type declarations that schemas are made from, and the search for the model that a
name refers to. -/
namespace RouteDoc
open Go Disk

structure FieldDef where
  jsonName : String
  type : TypeExpr
  required : Bool
  description : Option String

inductive ModelKind where
  | struct (fields : List FieldDef)
  /-- A named type whose name marks it as an enumeration, with the values of its constants. -/
  | enumeration (underlying : String) (values : List Json)
  /-- Any other type; its schema is that of the type it is declared as. -/
  | synonym (type : TypeExpr)

structure Model where
  name : String
  package : String
  dir : FilePath
  description : Option String
  kind : ModelKind

def enumSuffix : String := "Enum"

def docText (doc : List String) : Option String :=
  if doc.isEmpty then none else some (String.intercalate " " doc)

def commaParts (s : String) : List String := (s.toList.splitOn ',').map String.ofList

/-- A field is serialized when its `json` tag gives it a name. It may be left out of an object only
if it is tagged `omitempty` and no validation rule requires it. -/
def FieldDef.ofField? (f : Field) : Option FieldDef := do
  let json ← f.tagValue? "json"
  let name :: options := commaParts json | none
  if name == "" || name == "-" then none
  let rules := ((f.tagValue? "validate").map commaParts).getD []
  let validated := rules.any fun r => String.ofList (Text.trim r.toList) == "required"
  some {
    jsonName := name
    type := f.type
    required := !options.contains "omitempty" || validated
    description := docText f.doc }

/-- The value of a constant in an enumeration: a string, or a decimal integer that fits in 64 bits. -/
def enumValue? : Expr → Option Json
  | .lit ⟨.string, text⟩ => some (.string (unquote text))
  | .lit ⟨.int, text⟩ =>
    if text.toList.all Char.isDigit then
      let n : Nat := text.toList.foldl (fun n c => 10 * n + (c.toNat - 48)) 0
      if n < Nat.pow 2 63 then some (.int n) else none
    else none
  | _ => none

def enumValues (name : String) (consts : List ValueSpec) : List Json :=
  consts.flatMap fun spec =>
    match spec.type with
    | some (.named n) => if n = name then spec.values.filterMap enumValue? else []
    | _ => []

def ModelKind.ofSpec (spec : TypeSpec) (consts : List ValueSpec) : ModelKind :=
  let enumeration (t : TypeExpr) : ModelKind :=
    if enumSuffix.toList.isSuffixOf spec.name.toList then
      .enumeration t.render (enumValues spec.name consts)
    else .synonym t
  match spec.type with
  | .struct fields => .struct (fields.filterMap FieldDef.ofField?)
  | .named n => enumeration (.named n)
  | .qualified p n => enumeration (.qualified p n)
  | t => .synonym t

def Model.ofFile (path : FilePath) (f : File) : List Model :=
  f.types.map fun spec =>
    { name := spec.name
      package := f.package
      dir := (FilePath.parent? path).getD ""
      description := docText spec.doc
      kind := ModelKind.ofSpec spec f.consts }

structure ModelIndex where
  root : FilePath
  /-- In the order of the files. -/
  models : List Model

namespace ModelIndex

def ofFiles (root : FilePath) (files : List (FilePath × File)) : ModelIndex :=
  ⟨root, files.flatMap fun (path, f) => Model.ofFile path f⟩

/-- The directory of a package: `orders_models` lies in `orders`. -/
def packageDir (index : ModelIndex) (package : String) : FilePath :=
  let dir := ("_models".toList.isSuffixOf? package.toList).map String.ofList
  FilePath.join index.root (dir.getD package)

def named (index : ModelIndex) (name : String) : List Model :=
  index.models.filter fun m => m.name == name

/-- The model that a name refers to: the first in the package that qualifies it, else the first in
the directory where the name is used, else the first of all. -/
def find? (index : ModelIndex) (package : Option String) (name : String) (dir : Option FilePath) :
    Option Model :=
  let candidates := index.named name
  let inPackage := package.bind fun p =>
    candidates.find? fun m => FilePath.isUnder m.dir (index.packageDir p) || m.package == p
  let inDir := dir.bind fun d => candidates.find? fun m => FilePath.same m.dir d
  inPackage <|> inDir <|> candidates.head?

def contains (index : ModelIndex) (name : String) : Bool := !(index.named name).isEmpty

def size (index : ModelIndex) : Nat := index.models.length

end ModelIndex

end RouteDoc
