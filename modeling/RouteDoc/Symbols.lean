import RouteDoc.Go.TypeText
import RouteDoc.KeyMap

/-! What the files of one directory declare: functions, import names and struct fields. -/
namespace RouteDoc
open Go

/-- Of several declarations of one name the last counts. -/
structure Symbols where
  functions : KeyMap FuncDecl := {}
  imports : KeyMap String := {}
  /-- Types of struct fields as text, by struct and field, with full package names. -/
  fields : KeyMap (KeyMap String) := {}

def Go.File.importMap (f : File) : KeyMap String :=
  .ofList (f.imports.map fun i => (i.localName, i.packageName))

/-- The name of a package as the importing file writes it, replaced by its own. -/
def KeyMap.resolve (imports : KeyMap String) (package : String) : String :=
  (imports.get? package).getD package

namespace Symbols

def addImports (s : Symbols) (imports : KeyMap String) : Symbols :=
  { s with imports := imports.entries.foldl (fun m (k, v) => m.insert k v) s.imports }

def addFunction (s : Symbols) (d : FuncDecl) : Symbols :=
  { s with functions := s.functions.insert d.name d }

def addField (s : Symbols) (struct field type : String) : Symbols :=
  let fields := ((s.fields.get? struct).getD {}).insert field type
  { s with fields := s.fields.insert struct fields }

/-- Adds the fields of a struct declaration; other types have none. -/
def addStruct (imports : KeyMap String) (s : Symbols) (spec : TypeSpec) : Symbols :=
  match spec.type with
  | .struct fields =>
    fields.foldl (fun s f =>
      let type := (f.type.mapPackages imports.resolve).render
      f.names.foldl (fun s name => s.addField spec.name name type) s) s
  | _ => s

def addFile (s : Symbols) (f : File) : Symbols :=
  let imports := f.importMap
  let s := s.addImports imports
  let s := f.functions.foldl addFunction s
  f.types.foldl (addStruct imports) s

def ofFiles (files : List File) : Symbols := files.foldl addFile {}

def function? (s : Symbols) (name : String) : Option FuncDecl := s.functions.get? name

def package? (s : Symbols) (name : String) : Option String := s.imports.get? name

def fieldType? (s : Symbols) (struct field : String) : Option String :=
  (s.fields.get? struct).bind (·.get? field)

def typeText (s : Symbols) (t : TypeExpr) : String := (t.mapPackages s.imports.resolve).render

end Symbols

end RouteDoc
