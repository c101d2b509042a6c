import RouteDoc.Json.Basic
import RouteDoc.KeyMap
import RouteDoc.Text.Basic

/-! Schemas: descriptions of JSON values, which refer to each other by name. Those of predeclared types
are fixed; those of models stand in a table. -/
namespace RouteDoc

/-- Every part is optional; a reference stands alone. -/
structure Schema where
  ref : Option String := none
  type : Option String := none
  format : Option String := none
  description : Option String := none
  /-- By name, in the order of the names. -/
  properties : Option (List (String × Schema)) := none
  required : Option (List String) := none
  items : Option Schema := none
  enumValues : Option (List Json) := none
  /-- What the values of a map are. -/
  additional : Option Schema := none

namespace Schema

instance : Inhabited Schema := ⟨{}⟩

def refStart : String := "#/components/schemas/"

def typed (type : String) : Schema := { type := some type }

def formatted (type format : String) : Schema := { type := some type, format := some format }

/-- An object of which nothing more is known. -/
def object : Schema := typed "object"

def array (items : Schema) : Schema := { type := some "array", items := some items }

/-- An object with any names and values of one kind. -/
def mapOf (values : Schema) : Schema := { type := some "object", additional := some values }

def reference (name : String) : Schema := { ref := some (refStart ++ name) }

/-- An object with the given properties, all required. -/
def objectWith (properties : List (String × Schema)) : Schema :=
  { type := some "object"
    properties := some (KeyMap.ofList properties).entries
    required := some (properties.map (·.1)) }

def errorObject : Schema :=
  { type := some "object", properties := some [("error", typed "string")] }

/-- The name that a reference to a named schema holds. -/
def refName? (s : Schema) : Option String :=
  s.ref.bind fun r => (refStart.toList.isPrefixOf? r.toList).map String.ofList

mutual
/-- The names of all schemas referred to, at any depth, in the order of the text. -/
def refs : Schema → List String
  | ⟨ref, _, _, _, properties, _, items, _, additional⟩ =>
    ({ ref } : Schema).refName?.toList ++ propertyRefs properties ++ optionRefs items
      ++ optionRefs additional

def optionRefs : Option Schema → List String
  | none => []
  | some s => s.refs

def propertyRefs : Option (List (String × Schema)) → List String
  | none => []
  | some entries => entryRefs entries

def entryRefs : List (String × Schema) → List String
  | [] => []
  | (_, s) :: rest => s.refs ++ entryRefs rest
end

def refNames (s : Schema) : List String :=
  (KeyMap.ofList (s.refs.map fun name => (name, ()))).keys

def builtin? (name : String) : Option Schema :=
  if name == "string" then some (typed "string")
  else if ["int", "int8", "int16", "int32", "int64", "rune"].contains name then
    some (formatted "integer" "int64")
  else if ["uint", "uint8", "uint16", "uint32", "uint64", "byte", "uintptr"].contains name then
    some (formatted "integer" "uint64")
  else if name == "float32" then some (formatted "number" "float")
  else if name == "float64" then some (formatted "number" "double")
  else if name == "bool" then some (typed "boolean")
  else if ["object", "any", "interface\x7b\x7d"].contains name then some object
  else if ["time.Time", "Time"].contains name then some (formatted "string" "date-time")
  else if ["uid.UID", "UID", "uuid.UUID"].contains name then some (formatted "string" "uuid")
  else none

def underlyingType (name : String) : String :=
  let base := Text.lastPiece '.' name.toList
  if "int".toList.isPrefixOf base || "uint".toList.isPrefixOf base then "integer"
  else if "float".toList.isPrefixOf base then "number"
  else if base == "bool".toList then "boolean"
  else "string"

end Schema

structure SchemaTable extends KeyMap Schema where
  /-- Names of the models whose entry is being made. -/
  inProgress : List String := []
  /-- Names that were looked up in vain. -/
  missing : List String := []

namespace SchemaTable

instance : EmptyCollection SchemaTable := ⟨{ toKeyMap := {} }⟩

instance : Inhabited SchemaTable := ⟨{}⟩

def start (t : SchemaTable) (name : String) : SchemaTable :=
  { t with inProgress := name :: t.inProgress }

def complete (t : SchemaTable) (name : String) (s : Schema) : SchemaTable :=
  { t with toKeyMap := t.insert name s, inProgress := t.inProgress.erase name }

def addMissing (t : SchemaTable) (name : String) : SchemaTable :=
  { t with missing := name :: t.missing }

end SchemaTable

end RouteDoc
