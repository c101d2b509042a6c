import RouteDoc.Schema.Basic

/-! Schemas as JSON. Absent parts are left out when written; when read, null counts as absent. -/
namespace RouteDoc.Schema
open Json (fieldIfSome)

mutual
def toJson : Schema → Json
  | ⟨ref, type, format, description, properties, required, items, enumValues, additional⟩ =>
    .record [
      fieldIfSome "$ref" .string ref,
      fieldIfSome "type" .string type,
      fieldIfSome "format" .string format,
      fieldIfSome "description" .string description,
      (propertiesJson properties).map ("properties", ·),
      fieldIfSome "required" .strings required,
      (optionJson items).map ("items", ·),
      fieldIfSome "enum" .array enumValues,
      (optionJson additional).map ("additionalProperties", ·)]

def optionJson : Option Schema → Option Json
  | none => none
  | some s => some s.toJson

def propertiesJson : Option (List (String × Schema)) → Option Json
  | none => none
  | some entries => some (.object (entriesJson entries))

def entriesJson : List (String × Schema) → List (String × Json)
  | [] => []
  | (k, s) :: rest => (k, s.toJson) :: entriesJson rest
end

/-- An optional part: null counts as absent. -/
def part? {α : Type} (read : Json → Option α) : Json → Option (Option α)
  | .null => some none
  | j => (read j).map some

mutual
def ofJson? : Json → Option Schema
  | .object fields => ofFields? fields
  | .array items => ofItems? items
  | _ => none

/-- Reads the parts of a schema from an array that holds all of them in order. -/
def ofItems? : List Json → Option Schema
  | [ref, type, format, description, properties, required, items, enumValues, additional] => do
    some {
      ref := ← part? Json.asString? ref
      type := ← part? Json.asString? type
      format := ← part? Json.asString? format
      description := ← part? Json.asString? description
      properties := ← propertiesOf? properties
      required := ← part? (Json.asList? Json.asString?) required
      items := ← optionOf? items
      enumValues := ← part? (Json.asList? some) enumValues
      additional := ← optionOf? additional }
  | _ => none

/-- Reads the fields of an object. Unknown fields are ignored. -/
def ofFields? : List (String × Json) → Option Schema
  | [] => some {}
  | (key, value) :: rest => do
    let s ← ofFields? rest
    match key with
    | "$ref" => some { s with ref := ← part? Json.asString? value }
    | "type" => some { s with type := ← part? Json.asString? value }
    | "format" => some { s with format := ← part? Json.asString? value }
    | "description" => some { s with description := ← part? Json.asString? value }
    | "properties" => some { s with properties := ← propertiesOf? value }
    | "required" => some { s with required := ← part? (Json.asList? Json.asString?) value }
    | "items" => some { s with items := ← optionOf? value }
    | "enum" => some { s with enumValues := ← part? (Json.asList? some) value }
    | "additionalProperties" => some { s with additional := ← optionOf? value }
    | _ => some s

def optionOf? : Json → Option (Option Schema)
  | .null => some none
  | .object fields => (ofFields? fields).map some
  | .array items => (ofItems? items).map some
  | _ => none

def propertiesOf? : Json → Option (Option (List (String × Schema)))
  | .null => some none
  | .object fields => (entriesOf? fields).map fun entries => some (KeyMap.ofList entries).entries
  | _ => none

def entriesOf? : List (String × Json) → Option (List (String × Schema))
  | [] => some []
  | (k, v) :: rest => do
    let s ← ofJson? v
    let rest ← entriesOf? rest
    some ((k, s) :: rest)
end

end RouteDoc.Schema
