/-! JSON values, and the pieces of which readers of records are built. -/
namespace RouteDoc

/-- A number: an integer, or a decimal fraction `mantissa / 10 ^ places`. -/
inductive Number where
  | int (value : Int)
  | decimal (mantissa : Int) (places : Nat)
deriving DecidableEq, Repr

/-- Objects keep their fields in order. -/
inductive Json where
  | null
  | bool (value : Bool)
  | number (value : Number)
  | string (value : String)
  | array (items : List Json)
  | object (fields : List (String × Json))

namespace Json
variable {α : Type}

instance : Inhabited Json := ⟨null⟩

def int (n : Int) : Json := number (.int n)

def record (fields : List (Option (String × Json))) : Json := object (fields.filterMap id)

def strings (ss : List String) : Json := array (ss.map string)

def field (key : String) (value : Json) : Option (String × Json) := some (key, value)

def fieldIfSome (key : String) (write : α → Json) (value : Option α) : Option (String × Json) :=
  value.map fun a => (key, write a)

def fieldIfAny (key : String) (write : α → Json) (values : List α) : Option (String × Json) :=
  if values.isEmpty then none else some (key, array (values.map write))

def asString? : Json → Option String
  | string s => some s
  | _ => none

def asBool? : Json → Option Bool
  | bool b => some b
  | _ => none

/-- The fields of a record. Beside an object, an array of values in the order of the keys is taken for
one; it may stop before keys that have a default. -/
def asRecord? (keys defaults : List String) : Json → Option (List (String × Json))
  | object fields => some fields
  | array items =>
    if items.length ≤ keys.length && (keys.drop items.length).all defaults.contains then
      some (keys.zip items)
    else none
  | _ => none

def asList? (read : Json → Option α) : Json → Option (List α)
  | array items => items.mapM read
  | _ => none

def asEntries? (read : Json → Option α) : Json → Option (List (String × α))
  | object fields => fields.mapM fun (k, v) => (read v).map (k, ·)
  | _ => none

end Json

variable {α : Type}

def requiredField (fields : List (String × Json)) (key : String) (read : Json → Option α) : Option α :=
  (fields.lookup key).bind read

/-- A field that may be missing or null. -/
def optionalField (fields : List (String × Json)) (key : String) (read : Json → Option α) :
    Option (Option α) :=
  match fields.lookup key with
  | none => some none
  | some .null => some none
  | some v => (read v).map some

/-- A field with a value to take when it is missing. -/
def fieldOr (fields : List (String × Json)) (key : String) (value : α) (read : Json → Option α) :
    Option α :=
  match fields.lookup key with
  | none => some value
  | some v => read v

end RouteDoc
