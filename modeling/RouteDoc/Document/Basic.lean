import RouteDoc.Route.Basic
import RouteDoc.Schema.Basic

/-! OpenAPI documents. -/
namespace RouteDoc

structure Info where
  title : String
  description : Option String
  version : String
deriving DecidableEq, Repr

structure Parameter where
  name : String
  location : String
  description : Option String
  required : Bool
  schema : Schema

/-- Schemas by media type. -/
abbrev Content := KeyMap Schema

structure RequestBody where
  description : Option String
  required : Bool
  content : Content

structure Response where
  description : String
  content : Option Content

structure Operation where
  tags : List String
  summary : Option String
  description : Option String
  operationId : String
  parameters : List Parameter
  requestBody : Option RequestBody
  /-- Responses by status code. -/
  responses : KeyMap Response
  /-- Alternatives, each a map from schemes to scopes. -/
  security : List (KeyMap (List String))

/-- The operations on one path, a slot for each method. -/
structure PathItem where
  get : Option Operation := none
  post : Option Operation := none
  put : Option Operation := none
  delete : Option Operation := none
  patch : Option Operation := none
  options : Option Operation := none
  head : Option Operation := none

structure OAuthFlow where
  authorizationUrl : String
  tokenUrl : String
  scopes : KeyMap String

structure SecurityScheme where
  type : String
  description : Option String
  scheme : Option String
  bearerFormat : Option String
  flow : Option OAuthFlow

structure Tag where
  name : String
  description : Option String
deriving DecidableEq, Repr

structure Document where
  openapi : String
  info : Info
  servers : List String
  paths : KeyMap PathItem
  schemas : KeyMap Schema
  securitySchemes : KeyMap SecurityScheme
  tags : List Tag

namespace PathItem

def slot (item : PathItem) : Method → Option Operation
  | .get => item.get
  | .post => item.post
  | .put => item.put
  | .delete => item.delete
  | .patch => item.patch
  | .options => item.options
  | .head => item.head

def setSlot (item : PathItem) (op : Operation) : Method → PathItem
  | .get => { item with get := some op }
  | .post => { item with post := some op }
  | .put => { item with put := some op }
  | .delete => { item with delete := some op }
  | .patch => { item with patch := some op }
  | .options => { item with options := some op }
  | .head => { item with head := some op }

/-- The operations that are there, in the order of the methods. -/
def operations (item : PathItem) : List (Method × Operation) :=
  Method.all.filterMap fun m => (item.slot m).map (m, ·)

end PathItem

def Operation.schemas (op : Operation) : List Schema :=
  op.parameters.map (·.schema)
    ++ (op.requestBody.map fun b => b.content.values).getD []
    ++ op.responses.values.flatMap fun r => (r.content.map KeyMap.values).getD []

def Document.operations (d : Document) : List (String × Method × Operation) :=
  d.paths.entries.flatMap fun (path, item) => item.operations.map fun (m, op) => (path, m, op)

def Document.operationCount (d : Document) : Nat := d.operations.length

end RouteDoc
