import RouteDoc.Document.Basic
import RouteDoc.Endpoint.Basic

/-! Documents in the making: endpoints are added one by one, and the table of schemas at the end. -/
namespace RouteDoc

structure Draft where
  info : Info
  servers : List String := []
  paths : KeyMap PathItem := {}
  /-- In the order of their first use. -/
  tags : List Tag := []
  securitySchemes : KeyMap SecurityScheme
  scopes : KeyMap String := {}

/-- A successful response has its payload under `data`. -/
def wrapResponse (s : Schema) (status : String) : Schema :=
  match status.toList with
  | '4' :: _ => s
  | '5' :: _ => s
  | _ => { type := some "object", properties := some [("data", s)] }

/-- The method in small letters and the handler, without stars and the ending `Controller`. -/
def operationId (m : Method) (handler : String) : String :=
  let name := handler.toList.dropWhile (· == '*')
  let name := ("Controller".toList.isSuffixOf? name).getD name
  String.ofList (Text.lower m.name.toList ++ '_' :: name)

def Param.toParameter (p : Param) : Parameter :=
  ⟨p.name, p.location.name, some p.description, p.required, p.schema⟩

def Body.toRequestBody (b : Body) : RequestBody :=
  ⟨some b.description, b.required, .singleton b.contentType b.schema⟩

def Reply.toResponse (r : Reply) (status : String) : Response :=
  { description := r.description
    content := match r.contentType, r.schema with
      | some type, some schema => some (.singleton type (wrapResponse schema status))
      | _, _ => none }

/-- The response that every operation has, unless it describes another for the same status. -/
def badRequest : Response := ⟨"Bad Request", some (.singleton jsonContent .errorObject)⟩

namespace Endpoint

def slot (e : Endpoint) : String × Method := (Path.template e.path, e.method)

def responseMap (e : Endpoint) : KeyMap Response :=
  let described : KeyMap Response :=
    .ofList (e.responses.entries.map fun (status, r) => (status, r.toResponse status))
  described.insertIfNew "400" badRequest

def toOperation (e : Endpoint) : Operation :=
  { tags := e.tags
    summary := e.summary
    description := e.description
    operationId := operationId e.method e.handler
    parameters := e.parameters.map Param.toParameter
    requestBody := e.requestBody.map Body.toRequestBody
    responses := e.responseMap
    security := e.security.map fun r => .singleton r.name r.scopes }

end Endpoint

namespace Draft

def bearer : SecurityScheme :=
  { type := "http"
    description := some "JWT Bearer token authentication"
    scheme := some "bearer"
    bearerFormat := some "JWT"
    flow := none }

def start : Draft :=
  { info := ⟨"API", none, "1.0.0"⟩, securitySchemes := .singleton bearerScheme bearer }

def addTag (tags : List Tag) (name : String) : List Tag :=
  if tags.any fun t => t.name == name then tags
  else tags ++ [⟨name, some (name ++ " related endpoints")⟩]

def addScope (scopes : KeyMap String) (scope : String) : KeyMap String :=
  scopes.insert scope ("Permission: " ++ scope)

/-- Puts the operation of an endpoint in its slot, where it replaces the one that was there. -/
def addOperation (paths : KeyMap PathItem) (e : Endpoint) : KeyMap PathItem :=
  paths.insert e.slot.1 (((paths.get? e.slot.1).getD {}).setSlot e.toOperation e.slot.2)

def addEndpoint (d : Draft) (e : Endpoint) : Draft :=
  { d with
    paths := addOperation d.paths e
    tags := e.tags.foldl addTag d.tags
    scopes := (e.security.flatMap (·.scopes)).foldl addScope d.scopes }

def permissions (scopes : KeyMap String) (authorizationUrl tokenUrl : String) : SecurityScheme :=
  { type := "oauth2"
    description := some "OAuth2 with permission scopes extracted from middleware"
    scheme := none
    bearerFormat := none
    flow := some ⟨authorizationUrl, tokenUrl, scopes⟩ }

/-- Adds the scheme that offers all scopes met so far, if there are any. -/
def addPermissions (d : Draft) (authorizationUrl tokenUrl : String) : Draft :=
  if d.scopes.isEmpty then d
  else { d with
    securitySchemes :=
      d.securitySchemes.insert permissionsScheme (permissions d.scopes authorizationUrl tokenUrl) }

def refs (d : Draft) (table : SchemaTable) : List String :=
  (d.paths.values.flatMap fun item =>
      item.operations.flatMap fun (_, op) => op.schemas.flatMap Schema.refs)
    ++ table.values.flatMap Schema.refs

/-- The document. What is referred to and not in the table becomes an open object. -/
def finish (d : Draft) (table : SchemaTable) : Document :=
  { openapi := "3.0.0"
    info := d.info
    servers := d.servers
    paths := d.paths
    schemas := (d.refs table).foldl (fun t name => t.insertIfNew name .object) table.toKeyMap
    securitySchemes := d.securitySchemes
    tags := d.tags }

end Draft

end RouteDoc
