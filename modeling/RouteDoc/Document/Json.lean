import RouteDoc.Document.Basic
import RouteDoc.Schema.Json

/-! OpenAPI documents as JSON. Empty and absent parts are left out where the format allows it. -/
namespace RouteDoc
open Json (field fieldIfSome fieldIfAny asString? asBool? asRecord? asList? asEntries?)

def KeyMap.toJson {α : Type} (write : α → Json) (m : KeyMap α) : Json :=
  .object (m.entries.map fun (k, v) => (k, write v))

def KeyMap.ofJson? {α : Type} (read : Json → Option α) (j : Json) : Option (KeyMap α) :=
  (asEntries? read j).map .ofList

/-- A map that is written unless it is empty. -/
def fieldIfFull {α : Type} (key : String) (write : α → Json) (m : KeyMap α) :
    Option (String × Json) :=
  if m.isEmpty then none else some (key, m.toJson write)

def fieldIfText (key : String) (s : String) : Option (String × Json) :=
  if s = "" then none else some (key, .string s)

def strings? : Json → Option (List String) := asList? asString?

def Info.toJson (i : Info) : Json :=
  .record [
    field "title" (.string i.title),
    fieldIfSome "description" .string i.description,
    field "version" (.string i.version)]

def Parameter.toJson (p : Parameter) : Json :=
  .record [
    field "name" (.string p.name),
    field "in" (.string p.location),
    fieldIfSome "description" .string p.description,
    field "required" (.bool p.required),
    field "schema" p.schema.toJson]

def mediaJson (s : Schema) : Json := .object [("schema", s.toJson)]

def RequestBody.toJson (b : RequestBody) : Json :=
  .record [
    fieldIfSome "description" .string b.description,
    field "required" (.bool b.required),
    field "content" (b.content.toJson mediaJson)]

def Response.toJson (r : Response) : Json :=
  .record [
    field "description" (.string r.description),
    fieldIfSome "content" (KeyMap.toJson mediaJson) r.content]

def Operation.toJson (op : Operation) : Json :=
  .record [
    fieldIfAny "tags" .string op.tags,
    fieldIfSome "summary" .string op.summary,
    fieldIfSome "description" .string op.description,
    field "operationId" (.string op.operationId),
    fieldIfAny "parameters" Parameter.toJson op.parameters,
    fieldIfSome "requestBody" RequestBody.toJson op.requestBody,
    field "responses" (op.responses.toJson Response.toJson),
    fieldIfAny "security" (KeyMap.toJson .strings) op.security]

def PathItem.toJson (item : PathItem) : Json :=
  .record [
    fieldIfSome "get" Operation.toJson item.get,
    fieldIfSome "post" Operation.toJson item.post,
    fieldIfSome "put" Operation.toJson item.put,
    fieldIfSome "delete" Operation.toJson item.delete,
    fieldIfSome "patch" Operation.toJson item.patch,
    fieldIfSome "options" Operation.toJson item.options,
    fieldIfSome "head" Operation.toJson item.head]

def OAuthFlow.toJson (f : OAuthFlow) : Json :=
  .record [
    fieldIfText "authorizationUrl" f.authorizationUrl,
    fieldIfText "tokenUrl" f.tokenUrl,
    field "scopes" (f.scopes.toJson .string)]

def SecurityScheme.toJson (s : SecurityScheme) : Json :=
  .record [
    field "type" (.string s.type),
    fieldIfSome "description" .string s.description,
    fieldIfSome "scheme" .string s.scheme,
    fieldIfSome "bearerFormat" .string s.bearerFormat,
    fieldIfSome "flows" (fun f => .object [("authorizationCode", f.toJson)]) s.flow]

def Tag.toJson (t : Tag) : Json :=
  .record [
    field "name" (.string t.name),
    fieldIfSome "description" .string t.description]

def Document.toJson (d : Document) : Json :=
  .record [
    field "openapi" (.string d.openapi),
    field "info" d.info.toJson,
    fieldIfAny "servers" (fun url => .object [("url", .string url)]) d.servers,
    field "paths" (d.paths.toJson PathItem.toJson),
    field "components" (.record [
      fieldIfFull "schemas" Schema.toJson d.schemas,
      fieldIfFull "securitySchemes" SecurityScheme.toJson d.securitySchemes]),
    fieldIfAny "tags" Tag.toJson d.tags]

def Info.ofJson? (j : Json) : Option Info := do
  let fields ← j.asRecord? ["title", "description", "version"] []
  some {
    title := ← requiredField fields "title" asString?
    description := ← optionalField fields "description" asString?
    version := ← requiredField fields "version" asString? }

def Parameter.ofJson? (j : Json) : Option Parameter := do
  let fields ← j.asRecord? ["name", "in", "description", "required", "schema"] []
  some {
    name := ← requiredField fields "name" asString?
    location := ← requiredField fields "in" asString?
    description := ← optionalField fields "description" asString?
    required := ← requiredField fields "required" asBool?
    schema := ← requiredField fields "schema" Schema.ofJson? }

def media? (j : Json) : Option Schema := do
  let fields ← j.asRecord? ["schema"] []
  requiredField fields "schema" Schema.ofJson?

def RequestBody.ofJson? (j : Json) : Option RequestBody := do
  let fields ← j.asRecord? ["description", "required", "content"] []
  some {
    description := ← optionalField fields "description" asString?
    required := ← requiredField fields "required" asBool?
    content := ← requiredField fields "content" (KeyMap.ofJson? media?) }

def Response.ofJson? (j : Json) : Option Response := do
  let fields ← j.asRecord? ["description", "content"] []
  some {
    description := ← requiredField fields "description" asString?
    content := ← optionalField fields "content" (KeyMap.ofJson? media?) }

def Operation.ofJson? (j : Json) : Option Operation := do
  let fields ← j.asRecord? ["tags", "summary", "description", "operationId", "parameters", "requestBody",
    "responses", "security"] ["tags", "parameters", "security"]
  some {
    tags := ← fieldOr fields "tags" [] strings?
    summary := ← optionalField fields "summary" asString?
    description := ← optionalField fields "description" asString?
    operationId := ← requiredField fields "operationId" asString?
    parameters := ← fieldOr fields "parameters" [] (asList? Parameter.ofJson?)
    requestBody := ← optionalField fields "requestBody" RequestBody.ofJson?
    responses := ← requiredField fields "responses" (KeyMap.ofJson? Response.ofJson?)
    security := ← fieldOr fields "security" [] (asList? (KeyMap.ofJson? strings?)) }

def PathItem.ofJson? (j : Json) : Option PathItem := do
  let fields ← j.asRecord? ["get", "post", "put", "delete", "patch", "options", "head"] []
  some {
    get := ← optionalField fields "get" Operation.ofJson?
    post := ← optionalField fields "post" Operation.ofJson?
    put := ← optionalField fields "put" Operation.ofJson?
    delete := ← optionalField fields "delete" Operation.ofJson?
    patch := ← optionalField fields "patch" Operation.ofJson?
    options := ← optionalField fields "options" Operation.ofJson?
    head := ← optionalField fields "head" Operation.ofJson? }

def OAuthFlow.ofJson? (j : Json) : Option OAuthFlow := do
  let fields ← j.asRecord? ["authorizationUrl", "tokenUrl", "scopes"] ["authorizationUrl", "tokenUrl"]
  some {
    authorizationUrl := ← fieldOr fields "authorizationUrl" "" asString?
    tokenUrl := ← fieldOr fields "tokenUrl" "" asString?
    scopes := ← requiredField fields "scopes" (KeyMap.ofJson? asString?) }

def OAuthFlow.ofFlows? (j : Json) : Option OAuthFlow := do
  let fields ← j.asRecord? ["authorizationCode"] []
  requiredField fields "authorizationCode" OAuthFlow.ofJson?

def SecurityScheme.ofJson? (j : Json) : Option SecurityScheme := do
  let fields ← j.asRecord? ["type", "description", "scheme", "bearerFormat", "flows"] []
  some {
    type := ← requiredField fields "type" asString?
    description := ← optionalField fields "description" asString?
    scheme := ← optionalField fields "scheme" asString?
    bearerFormat := ← optionalField fields "bearerFormat" asString?
    flow := ← optionalField fields "flows" OAuthFlow.ofFlows? }

def Tag.ofJson? (j : Json) : Option Tag := do
  let fields ← j.asRecord? ["name", "description"] []
  some {
    name := ← requiredField fields "name" asString?
    description := ← optionalField fields "description" asString? }

def serverUrl? (j : Json) : Option String := do
  let fields ← j.asRecord? ["url"] []
  requiredField fields "url" asString?

def Document.ofJson? (j : Json) : Option Document := do
  let fields ← j.asRecord? ["openapi", "info", "servers", "paths", "components", "tags"] ["servers", "tags"]
  let components ← requiredField fields "components"
    (asRecord? ["schemas", "securitySchemes"] ["schemas", "securitySchemes"])
  some {
    openapi := ← requiredField fields "openapi" asString?
    info := ← requiredField fields "info" Info.ofJson?
    servers := ← fieldOr fields "servers" [] (asList? serverUrl?)
    paths := ← requiredField fields "paths" (KeyMap.ofJson? PathItem.ofJson?)
    schemas := ← fieldOr components "schemas" {} (KeyMap.ofJson? Schema.ofJson?)
    securitySchemes :=
      ← fieldOr components "securitySchemes" {} (KeyMap.ofJson? SecurityScheme.ofJson?)
    tags := ← fieldOr fields "tags" [] (asList? Tag.ofJson?) }

end RouteDoc
