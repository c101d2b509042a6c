import RouteDoc.Endpoint.Inference
import RouteDoc.Endpoint.Security
import RouteDoc.Go.Walk
import RouteDoc.Schema.Generate

/-! Endpoints from routes: the handler's doc comment and the calls in its body tell what it takes and
returns. -/
namespace RouteDoc
open Go

namespace Context
variable (ctx : Context) (receiver : String)

def bindValue (vars : KeyMap String) (name : String) (value : Expr) : KeyMap String :=
  if name = "_" then vars
  else match (ctx.infer receiver vars value).2 with
    | some type => vars.insert name type
    | none => vars

/-- The variables of one specification. A declared type counts before a value. -/
def bindSpec (vars : KeyMap String) (spec : ValueSpec) : KeyMap String :=
  match spec.type with
  | some type =>
    spec.names.foldl (fun vars name => vars.insert name (ctx.symbols.typeText type)) vars
  | none =>
    (spec.names.zip spec.values).foldl
      (fun vars (name, value) => ctx.bindValue receiver vars name value) vars

/-- The effect of a node on the types of variables. A single call on the right gives its type to the
first variable on the left that holds no error. -/
def bindNode (vars : KeyMap String) : Node → KeyMap String
  | .stmt (.var specs) => specs.foldl (ctx.bindSpec receiver) vars
  | .stmt (.define targets [.call func args]) =>
    match (targets.filterMap Expr.asIdent?).find? fun n => n != "err" && n != "_" with
    | some name => ctx.bindValue receiver vars name (.call func args)
    | none => vars
  | .stmt (.define targets values) =>
    (targets.zip values).foldl
      (fun vars (target, value) =>
        match target.asIdent? with
        | some name => ctx.bindValue receiver vars name value
        | none => vars) vars
  | _ => vars

def variableTypes (body : List Stmt) : KeyMap String :=
  (stmtNodes body).foldl (ctx.bindNode receiver) {}

end Context

structure HandlerFacts where
  parameters : List Param := []
  requestBody : Option Body := none
  responses : KeyMap Reply := {}
  table : SchemaTable

/-- Adds a parameter unless one of its name is there in the same place. -/
def addParam (ps : List Param) (p : Param) : List Param :=
  if ps.any fun q => q.name == p.name && q.location == p.location then ps else ps ++ [p]

def pathParam (name : String) (schema : Schema) : Param :=
  ⟨name, .path, true, "Path parameter: " ++ name, schema⟩

def queryParam : Param :=
  ⟨"query", .query, false, "Query parameters for filtering, sorting, and pagination", .object⟩

def isErrorValue (e : Expr) : Bool :=
  match e.asIdent? with
  | some name =>
    name == "err" || "Err".toList.isSuffixOf name.toList ||
      "Error".toList.isSuffixOf name.toList
  | none => false

def responseParts : (first second : Expr) → (rest : List Expr) → String × Expr
  | _, status, [] => ("200", status)
  | _, status, payload :: _ =>
    match status.intLiteral? with
    | some code => (code, payload)
    | none => ("200", status)

namespace HandlerFacts

def addReply (facts : HandlerFacts) (status : String) (reply : Reply) : HandlerFacts :=
  { facts with responses := facts.responses.insert status reply }

def addPathParam (facts : HandlerFacts) (name : Option String) (schema : Schema) : HandlerFacts :=
  match name with
  | some name => { facts with parameters := addParam facts.parameters (pathParam name schema) }
  | none => facts

def schemaOf (models : ModelIndex) (facts : HandlerFacts) (type : Option String) :
    Schema × HandlerFacts :=
  match type with
  | some text =>
    let (schema, table) := models.schemaOfText text facts.table
    (schema, { facts with table })
  | none => (.object, facts)

end HandlerFacts

namespace Context
variable (ctx : Context) (receiver : String) (vars : KeyMap String)

def noteBody (facts : HandlerFacts) (target : Option Expr) : HandlerFacts :=
  match target with
  | some (.unary "&" operand) =>
    let type := match operand with
      | .composite (some type) _ => some (ctx.symbols.typeText type)
      | .ident name => vars.get? name
      | _ => none
    let (schema, facts) := facts.schemaOf ctx.models type
    { facts with requestBody := some ⟨"Request body", true, jsonContent, schema⟩ }
  | _ => facts

/-- A response: `Response(ctx)`, `Response(ctx, status)`, `Response(ctx, payload)` or
`Response(ctx, status, payload)`. -/
def noteResponse (facts : HandlerFacts) : List Expr → HandlerFacts
  | first :: second :: rest =>
    match second.intLiteral?, rest with
    | some status, [] =>
      facts.addReply status
        (.json "Successful response" { type := some "string", description := some "Returns \"Ok\"" })
    | _, _ =>
      let (status, payload) := responseParts first second rest
      if isErrorValue payload then
        facts.addReply status (.json "Error response" .errorObject)
      else
        let (schema, facts) := facts.schemaOf ctx.models (ctx.infer receiver vars payload).2
        facts.addReply status (.json "Successful response" schema)
  | _ => facts.addReply "204" ⟨"No content", none, none⟩

def noteCall (facts : HandlerFacts) (method : String) (args : List Expr) : HandlerFacts :=
  let literal (i : Nat) : Option String := args[i]?.bind Expr.stringLiteral?
  match method with
  | "Params" => facts.addPathParam (literal 0) (.typed "string")
  | "ParamsUID" => facts.addPathParam (literal 1) (.formatted "string" "uuid")
  | "ParamsUint64" => facts.addPathParam (literal 1) (.formatted "integer" "uint64")
  | "ParamsInt" => facts.addPathParam (literal 1) (.formatted "integer" "int64")
  | "BodyParser" => ctx.noteBody vars facts args[0]?
  | "DeserializeFromFn" => ctx.noteBody vars facts args[1]?
  | "Response" => ctx.noteResponse receiver vars facts args
  | "ParseQueryParameters" => { facts with parameters := addParam facts.parameters queryParam }
  | "APIError" =>
    if facts.responses.contains "400" then facts
    else facts.addReply "400" (.json "Bad request or error response" .errorObject)
  | _ => facts

def noteNode (facts : HandlerFacts) : Node → HandlerFacts
  | .expr (.call (.selector _ method) args) => ctx.noteCall receiver vars facts method args
  | _ => facts

def handlerFacts (d : FuncDecl) (t : SchemaTable) : HandlerFacts :=
  match d.body with
  | none => { table := t }
  | some body =>
    let receiver := d.receiverType?.getD ""
    let vars := ctx.variableTypes receiver body
    (stmtNodes body).foldl (ctx.noteNode receiver vars) { table := t }

def handler? (r : Route) : Option FuncDecl :=
  if r.isInline then none else ctx.symbols.function? r.handler

/-- The endpoint of a route, and the table with the schemas that it refers to. Every parameter of the
path and at least one response are described, whatever the handler tells. -/
def describe (r : Route) (t : SchemaTable) : Endpoint × SchemaTable :=
  let handler := ctx.handler? r
  let doc := (handler.map FuncDecl.doc).getD []
  let facts := match handler with
    | some d => ctx.handlerFacts d t
    | none => { table := t }
  let endpoint : Endpoint := {
    path := r.path
    method := r.method
    handler := r.handler
    microservice := r.microservice
    summary := doc.head?
    description := if doc.length ≤ 1 then none else some (String.intercalate "\n" doc.tail)
    tags := [tagOfPath r.path r.microservice]
    parameters := (Path.params r.path).foldl
      (fun ps name => addParam ps (pathParam name (.typed "string"))) facts.parameters
    requestBody := facts.requestBody
    responses :=
      if facts.responses.isEmpty then .singleton "200" .unknown else facts.responses
    security := security r.middleware }
  (endpoint, facts.table)

def describeAll : List Route → SchemaTable → List Endpoint × SchemaTable
  | [], t => ([], t)
  | r :: rs, t =>
    let (e, t) := ctx.describe r t
    let (es, t) := describeAll rs t
    (e :: es, t)

end Context

end RouteDoc
