import RouteDoc.Route.Basic
import RouteDoc.Schema.Basic
import RouteDoc.Text.Case

/-! Endpoints: routes with all that is known of their requests and responses, and the tags under
which a document lists them. -/
namespace RouteDoc

inductive ParamIn where
  | path
  | query
deriving DecidableEq, Repr

def ParamIn.name : ParamIn → String
  | path => "path"
  | query => "query"

structure Param where
  name : String
  location : ParamIn
  required : Bool
  description : String
  schema : Schema

structure Body where
  description : String
  required : Bool
  contentType : String
  schema : Schema

/-- A response; one without a body has neither content type nor schema. -/
structure Reply where
  description : String
  contentType : Option String
  schema : Option Schema

structure Requirement where
  name : String
  scopes : List String
deriving DecidableEq, Repr

structure Endpoint where
  /-- The path in router syntax. -/
  path : String
  method : Method
  handler : String
  microservice : String
  summary : Option String
  description : Option String
  tags : List String
  parameters : List Param
  requestBody : Option Body
  responses : KeyMap Reply
  security : List Requirement

def jsonContent : String := "application/json"

/-- The scheme of endpoints that need a token and no scope. -/
def bearerScheme : String := "bearerAuth"

def permissionsScheme : String := "permissions"

def Reply.json (description : String) (schema : Schema) : Reply :=
  ⟨description, some jsonContent, some schema⟩

/-- The response of an endpoint of which nothing is known. -/
def Reply.unknown : Reply := .json "Successful response" .object

def capitalized : List Char → List Char
  | [] => []
  | c :: cs => Text.upperChar c ++ Text.lower cs

def tagName (segment : String) : String :=
  let words := (segment.toList.splitOnP fun c => c == '-' || c == '_').filter (· ≠ [])
  String.intercalate " " (words.map fun w => String.ofList (capitalized w))

/-- The tag of a path: its first segment, or the microservice where that is no fixed text. -/
def tagOfPath (path microservice : String) : String :=
  match (path.toList.dropWhile (· == '/')).takeWhile (· != '/') with
  | [] => microservice
  | ':' :: _ => microservice
  | first => tagName (String.ofList first)

end RouteDoc
