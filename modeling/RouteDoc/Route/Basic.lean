import RouteDoc.Json.Basic
import RouteDoc.Text.Basic

/-! Routes: what one registration at a router says, and the paths it says it about. -/
namespace RouteDoc
open Json (field fieldIfAny)

inductive Method where
  | get
  | post
  | put
  | delete
  | patch
  | head
  | options
deriving DecidableEq, Repr

namespace Method

/-- All methods, in the order in which a path lists its operations. -/
def all : List Method := [get, post, put, delete, patch, head, options]

def name : Method → String
  | get => "GET"
  | post => "POST"
  | put => "PUT"
  | delete => "DELETE"
  | patch => "PATCH"
  | head => "HEAD"
  | options => "OPTIONS"

def ofName? (s : String) : Option Method := all.find? fun m => m.name == s

def verb : Method → String
  | get => "Get"
  | post => "Post"
  | put => "Put"
  | delete => "Delete"
  | patch => "Patch"
  | head => "Head"
  | options => "Options"

def ofVerb? (s : String) : Option Method := all.find? fun m => m.verb == s

end Method

namespace Path

def withSlash : List Char → List Char
  | '/' :: cs => '/' :: cs
  | cs => '/' :: cs

/-- A path below a group's path. The group's path loses its trailing slashes and the other path gets
a leading one; an empty path or a bare slash stands for the group's path itself. -/
def joinChars (base path : List Char) : List Char :=
  if base = [] then withSlash path
  else if path = [] ∨ path = ['/'] then withSlash base
  else Text.dropEndWhile (· == '/') base ++ withSlash path

def join (base path : String) : String := String.ofList (joinChars base.toList path.toList)

def segments (path : List Char) : List (List Char) := path.splitOn '/'

/-- The name in a segment `:name` or `:name?`. -/
def param? : List Char → Option (List Char)
  | ':' :: name => some (Text.dropEndWhile (· == '?') name)
  | _ => none

def templateSegment (segment : List Char) : List Char :=
  match param? segment with
  | some name => '{' :: name ++ ['}']
  | none => segment

def templateChars (path : List Char) : List Char :=
  ['/'].intercalate ((segments path).map templateSegment)

/-- The path with braces around the names of its parameters. -/
def template (path : String) : String := String.ofList (templateChars path.toList)

def params (path : String) : List String :=
  ((segments path.toList).filterMap param?).filterMap fun name =>
    if name = [] then none else some (String.ofList name)

end Path

structure Route where
  /-- The full path in router syntax, such as `/orders/:id`. -/
  path : String
  method : Method
  handler : String
  microservice : String
  /-- Middleware of the groups from the outermost, then that of the registration. -/
  middleware : List String
deriving DecidableEq, Repr

/-- The name of a handler that is a function literal. -/
def inlineHandler : String := "<inline>"

namespace Route

def isInline (r : Route) : Bool := r.handler == inlineHandler

def template (r : Route) : String := Path.template r.path

def toJson (r : Route) : Json :=
  .record [
    field "path" (.string r.path),
    field "method" (.string r.method.name),
    field "handler" (.string r.handler),
    field "microservice" (.string r.microservice),
    fieldIfAny "middleware" .string r.middleware]

end Route

/-- A method is given by its name, or by an object with that name as its only key and no value. -/
def Method.ofJson? : Json → Option Method
  | .string name => ofName? name
  | .object [(name, .null)] => ofName? name
  | _ => none

def Route.ofJson? (j : Json) : Option Route := do
  let fields ← j.asRecord? ["path", "method", "handler", "microservice", "middleware"] ["middleware"]
  some {
    path := ← requiredField fields "path" Json.asString?
    method := ← requiredField fields "method" Method.ofJson?
    handler := ← requiredField fields "handler" Json.asString?
    microservice := ← requiredField fields "microservice" Json.asString?
    middleware := ← fieldOr fields "middleware" [] (Json.asList? Json.asString?) }

end RouteDoc
