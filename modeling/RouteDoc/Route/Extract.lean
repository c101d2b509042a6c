import RouteDoc.Go.Literal
import RouteDoc.Go.Walk
import RouteDoc.KeyMap
import RouteDoc.Route.Basic

/-! Routes of a source file. Router groups and the names of middleware are followed through variables
in the order of the source. -/
namespace RouteDoc
open Go

structure RouteGroup where
  path : String
  middleware : List String
deriving DecidableEq, Repr

/-- What is known at a point of the source. A binding lasts until the next one of the same kind. -/
structure RouteScan where
  groups : KeyMap RouteGroup := {}
  /-- Variables that stand for a selector, with its dotted form. -/
  valueTexts : KeyMap String := {}
  routes : List Route := []

def handlerName? : Expr → Option String
  | .ident name => some name
  | .selector _ field => some field
  | .call func args => (Expr.call func args).calleeName?
  | .funcLit _ => some inlineHandler
  | .paren inner => handlerName? inner
  | _ => none

def argumentText : Expr → String
  | .lit l => if l.kind = .imaginary then "?" else l.text
  | .ident name => name
  | .selector operand field => (Expr.selector operand field).dotted
  | _ => "?"

/-- The handler is the last argument that can be one. Gives the arguments before it, and its name. -/
def splitHandler : List Expr → Option (List Expr × String)
  | [] => none
  | e :: es =>
    match splitHandler es with
    | some (before, name) => some (e :: before, name)
    | none => (handlerName? e).map fun name => ([], name)

namespace RouteScan

/-- Middleware as text. A variable stands for what it was bound to. -/
def middlewareText (s : RouteScan) : Expr → String
  | .ident name => (s.valueTexts.get? name).getD name
  | .call func args =>
    func.dotted ++ "(" ++ String.intercalate ", " (args.map argumentText) ++ ")"
  | .selector operand field => (Expr.selector operand field).dotted
  | .funcLit _ => inlineHandler
  | _ => "?"

/-- The group that a router expression refers to; what is no known group adds nothing. -/
def groupOf (s : RouteScan) (router : Expr) : RouteGroup :=
  (router.asIdent?.bind s.groups.get?).getD ⟨"", []⟩

/-- Binds a variable to `router.Group(path, middleware…)`. -/
def bindGroup (s : RouteScan) (name : String) (router path : Expr) (middleware : List Expr) :
    RouteScan :=
  let parent := s.groupOf router
  let group : RouteGroup := {
    path := Path.join parent.path (path.stringLiteral?.getD "")
    middleware := parent.middleware ++ middleware.map s.middlewareText }
  { s with groups := s.groups.insert name group }

def bindVariable (s : RouteScan) (name text : String) : RouteScan :=
  { s with valueTexts := s.valueTexts.insert name text }

def assign (s : RouteScan) (name : String) : Expr → RouteScan
  | .call (.selector operand field) args =>
    match field == "Group", args with
    | true, path :: middleware => s.bindGroup name operand path middleware
    | _, _ => s.bindVariable name (Expr.selector operand field).dotted
  | .selector operand field => s.bindVariable name (Expr.selector operand field).dotted
  | _ => s

/-- The route of a registration `router.Verb(path, middleware…, handler)`. -/
def route? (s : RouteScan) (microservice : String) (router : Expr) (method : Method)
    (args : List Expr) : Option Route :=
  match args with
  | [] => none
  | path :: rest =>
    (splitHandler rest).map fun (middleware, handler) =>
      let group := s.groupOf router
      let path := path.stringLiteral?.getD ""
      { path := Path.join group.path (if path = "" then "/" else path)
        method, handler, microservice
        middleware := group.middleware ++ middleware.map s.middlewareText }

def visit (microservice : String) (s : RouteScan) : Node → RouteScan
  | .stmt (.define [target] [value]) => (target.asIdent?.map (s.assign · value)).getD s
  | .stmt (.assign [target] [value]) => (target.asIdent?.map (s.assign · value)).getD s
  | .expr (.call (.selector router verb) args) =>
    match (Method.ofVerb? verb).bind (s.route? microservice router · args) with
    | some r => { s with routes := s.routes ++ [r] }
    | none => s
  | _ => s

end RouteScan

def Go.File.routes (f : File) (microservice : String) : List Route :=
  (f.nodes.foldl (RouteScan.visit microservice) {}).routes

end RouteDoc
