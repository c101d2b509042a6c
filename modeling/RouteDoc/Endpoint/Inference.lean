import RouteDoc.Layers
import RouteDoc.Model
import RouteDoc.Symbols

/-! The type of an expression in a handler, as far as it can be guessed. -/
namespace RouteDoc
open Go

structure Context where
  symbols : Symbols
  layers : Layers
  models : ModelIndex

inductive Strategy where
  /-- The type of a composite literal or of a variable. -/
  | declaredType
  /-- The result of a business layer's method, called through a field of the receiver. -/
  | businessLayer
  /-- A model named after the called method. -/
  | namingConvention
  /-- The name of the called function. -/
  | calleeName
  | genericObject
deriving DecidableEq, Repr

def Strategy.all : List Strategy :=
  [declaredType, businessLayer, namingConvention, calleeName, genericObject]

/-- The expression without parentheses and address operators around it. -/
def stripAddress : Expr → Expr
  | .unary op operand => if op = "&" then stripAddress operand else .unary op operand
  | .paren inner => stripAddress inner
  | e => e

/-- The field and the method in `x.field.Method(..)`. -/
def fieldMethod? : Expr → Option (String × String)
  | .call (.selector (.selector _ field) method) _ => some (field, method)
  | _ => none

/-- The text after the first of several beginnings that fits. -/
def stripFirst? (starts : List String) (s : String) : Option String :=
  starts.findSome? fun start => (start.toList.isPrefixOf? s.toList).map String.ofList

/-- Names that the model returned by a method may have, the likeliest first. -/
def modelNames (method : String) : List String :=
  let (entity, endings) :=
    match stripFirst? ["Create", "Update", "Get"] method with
    | some entity => (entity, ["Response", "View", ""])
    | none =>
      match stripFirst? ["List"] method with
      | some entity => (entity, ["ListResponse", "List", "Response"])
      | none => (method, ["Response", ""])
  (endings.map (entity ++ ·)).filter (· != "")

namespace Context
variable (ctx : Context) (receiver : String) (vars : KeyMap String)

def typeBy? (strategy : Strategy) (e : Expr) : Option String :=
  let e := stripAddress e
  match strategy with
  | .declaredType =>
    match e with
    | .composite (some type) _ => some (ctx.symbols.typeText type)
    | .ident name => vars.get? name
    | _ => none
  | .businessLayer => do
    let (field, method) ← fieldMethod? e
    ctx.layers.fieldCall? (← ctx.symbols.fieldType? receiver field) method
  | .namingConvention =>
    match e with
    | .call (.selector _ method) _ => (modelNames method).find? ctx.models.contains
    | _ => none
  | .calleeName => e.calleeName?
  | .genericObject => none

def infer (e : Expr) : Strategy × Option String :=
  let found := Strategy.all.findSome? fun s => (ctx.typeBy? receiver vars s e).map fun t => (s, some t)
  found.getD (.genericObject, none)

end Context

end RouteDoc
