import RouteDoc.Go.Cursor
import RouteDoc.Go.Literal
import RouteDoc.Go.Syntax

/-! The grammar of types, expressions and statements. -/
namespace RouteDoc.Go
open Reader

/-- A type with the two other ways in which it can be read. -/
structure TypeNode where
  type : TypeExpr
  /-- As a part of a statement: a block of its own parts. -/
  outline : Stmt
  /-- As a part of an expression. -/
  operand : Expr

structure Grammar where
  type : Reader TypeNode
  /-- The flag says whether a brace after a type name opens a composite literal. Between a control
  keyword and its block it does not. -/
  expr : Bool → Reader Expr
  stmt : Reader Stmt

structure ParamNode where
  names : List String
  type : TypeNode
  variadic : Bool

structure FieldNode where
  field : Field
  outline : Stmt

def nameStmt (name : String) : Stmt := .expr (.ident name)

def literalKind? : TokenKind → Option LitKind
  | .string => some .string
  | .int => some .int
  | .float => some .float
  | .imaginary => some .imaginary
  | .rune => some .char
  | _ => none

def stringToken : Reader String := do
  let t ← next
  if t.kind == .string then return t.text else failure

def plainType (type : TypeExpr) (parts : List Stmt) : TypeNode := ⟨type, .block parts, .type type⟩

def typeName : Reader TypeNode := do
  let name ← ident
  if ← accept "." then
    let member ← ident
    return plainType (.qualified name member) [nameStmt name, .block []]
  else return plainType (.named name) []

def atType : Reader Bool := do
  return match ← peek? with
    | some t => isIdent t ||
        ["*", "[", "<-", "~", "map", "chan", "func", "struct", "interface"].contains t.text
    | none => false

/-- A run of unnamed entries before a named one lists further names of its type. -/
def groupParams : List String → List ParamNode → List ParamNode
  | pending, [] => pending.map fun n => ⟨[], plainType (.named n) [], false⟩
  | pending, p :: ps =>
    match p.names, p.type.type, p.variadic with
    | [], .named n, false => groupParams (pending ++ [n]) ps
    | [name], _, false => ⟨pending ++ [name], p.type, false⟩ :: groupParams [] ps
    | _, _, _ =>
      (pending.map fun n => ⟨[], plainType (.named n) [], false⟩) ++ p :: groupParams [] ps

def ParamNode.outline (p : ParamNode) : Stmt :=
  .block (p.names.map nameStmt ++ [p.type.outline])

def paramsOutline (ps : List ParamNode) : Stmt := .block (ps.map ParamNode.outline)

def ParamNode.field (p : ParamNode) : Field :=
  ⟨p.names, if p.variadic then .slice p.type.type else p.type.type, none, []⟩

structure Signature where
  params : List ParamNode
  results : List Field
  outlines : List Stmt

def precedence? (op : String) : Option Nat :=
  if op == "||" then some 1
  else if op == "&&" then some 2
  else if ["==", "!=", "<", "<=", ">", ">="].contains op then some 3
  else if ["+", "-", "|", "^"].contains op then some 4
  else if ["*", "/", "%", "<<", ">>", "&", "&^"].contains op then some 5
  else none

/-- Operands that wait for their right neighbour, innermost first, with the operator between. -/
def closeOperands (prec : Nat) (right : Expr) : List (Expr × String × Nat) → Expr × List (Expr × String × Nat)
  | [] => (right, [])
  | (left, op, p) :: waiting =>
    if p < prec then (right, (left, op, p) :: waiting)
    else closeOperands prec (.binary left op right) waiting

/-- Operators of one precedence associate to the left. -/
def binaryTree (operand : Expr) (waiting : List (Expr × String × Nat)) : List (String × Nat × Expr) → Expr
  | [] => (closeOperands 0 operand waiting).1
  | (op, p, right) :: rest =>
    let (left, waiting) := closeOperands p operand waiting
    binaryTree right ((left, op, p) :: waiting) rest

def assignOperators : List String :=
  ["=", "+=", "-=", "*=", "/=", "%=", "&=", "|=", "^=", "<<=", ">>=", "&^="]

/-- The type under pointers is no plain name, so that a call of it can only be a conversion. -/
def convertsOnly : TypeExpr → Bool
  | .pointer elem => convertsOnly elem
  | .named _ => false
  | .qualified _ _ => false
  | _ => true

def isInstance : TypeExpr → Bool
  | .pointer elem => isInstance elem
  | .generic _ _ => true
  | _ => false

namespace Grammar
variable (g : Grammar)

/-- Alternatives of a constraint; as a type the first one counts. -/
def typeElem : Reader TypeNode := do
  let ts ← sepBy1 "|" g.type
  match ts with
  | [] => failure
  | t :: _ => return ⟨t.type, .block (ts.map TypeNode.outline), t.operand⟩

def typeArgs : Reader (List TypeNode) := do
  symbol "["
  let args ← commasUntil "]" g.typeElem
  if args.isEmpty then failure else return args

def instantiate (base : TypeNode) (args : List TypeNode) : TypeNode :=
  plainType (.generic base.type (args.map TypeNode.type))
    [base.outline, .block (args.map TypeNode.outline)]

def namedType : Reader TypeNode := do
  let base ← typeName
  (do return instantiate base (← g.typeArgs)) <|> pure base

def paramEntry : Reader ParamNode :=
  (do
    let name ← ident
    let variadic ← accept "..."
    let type ← g.type
    let after ← peekText
    if after == "," || after == ")" then return ⟨[name], type, variadic⟩ else failure)
  <|> (do
    let variadic ← accept "..."
    return ⟨[], ← g.type, variadic⟩)

def paramList : Reader (List ParamNode) := do
  symbol "("
  let entries ← commasUntil ")" g.paramEntry
  if entries.any fun p => !p.names.isEmpty then return groupParams [] entries else return entries

def signature : Reader Signature := do
  let params ← g.paramList
  if ← nextIs "(" then
    let results ← g.paramList
    return ⟨params, results.map ParamNode.field, [paramsOutline params, paramsOutline results]⟩
  else if ← atType then
    let t ← g.type
    return ⟨params, [⟨[], t.type, none, []⟩], [paramsOutline params, t.outline]⟩
  else return ⟨params, [], [paramsOutline params]⟩

/-- A struct field. `codeEnd` is the row where the field before it ends. -/
def fieldDecl (codeEnd : Option Nat) : Reader FieldNode := do
  let some first ← peek? | failure
  let (names, type) ←
    (do
      let names ← sepBy1 "," ident
      return (names, ← g.type))
    <|> (do
      let _ ← accept "*"
      return ([], ← g.namedType))
  let tag ← (some <$> stringToken) <|> pure none
  let tagPart := (tag.map fun t => Stmt.expr (.lit ⟨.string, t⟩)).toList
  return ⟨⟨names, type.type, tag.map unquote, docLines codeEnd first.comments first.row⟩,
    .block (names.map nameStmt ++ type.outline :: tagPart)⟩

def fieldLoop : Nat → Option Nat → Reader (List FieldNode)
  | 0, _ => failure
  | fuel + 1, codeEnd => do
    if ← accept "\x7d" then return []
    let f ← g.fieldDecl codeEnd
    let codeEnd := some (← get).lastRow
    if ← atSemi then
      semi
      return f :: (← fieldLoop fuel codeEnd)
    else
      symbol "\x7d"
      return [f]

def interfaceElem : Reader Stmt :=
  (do
    let name ← ident
    let sig ← g.signature
    return .block (nameStmt name :: sig.outlines))
  <|> TypeNode.outline <$> g.typeElem

def interfaceLoop : Nat → Reader (List Stmt)
  | 0 => failure
  | fuel + 1 => do
    if ← accept "\x7d" then return []
    let e ← g.interfaceElem
    if ← atSemi then
      semi
      return e :: (← interfaceLoop fuel)
    else
      symbol "\x7d"
      return [e]

def bracketType : Reader TypeNode := do
  symbol "["
  if ← accept "]" then
    let elem ← g.type
    return plainType (.slice elem.type) [elem.outline]
  else
    let (length, text) ← withText (g.expr true)
    symbol "]"
    let elem ← g.type
    return plainType (.array text elem.type) [.expr length, elem.outline]

def structType : Reader TypeNode := do
  symbol "struct"
  symbol "\x7b"
  let fields ← g.fieldLoop (← budget) none
  return plainType (.struct (fields.map FieldNode.field)) [.block (fields.map FieldNode.outline)]

def interfaceType : Reader TypeNode := do
  symbol "interface"
  symbol "\x7b"
  return plainType .interface (← g.interfaceLoop (← budget))

def mapType : Reader TypeNode := do
  symbol "map"
  symbol "["
  let key ← g.type
  symbol "]"
  let value ← g.type
  return plainType (.map key.type value.type) [key.outline, value.outline]

def chanType : Reader TypeNode := do
  if ← accept "<-" then symbol "chan"
  else
    symbol "chan"
    let _ ← accept "<-"
  let elem ← g.type
  return plainType (.chan elem.type) [elem.outline]

def anyType : Reader TypeNode := do
  match ← peekText with
  | "*" =>
    let _ ← next
    let elem ← g.type
    return plainType (.pointer elem.type) [elem.outline]
  | "(" =>
    let _ ← next
    let inner ← g.type
    symbol ")"
    return ⟨inner.type, .block [inner.outline], .other [inner.operand]⟩
  | "~" =>
    let (inner, text) ← withText (do
      let _ ← next
      g.type)
    return ⟨.other text, .block [inner.outline], .other [inner.operand]⟩
  | "[" => g.bracketType
  | "map" => g.mapType
  | "chan" => g.chanType
  | "<-" => g.chanType
  | "struct" => g.structType
  | "interface" => g.interfaceType
  | "func" =>
    let _ ← next
    return plainType .func (← g.signature).outlines
  | _ => g.namedType

/-- The statements of a block, after its opening brace. A semicolon of its own is an empty
statement. -/
def stmtLoop : Nat → Reader (List Stmt)
  | 0 => failure
  | fuel + 1 => do
    if ["\x7d", "case", "default"].contains (← peekText) then return []
    if ← accept ";" then return .block [] :: (← stmtLoop fuel)
    let s ← g.stmt
    if ← atSemi then
      semi
      return s :: (← stmtLoop fuel)
    else if ["\x7d", "case", "default"].contains (← peekText) then return [s]
    else failure

def block : Reader (List Stmt) := do
  symbol "\x7b"
  let body ← g.stmtLoop (← budget)
  symbol "\x7d"
  return body

def argument : Reader Expr := do
  let e ← g.expr true
  if ← accept "..." then return .other [e] else return e

def arguments : Reader (List Expr) := do
  symbol "("
  commasUntil ")" g.argument

def conversionOperand : Reader Expr := do
  symbol "("
  let e ← g.expr true
  let _ ← accept ","
  symbol ")"
  return e

def typeFirstArguments : Reader (List Expr) := do
  symbol "("
  if ← accept ")" then return []
  let type ← g.type
  if ← accept "," then
    return type.operand :: (← commasUntil ")" (g.expr true))
  else
    symbol ")"
    return [type.operand]

def elementValue (elements : Reader (List Expr)) : Reader Expr := do
  if ← nextIs "\x7b" then return .composite none (← elements)
  else g.expr true

/-- The elements of a composite literal with its braces. A key and its value stand together. -/
def elementLoop : Nat → Reader (List Expr)
  | 0 => failure
  | fuel + 1 => do
    symbol "\x7b"
    commasUntil "\x7d" do
      let e ← g.elementValue (elementLoop fuel)
      if ← accept ":" then return .other [e, ← g.elementValue (elementLoop fuel)]
      else return e

def elements : Reader (List Expr) := do g.elementLoop (← budget)

def funcOperand : Reader Expr := do
  symbol "func"
  let _ ← g.signature
  if ← nextIs "\x7b" then return .funcLit (← g.block)
  else return .other [.type .func, ← g.conversionOperand]

def typeOperand (type : TypeNode) (literal : Bool) : Reader Expr := do
  if literal && (← nextIs "\x7b") then return .composite (some type.type) (← g.elements)
  else return .other [type.operand, ← g.conversionOperand]

def countedArray : Reader Expr := do
  symbol "["
  symbol "..."
  symbol "]"
  let elem ← g.type
  return .composite (some (.array "" elem.type)) (← g.elements)

/-- A type in parentheses, where only a conversion makes sense of it. -/
def parenConversion (ok : TypeExpr → Bool) : Reader Expr := do
  symbol "("
  let type ← g.type
  symbol ")"
  if ok type.type then return .other [.other [type.operand], ← g.conversionOperand] else failure

def parenOperand : Reader Expr :=
  g.parenConversion isInstance
  <|> (do
    symbol "("
    let e ← g.expr true
    symbol ")"
    return .paren e)
  <|> g.parenConversion fun _ => true

/-- An operand, and its reading as a type name if it has one. -/
def operand : Reader (Expr × Option TypeExpr) := do
  let some t ← peek? | failure
  match literalKind? t.kind with
  | some kind =>
    let _ ← next
    return (.lit ⟨kind, t.text⟩, none)
  | none =>
    match t.text with
    | "(" => return (← g.parenOperand, none)
    | "func" => return (← g.funcOperand, none)
    | "[" => return (← g.countedArray <|> (do g.typeOperand (← g.bracketType) true), none)
    | "map" => return (← g.typeOperand (← g.mapType) true, none)
    | "struct" => return (← g.typeOperand (← g.structType) true, none)
    | "interface" => return (← g.typeOperand (← g.interfaceType) false, none)
    | "chan" => return (← g.typeOperand (← g.chanType) false, none)
    | _ =>
      let name ← ident
      let plain : Expr × Option TypeExpr := (.ident name, some (.named name))
      if name == "new" || name == "make" then
        (do return (.call (.ident name) (← g.typeFirstArguments), none)) <|> pure plain
      else return plain

/-- `[i]`, or a slice with the bounds that are present. A limit needs a high bound. -/
def indexed (e : Expr) : Reader Expr := do
  symbol "["
  let bound : Reader (List Expr) := do
    if (← nextIs ":") || (← nextIs "]") then return [] else return [← g.expr true]
  let low ← bound
  if ← accept ":" then
    let high ← bound
    if ← accept ":" then
      if high.isEmpty then failure
      let limit ← g.expr true
      symbol "]"
      return .other (e :: low ++ high ++ [limit])
    else
      symbol "]"
      return .other (e :: low ++ high)
  else
    symbol "]"
    match low with
    | [i] => return .index e [i]
    | _ => failure

def instantiation (base : TypeExpr) : Reader Expr := do
  symbol "["
  let args ← commasUntil "]" g.type
  if args.isEmpty then failure else return .other (.type base :: args.map TypeNode.operand)

/-- Brackets after `e`, where `base` is the reading of `e` as a type name. If what they hold can be
read as types, a call after them drops them, except that with one argument it converts to the
instance. -/
def bracketed (e : Expr) (base : Option TypeExpr) (literal : Bool) : Reader Expr :=
  match base with
  | none =>
    (do
      let _ ← g.typeArgs
      return .call e (← g.arguments))
    <|> g.indexed e
  | some base =>
    (do
      let args ← g.typeArgs
      let type : TypeExpr := .generic base (args.map TypeNode.type)
      match ← peekText with
      | "\x7b" =>
        if literal then return .composite (some type) (← g.elements) else failure
      | "(" =>
        (do return .other [.type type, ← g.conversionOperand])
        <|> (do return .call e (← g.arguments))
      | "[" =>
        let result ← g.instantiation type
        if ← nextIs "(" then failure else return result
      | _ => failure)
    <|> g.indexed e
    <|> g.instantiation base

def suffixLoop (literal : Bool) : Nat → Expr → Option TypeExpr → Reader Expr
  | 0, _, _ => failure
  | fuel + 1, e, base => do
    match ← peekText with
    | "." =>
      (do
        let _ ← next
        let name ← ident
        let base := match e with
          | .ident package => some (.qualified package name)
          | _ => none
        suffixLoop literal fuel (.selector e name) base)
      <|> (do
        let _ ← next
        symbol "("
        let type ← g.type
        symbol ")"
        suffixLoop literal fuel (.other [e, type.operand]) none)
      <|> pure e
    | "(" => suffixLoop literal fuel (.call e (← g.arguments)) none
    | "[" => suffixLoop literal fuel (← g.bracketed e base literal) none
    | "\x7b" =>
      match base, literal with
      | some type, true => suffixLoop literal fuel (.composite (some type) (← g.elements)) none
      | _, _ => return e
    | _ => return e

def suffixes (literal : Bool) (e : Expr) (base : Option TypeExpr) : Reader Expr := do
  g.suffixLoop literal (← budget) e base

def primary (literal : Bool) : Reader Expr := do
  let (e, base) ← g.operand
  g.suffixes literal e base

def conversion (literal : Bool) : Reader Expr := do
  let type ← g.type
  if convertsOnly type.type then
    let e ← g.conversionOperand
    g.suffixes literal (.other [type.operand, e]) none
  else failure

def unaryLoop (literal : Bool) : Nat → Reader Expr
  | 0 => failure
  | fuel + 1 => do
    let op ← peekText
    if ["+", "-", "!", "^", "&", "*", "<-"].contains op then
      let plain : Reader Expr := do
        let _ ← next
        return .unary op (← unaryLoop literal fuel)
      if op == "*" || op == "<-" then g.conversion literal <|> plain else plain
    else g.primary literal

def unary (literal : Bool) : Reader Expr := do g.unaryLoop literal (← budget)

def binary (literal : Bool) : Reader Expr := do
  let first ← g.unary literal
  let rest ← many do
    let op ← peekText
    match precedence? op with
    | none => return none
    | some p =>
      let _ ← next
      return some (op, p, ← g.unary literal)
  return binaryTree first [] rest

def exprList (literal : Bool) : Reader (List Expr) := sepBy1 "," (g.expr literal)

def simpleStmt (literal : Bool) : Reader Stmt := do
  let left ← g.exprList literal
  let op ← peekText
  if op == ":=" then
    let _ ← next
    return .define left (← g.exprList literal)
  else if assignOperators.contains op then
    let _ ← next
    return .assign left (← g.exprList literal)
  else match left with
    | [e] =>
      if op == "++" || op == "--" then
        let _ ← next
        return .block [.expr e]
      else if op == "<-" then
        let _ ← next
        return .block [.expr e, .expr (← g.expr literal)]
      else return .expr e
    | _ => failure

def exprStmts (es : List Expr) : Stmt := .block (es.map Stmt.expr)

def varSpec : Reader ValueSpec := do
  let names ← sepBy1 "," ident
  if ← accept "=" then return ⟨names, none, ← g.exprList true⟩
  else
    let type ← g.type
    if ← accept "=" then return ⟨names, some type.type, ← g.exprList true⟩
    else return ⟨names, some type.type, []⟩

/-- A constant with the parts it shows in a statement. The commas between its names count as names. -/
def constSpec : Reader (ValueSpec × Stmt) := do
  let names ← sepBy1 "," ident
  let written := names.intersperse ","
  let parts := names.map nameStmt
  let valued (type : Option TypeNode) : Reader (ValueSpec × Stmt) := do
    symbol "="
    let values ← g.exprList true
    return (⟨written, type.map TypeNode.type, values⟩,
      .block (parts ++ (type.map TypeNode.outline).toList ++ [exprStmts values]))
  if ← nextIs "=" then valued none
  else (do valued (some (← g.type))) <|> pure (⟨written, none, []⟩, .block parts)

def typeParam : Reader Stmt := do
  let names ← sepBy1 "," ident
  let constraint ← g.typeElem
  return .block (names.map nameStmt ++ [constraint.outline])

/-- Entries of a parameter list of types; names of one constraint may stand in a row. -/
def typeParams : Reader Stmt := do
  symbol "["
  let params ← commasUntil "]" g.typeParam
  if params.isEmpty then failure else return .block params

/-- A type declaration with the parts it shows in a statement. An array type is tried before type
parameters. -/
def typeSpec (doc : List String) : Reader (TypeSpec × Stmt) := do
  let name ← ident
  if ← accept "=" then
    let type ← g.type
    return (⟨name, type.type, doc, true⟩, .block [.block [], type.outline])
  else
    (do
      let type ← g.type
      if (← atSemi) || (← nextIs ")") || (← nextIs "\x7d") then
        return (⟨name, type.type, doc, false⟩, .block [.block [], type.outline])
      else failure)
    <|> (do
      let params ← g.typeParams
      let type ← g.type
      return (⟨name, type.type, doc, false⟩, .block [.block [], params, type.outline]))

def groupLoop {α : Type} (spec : Option Nat → Reader α) : Nat → Option Nat → Reader (List α)
  | 0, _ => failure
  | fuel + 1, codeEnd => do
    if ← accept ")" then return []
    let s ← spec codeEnd
    let codeEnd := some (← get).lastRow
    semi
    return s :: (← groupLoop spec fuel codeEnd)

def group {α : Type} (spec : Option Nat → Reader α) : Reader (List α) := do
  if ← accept "(" then groupLoop spec (← budget) none else return [← spec none]

def varDecl : Reader (List ValueSpec) := do
  symbol "var"
  group fun _ => g.varSpec

def constDecl : Reader (List (ValueSpec × Stmt)) := do
  symbol "const"
  group fun _ => g.constSpec

/-- A specification without a doc comment of its own takes that of the declaration. -/
def typeDecl (doc : List String) : Reader (List (TypeSpec × Stmt)) := do
  symbol "type"
  let outer := match ← peek? with
    | some t => if t.text == "(" then t.comments else []
    | none => []
  group fun codeEnd => do
    let some first ← peek? | failure
    let comments := if codeEnd.isNone then outer ++ first.comments else first.comments
    let own := docLines codeEnd comments first.row
    g.typeSpec (if own.isEmpty then doc else own)

def elseBranch : Reader (List Stmt) := do
  if ← accept "else" then
    if ← nextIs "if" then return [← g.stmt]
    else return [.block (← g.block)]
  else return []

def ifStmt : Reader Stmt := do
  symbol "if"
  let first ← g.simpleStmt false
  let header ← match first with
    | .expr _ =>
      if ← accept ";" then pure [first, .expr (← g.expr false)] else pure [first]
    | _ =>
      symbol ";"
      pure [first, .expr (← g.expr false)]
  let body ← g.block
  return .block (header ++ .block body :: (← g.elseBranch))

def rangeClause : Reader Stmt :=
  (do
    symbol "range"
    return .block [.expr (← g.expr false)])
  <|> (do
    let left ← g.exprList false
    if !(← accept ":=") then symbol "="
    symbol "range"
    return .block [exprStmts left, .expr (← g.expr false)])

def forClause (init : List Stmt) : Reader Stmt := do
  symbol ";"
  let condition ← if ← nextIs ";" then pure [] else pure [Stmt.expr (← g.expr false)]
  symbol ";"
  let update ← if ← nextIs "\x7b" then pure [] else pure [← g.simpleStmt false]
  return .block (init ++ condition ++ update)

def forHeader : Reader (List Stmt) := do
  if ← nextIs "\x7b" then return []
  if ← nextIs ";" then return [← g.forClause []]
  (do return [← g.rangeClause])
  <|> (do
    let first ← g.simpleStmt false
    if ← nextIs ";" then return [← g.forClause [first]]
    else match first with
      | .expr _ => return [first]
      | _ => failure)

def forStmt : Reader Stmt := do
  symbol "for"
  let header ← g.forHeader
  return .block (header ++ [.block (← g.block)])

def caseBody : Reader (List Stmt) := do
  symbol ":"
  g.stmtLoop (← budget)

/-- The cases of a switch or select in braces; `parts` reads what stands between `case` and colon. -/
def cases (parts : Reader (List Stmt)) : Reader (List Stmt) := do
  symbol "\x7b"
  let clauses ← many do
    if ← accept "case" then
      let parts ← parts
      return some (.block (parts ++ (← g.caseBody)))
    else if ← accept "default" then return some (.block (← g.caseBody))
    else return none
  symbol "\x7d"
  return clauses

def switchInit : Reader (List Stmt) :=
  (do
    let s ← g.simpleStmt false
    symbol ";"
    return [s])
  <|> pure []

def typeSwitchHeader : Reader (List Stmt) := do
  let init ← g.switchInit
  let binding ← (do
      let left ← g.exprList false
      symbol ":="
      return [exprStmts left])
    <|> pure []
  let value ← g.expr false
  symbol "."
  symbol "("
  symbol "type"
  symbol ")"
  return init ++ binding ++ [.expr value]

def valueSwitchHeader : Reader (List Stmt) := do
  let init ← g.switchInit
  if ← nextIs "\x7b" then return init
  else return init ++ [.expr (← g.expr false)]

def switchStmt : Reader Stmt := do
  symbol "switch"
  (do
    let header ← g.typeSwitchHeader
    return .block (header ++ (← g.cases do return (← sepBy1 "," g.type).map TypeNode.outline)))
  <|> (do
    let header ← g.valueSwitchHeader
    return .block (header ++ (← g.cases do return [exprStmts (← g.exprList true)])))

def communication : Reader (List Stmt) :=
  (do
    let left ← g.exprList true
    if !(← accept ":=") then symbol "="
    return [.block [exprStmts left, .expr (← g.expr true)]])
  <|> (do
    let e ← g.expr true
    if ← accept "<-" then return [.block [.expr e, .expr (← g.expr true)]]
    else return [.block [.expr e]])

def selectStmt : Reader Stmt := do
  symbol "select"
  return .block (← g.cases g.communication)

def jumpStmt : Reader Stmt := do
  let _ ← next
  match ← peek? with
  | some t =>
    if isIdent t then
      let _ ← next
      return .block [.block []]
    else return .block []
  | none => return .block []

def labeledStmt : Reader Stmt := do
  let _ ← ident
  symbol ":"
  if ← nextIs "\x7d" then return .block [.block []]
  else if ← accept ";" then return .block [.block [], .block []]
  else return .block [.block [], ← g.stmt]

def anyStmt : Reader Stmt := do
  match ← peekText with
  | "var" => return .var (← g.varDecl)
  | "const" => return .block ((← g.constDecl).map (·.2))
  | "type" => return .block ((← g.typeDecl []).map (·.2))
  | "return" =>
    let _ ← next
    if (← atSemi) || (← nextIs "\x7d") then return .ret [] else return .ret (← g.exprList true)
  | "go" =>
    let _ ← next
    return .expr (← g.expr true)
  | "defer" =>
    let _ ← next
    return .expr (← g.expr true)
  | "if" => g.ifStmt
  | "for" => g.forStmt
  | "switch" => g.switchStmt
  | "select" => g.selectStmt
  | "break" => jumpStmt
  | "continue" => jumpStmt
  | "goto" =>
    let _ ← next
    let _ ← ident
    return .block [.block []]
  | "fallthrough" =>
    let _ ← next
    return .block []
  | "\x7b" => return .block (← g.block)
  | _ => g.labeledStmt <|> g.simpleStmt true

end Grammar

/-- The grammar for constructs nested at most as deep as the argument says. -/
def grammar : Nat → Grammar
  | 0 => ⟨failure, fun _ => failure, failure⟩
  | depth + 1 =>
    let inner := grammar depth
    ⟨inner.anyType, inner.binary, inner.anyStmt⟩

end RouteDoc.Go
