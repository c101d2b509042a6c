/-! Syntax of Go source files, as far as routes, handlers and models are read from it. -/
namespace RouteDoc.Go

mutual
inductive TypeExpr where
  | named (name : String)
  | qualified (package name : String)
  | pointer (elem : TypeExpr)
  | slice (elem : TypeExpr)
  /-- The length is kept as source text. -/
  | array (length : String) (elem : TypeExpr)
  | map (key value : TypeExpr)
  | generic (base : TypeExpr) (args : List TypeExpr)
  | struct (fields : List Field)
  | interface
  | func
  | chan (elem : TypeExpr)
  | other (text : String)

/-- A struct field, a parameter or a result. -/
structure Field where
  /-- Empty for embedded fields and unnamed parameters. -/
  names : List String
  type : TypeExpr
  /-- The struct tag without its quotes. -/
  tag : Option String
  doc : List String
end

instance : Inhabited TypeExpr := ⟨.interface⟩

inductive LitKind where
  | string
  | int
  | float
  | imaginary
  | char
deriving DecidableEq, Repr

/-- A literal with its text exactly as written, quotes included. -/
structure Literal where
  kind : LitKind
  text : String
deriving DecidableEq, Repr

mutual
inductive Expr where
  | ident (name : String)
  | lit (literal : Literal)
  | selector (operand : Expr) (field : String)
  | call (func : Expr) (args : List Expr)
  /-- The type is absent for a literal inside another one. -/
  | composite (type : Option TypeExpr) (elements : List Expr)
  | unary (op : String) (operand : Expr)
  | binary (left : Expr) (op : String) (right : Expr)
  | funcLit (body : List Stmt)
  | index (operand : Expr) (indices : List Expr)
  | paren (inner : Expr)
  /-- A type where an expression is expected, such as the first argument of `make`. -/
  | type (type : TypeExpr)
  | other (parts : List Expr)

inductive Stmt where
  /-- `a, b := x, y` -/
  | define (targets values : List Expr)
  /-- `a = x` and compound assignments. -/
  | assign (targets values : List Expr)
  | var (specs : List ValueSpec)
  | expr (value : Expr)
  | ret (values : List Expr)
  /-- A compound statement, flattened to its parts in source order. -/
  | block (body : List Stmt)

/-- One specification of a `const` or `var` declaration: `a, b T = x, y`. -/
structure ValueSpec where
  names : List String
  type : Option TypeExpr
  values : List Expr
end

instance : Inhabited Expr := ⟨.other []⟩

instance : Inhabited Stmt := ⟨.block []⟩

structure ImportSpec where
  localAlias : Option String
  path : String
deriving DecidableEq, Repr

structure Receiver where
  name : Option String
  type : TypeExpr

structure FuncDecl where
  name : String
  receiver : Option Receiver
  params : List Field
  results : List Field
  body : Option (List Stmt)
  /-- Lines of the doc comment, without comment marks. -/
  doc : List String
  line : Nat

structure TypeSpec where
  name : String
  type : TypeExpr
  doc : List String
  /-- `type A = B` rather than `type A B`. -/
  isAlias : Bool

inductive Decl where
  | func (decl : FuncDecl)
  | type (spec : TypeSpec)
  | const (specs : List ValueSpec)
  | var (specs : List ValueSpec)

structure File where
  package : String
  imports : List ImportSpec
  decls : List Decl

/-- The last segment of the path names the package. -/
def ImportSpec.packageName (s : ImportSpec) : String :=
  String.ofList ((s.path.toList.reverse.takeWhile (· != '/')).reverse)

def ImportSpec.localName (s : ImportSpec) : String :=
  s.localAlias.getD s.packageName

namespace File

def functions (f : File) : List FuncDecl :=
  f.decls.filterMap fun
    | .func d => some d
    | _ => none

def types (f : File) : List TypeSpec :=
  f.decls.filterMap fun
    | .type s => some s
    | _ => none

def consts (f : File) : List ValueSpec :=
  f.decls.flatMap fun
    | .const specs => specs
    | _ => []

end File

/-- A place in a text, with row and column counted from zero. -/
structure Position where
  row : Nat
  column : Nat

/-- A parser of source files. Of a text that is no file it says where the first error is, if there is
such a place. -/
abbrev Parser := String → Except (Option Position) File

def syntaxError : Option Position → String
  | some p => "syntax error at " ++ toString (p.row + 1) ++ ":" ++ toString (p.column + 1)
  | none => "syntax error"

end RouteDoc.Go
