import RouteDoc.Go.Syntax

/-! The nodes of a syntax tree in source order, each before the nodes inside it. -/
namespace RouteDoc.Go

inductive Node where
  | stmt (s : Stmt)
  | expr (e : Expr)

mutual
/-- An expression and all expressions and statements inside it. Types hold none. -/
def Expr.nodes : Expr → List Node
  | .ident name => [.expr (.ident name)]
  | .lit literal => [.expr (.lit literal)]
  | .selector operand field => .expr (.selector operand field) :: operand.nodes
  | .call func args => .expr (.call func args) :: (func.nodes ++ exprNodes args)
  | .composite type elements => .expr (.composite type elements) :: exprNodes elements
  | .unary op operand => .expr (.unary op operand) :: operand.nodes
  | .binary left op right => .expr (.binary left op right) :: (left.nodes ++ right.nodes)
  | .funcLit body => .expr (.funcLit body) :: stmtNodes body
  | .index operand indices => .expr (.index operand indices) :: (operand.nodes ++ exprNodes indices)
  | .paren inner => .expr (.paren inner) :: inner.nodes
  | .type type => [.expr (.type type)]
  | .other parts => .expr (.other parts) :: exprNodes parts

def exprNodes : List Expr → List Node
  | [] => []
  | e :: es => e.nodes ++ exprNodes es

def Stmt.nodes : Stmt → List Node
  | .define targets values =>
    .stmt (.define targets values) :: (exprNodes targets ++ exprNodes values)
  | .assign targets values =>
    .stmt (.assign targets values) :: (exprNodes targets ++ exprNodes values)
  | .var specs => .stmt (.var specs) :: specNodes specs
  | .expr value => .stmt (.expr value) :: value.nodes
  | .ret values => .stmt (.ret values) :: exprNodes values
  | .block body => .stmt (.block body) :: stmtNodes body

def stmtNodes : List Stmt → List Node
  | [] => []
  | s :: ss => s.nodes ++ stmtNodes ss

def specNodes : List ValueSpec → List Node
  | [] => []
  | ⟨_, _, values⟩ :: specs => exprNodes values ++ specNodes specs
end

/-- Function bodies, and the initial values of variables and constants. -/
def Decl.nodes : Decl → List Node
  | .func decl => stmtNodes (decl.body.getD [])
  | .type _ => []
  | .const specs => specNodes specs
  | .var specs => specNodes specs

def File.nodes (f : File) : List Node := f.decls.flatMap Decl.nodes

end RouteDoc.Go
