import RouteDoc.Go.Grammar

/-! Source files: package clause, imports and declarations. -/
namespace RouteDoc.Go
open Reader

inductive Item where
  | package (name : String)
  | imports (specs : List ImportSpec)
  | decls (decls : List Decl)

def importSpec : Reader ImportSpec := do
  let name ← (do
      if ← accept "." then return some "." else return some (← ident))
    <|> pure none
  return ⟨name, unquote (← stringToken)⟩

def importLoop : Nat → Reader (List ImportSpec)
  | 0 => failure
  | fuel + 1 => do
    if ← accept ")" then return []
    let s ← importSpec
    if ← atSemi then
      semi
      return s :: (← importLoop fuel)
    else
      symbol ")"
      return [s]

def importDecl : Reader (List ImportSpec) := do
  symbol "import"
  if ← accept "(" then importLoop (← budget) else return [← importSpec]

namespace Grammar
variable (g : Grammar)

/-- The receiver is the first parameter of its list. -/
def receiver : Reader (Option Receiver) := do
  return (← g.paramList).head?.map fun p => ⟨p.names.head?, p.type.type⟩

/-- A function or a method; a method has no type parameters. -/
def funcDecl (doc : List String) : Reader FuncDecl := do
  let some first ← peek? | failure
  symbol "func"
  let isMethod ← nextIs "("
  let receiver ← if isMethod then g.receiver else pure none
  let name ← ident
  if !isMethod && (← nextIs "[") then
    let _ ← g.typeParams
  let sig ← g.signature
  let body ← if ← nextIs "\x7b" then some <$> g.block else pure none
  return ⟨name, receiver, sig.params.map ParamNode.field, sig.results, body, doc, first.row + 1⟩

/-- One item. Statements are allowed beside declarations, and mean nothing. -/
def item (doc : List String) : Reader Item := do
  match ← peekText with
  | "package" =>
    let _ ← next
    return .package (← ident)
  | "import" => return .imports (← importDecl)
  | "type" => return .decls ((← g.typeDecl doc).map fun (s, _) => .type s)
  | "const" => return .decls [.const ((← g.constDecl).map (·.1))]
  | "var" => return .decls [.var (← g.varDecl)]
  | "func" =>
    (do
      let d ← g.funcDecl doc
      if ← atSemi then return .decls [.func d] else failure)
    <|> (do
      let _ ← g.stmt
      return .decls [])
  | _ =>
    let _ ← g.stmt
    return .decls []

def itemLoop : Nat → Option Nat → Reader (List Item)
  | 0, _ => failure
  | fuel + 1, codeEnd => do
    match ← peek? with
    | none => return []
    | some first =>
      if ← accept ";" then itemLoop fuel codeEnd
      else
        let i ← g.item (docLines codeEnd first.comments first.row)
        let codeEnd := some (← get).lastRow
        semi
        return i :: (← itemLoop fuel codeEnd)

end Grammar

def Item.addTo (f : File) : Item → File
  | .package name => { f with package := name }
  | .imports specs => { f with imports := f.imports ++ specs }
  | .decls ds => { f with decls := f.decls ++ ds }

def File.parse? (source : String) : Option File := do
  let tokens ← tokenize source
  let g := grammar (3 * tokens.length + 3)
  let (items, _) ← (g.itemLoop (tokens.length + 1) none).run ⟨tokens, 0⟩
  some (items.foldl Item.addTo ⟨"", [], []⟩)

/-- The parser of this grammar. It does not say where an error is. -/
def File.parse : Parser := fun source =>
  match parse? source with
  | some file => .ok file
  | none => .error none

end RouteDoc.Go
