import RouteDoc.Go.Syntax
import RouteDoc.Text.Basic

/-! Values of Go literals and struct tags, and the names that expressions render to. -/
namespace RouteDoc.Go

/-- Resolves escapes: `\n`, `\t` and `\r` have their usual meaning, any other escaped character
stands for itself, and a backslash at the end is kept. -/
def unescape : List Char → List Char
  | [] => []
  | ['\\'] => ['\\']
  | '\\' :: 'n' :: cs => '\n' :: unescape cs
  | '\\' :: 't' :: cs => '\t' :: unescape cs
  | '\\' :: 'r' :: cs => '\r' :: unescape cs
  | '\\' :: c :: cs => c :: unescape cs
  | c :: cs => c :: unescape cs

def between? (quote : Char) (cs : List Char) : Option (List Char) :=
  ([quote].isPrefixOf? cs).bind [quote].isSuffixOf?

/-- The value of a string literal. Raw literals hold no escapes. -/
def unquote (literal : String) : String :=
  let cs := literal.toList
  match between? '`' cs with
  | some raw => String.ofList raw
  | none => String.ofList (unescape ((between? '"' cs).getD cs))

namespace Expr

def asIdent? : Expr → Option String
  | ident name => some name
  | _ => none

def stringLiteral? : Expr → Option String
  | lit ⟨.string, text⟩ => some (unquote text)
  | _ => none

def intLiteral? : Expr → Option String
  | lit ⟨.int, text⟩ => some text
  | _ => none

/-- Chains of identifiers and selectors in dotted form. A call renders as `f()`, anything else
as a question mark. -/
def dotted : Expr → String
  | ident name => name
  | selector operand field => operand.dotted ++ "." ++ field
  | call func _ => func.dotted ++ "()"
  | _ => "?"

def calleeName? : Expr → Option String
  | call (ident name) _ => some name
  | call (selector _ field) _ => some field
  | _ => none

end Expr

/-- The first pair at the front of a tag text, and the text that follows it. -/
def firstPair? (tag : List Char) : Option (List Char × List Char × List Char) := do
  let (key, rest) ← Text.cutAt? (· == ':') tag
  let rest ← ['"'].isPrefixOf? rest
  let (value, rest) ← Text.cutAt? (· == '"') rest
  some (Text.trim key, value, rest)

theorem firstPair?_length {tag key value rest : List Char}
    (h : firstPair? tag = some (key, value, rest)) : rest.length < tag.length := by
  simp only [firstPair?, Option.bind_eq_bind, Option.bind_eq_some_iff, Prod.exists,
    Option.some.injEq, Prod.mk.injEq] at h
  obtain ⟨_, r1, h1, r2, h2, _, _, h3, _, _, rfl⟩ := h
  have := Text.cutAt?_length h1
  have := Text.isPrefixOf?_length h2
  have := Text.cutAt?_length h3
  omega

/-- The value of the first pair with the given key. Text that is no pair ends the search. -/
def lookupTag (key tag : List Char) : Option (List Char) :=
  match _h : firstPair? tag with
  | none => none
  | some (k, value, rest) => if k = key then some value else lookupTag key rest
termination_by tag.length
decreasing_by exact firstPair?_length _h

/-- The value of `key` in a struct tag, such as `json` in `json:"name,omitempty"`. -/
def Field.tagValue? (f : Field) (key : String) : Option String := do
  let tag ← f.tag
  String.ofList <$> lookupTag key.toList tag.toList

end RouteDoc.Go
