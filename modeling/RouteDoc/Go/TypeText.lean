import RouteDoc.Go.Syntax
import RouteDoc.Text.Alphanumeric
import RouteDoc.Text.Basic

/-! Types as text: the form in which types pass through symbol tables and signatures, and its reader. -/
namespace RouteDoc.Go

mutual
/-- The text of a type. The length of an array, the fields of a struct, the methods of an interface
and the signature of a function are left out. -/
def TypeExpr.chars : TypeExpr → List Char
  | .named name => name.toList
  | .qualified package name => package.toList ++ '.' :: name.toList
  | .pointer elem => '*' :: elem.chars
  | .slice elem => '[' :: ']' :: elem.chars
  | .array _ elem => '[' :: ']' :: elem.chars
  | .map key value => "map[".toList ++ key.chars ++ ']' :: value.chars
  | .generic base args => base.chars ++ '[' :: argChars args ++ [']']
  | .struct _ => "struct\x7b\x7d".toList
  | .interface => "interface\x7b\x7d".toList
  | .func => "func".toList
  | .chan elem => "chan ".toList ++ elem.chars
  | .other text => text.toList

def argChars : List TypeExpr → List Char
  | [] => []
  | [t] => t.chars
  | t :: u :: rest => t.chars ++ ',' :: ' ' :: argChars (u :: rest)
end

def TypeExpr.render (t : TypeExpr) : String := String.ofList t.chars

def closeBracket? (depth : Nat) : List Char → Option (List Char × List Char)
  | [] => none
  | ']' :: cs =>
    match depth with
    | 0 => some ([], cs)
    | depth + 1 => (closeBracket? depth cs).map fun (inside, after) => (']' :: inside, after)
  | c :: cs =>
    (closeBracket? (if c = '[' then depth + 1 else depth) cs).map fun (inside, after) =>
      (c :: inside, after)

/-- Cuts at the commas outside all brackets. A closing bracket without its partner is ignored. -/
def splitCommas (depth : Nat) : List Char → List (List Char)
  | [] => [[]]
  | c :: cs =>
    if c = ',' ∧ depth = 0 then [] :: splitCommas depth cs
    else
      let depth :=
        if c = '[' ∨ c = '(' ∨ c = '{' then depth + 1
        else if c = ']' ∨ c = ')' ∨ c = '}' then depth - 1
        else depth
      match splitCommas depth cs with
      | [] => [[c]]
      | piece :: pieces => (c :: piece) :: pieces

/-- The arguments in a bracket, trimmed; nothing after the last comma is no argument. -/
def splitArgs (cs : List Char) : List (List Char) :=
  let pieces := (splitCommas 0 cs).map Text.trim
  if pieces.getLast? = some [] then pieces.dropLast else pieces

/-- `base[args]`: the text before the first bracket and the text inside it, when the last character
closes it. -/
def genericParts? (cs : List Char) : Option (List Char × List Char) := do
  let (base, rest) ← Text.cutAt? (· == '[') cs
  let inside ← [']'].isSuffixOf? rest
  some (base, inside)

def nameType (cs : List Char) : TypeExpr :=
  match Text.cutAt? (· == '.') cs.reverse with
  | some (name, package) => .qualified (String.ofList package.reverse) (String.ofList name.reverse)
  | none => .named (String.ofList cs)

def isNameChar (c : Char) : Bool := Text.isAlphanumeric c || c == '_' || c == '.'

/-- Reads a type from its text. The fuel bounds the nesting; the length of the text is enough. -/
def readType : Nat → List Char → TypeExpr
  | 0, cs => .other (String.ofList cs)
  | fuel + 1, cs =>
    match Text.trim cs with
    | '*' :: rest => .pointer (readType fuel rest)
    | '[' :: ']' :: rest => .slice (readType fuel rest)
    | 'm' :: 'a' :: 'p' :: '[' :: rest =>
      match closeBracket? 0 rest with
      | some (key, value) => .map (readType fuel key) (readType fuel value)
      | none => .other (String.ofList ("map[".toList ++ rest))
    | '[' :: rest =>
      match closeBracket? 0 rest with
      | some (length, elem) => .array (String.ofList length) (readType fuel elem)
      | none => .other (String.ofList ('[' :: rest))
    | cs =>
      if cs = "interface\x7b\x7d".toList then .interface
      else if cs = "func".toList ∨ "func(".toList.isPrefixOf cs then .func
      else match "chan ".toList.isPrefixOf? cs with
        | some elem => .chan (readType fuel elem)
        | none =>
          match genericParts? cs with
          | some (base, inside) =>
            .generic (readType fuel base) ((splitArgs inside).map (readType fuel))
          | none => if cs ≠ [] ∧ cs.all isNameChar then nameType cs else .other (String.ofList cs)

/-- Reads a type from text such as `*[]models.Order` or `Page[Deal]`. Never fails: text that is no
type is kept as it is. -/
def TypeExpr.ofText (text : String) : TypeExpr :=
  readType (text.length + 1) text.toList

namespace TypeExpr

/-- The name under pointers, slices, arrays and channels; of a generic type, that of its first
argument. -/
def baseName? : TypeExpr → Option String
  | named name => some name
  | qualified _ name => some name
  | pointer elem => elem.baseName?
  | slice elem => elem.baseName?
  | chan elem => elem.baseName?
  | array _ elem => elem.baseName?
  | generic base [] => base.baseName?
  | generic _ (arg :: _) => arg.baseName?
  | _ => none

def package? : TypeExpr → Option String
  | qualified package _ => some package
  | pointer elem => elem.package?
  | slice elem => elem.package?
  | chan elem => elem.package?
  | array _ elem => elem.package?
  | generic base [] => base.package?
  | generic _ (arg :: _) => arg.package?
  | _ => none

mutual
/-- Replaces package qualifiers, except inside inline structs. -/
def mapPackages (f : String → String) : TypeExpr → TypeExpr
  | qualified package name => qualified (f package) name
  | pointer elem => pointer (elem.mapPackages f)
  | slice elem => slice (elem.mapPackages f)
  | chan elem => chan (elem.mapPackages f)
  | array length elem => array length (elem.mapPackages f)
  | map key value => map (key.mapPackages f) (value.mapPackages f)
  | generic base args => generic (base.mapPackages f) (mapPackagesList f args)
  | t => t

def mapPackagesList (f : String → String) : List TypeExpr → List TypeExpr
  | [] => []
  | t :: ts => t.mapPackages f :: mapPackagesList f ts
end

mutual
/-- Equality of types up to the doc comments of struct fields. -/
def same : TypeExpr → TypeExpr → Bool
  | named a, named b => a == b
  | qualified p a, qualified q b => p == q && a == b
  | pointer a, pointer b => a.same b
  | slice a, slice b => a.same b
  | array m a, array n b => m == n && a.same b
  | map k v, map l w => k.same l && v.same w
  | generic a as, generic b bs => a.same b && sameList as bs
  | struct as, struct bs => sameFields as bs
  | interface, interface => true
  | func, func => true
  | chan a, chan b => a.same b
  | other a, other b => a == b
  | _, _ => false

def sameList : List TypeExpr → List TypeExpr → Bool
  | [], [] => true
  | a :: as, b :: bs => a.same b && sameList as bs
  | _, _ => false

def sameFields : List Field → List Field → Bool
  | [], [] => true
  | ⟨ns, a, s, _⟩ :: as, ⟨ms, b, t, _⟩ :: bs => ns == ms && a.same b && s == t && sameFields as bs
  | _, _ => false
end

end TypeExpr

def FuncDecl.receiverType? (d : FuncDecl) : Option String :=
  d.receiver.bind fun r => r.type.baseName?

end RouteDoc.Go
