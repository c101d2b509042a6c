import RouteDoc.Yaml.Scalar

/-! Reading YAML documents. -/
namespace RouteDoc.Yaml
open Reader

/-- A node of a document. A scalar is kept as text, with a flag for those without quotes. -/
inductive Value where
  | scalar (text : String) (plain : Bool)
  | sequence (items : List Value)
  | mapping (entries : List (Value × Value))

namespace Value

def absent : Value := .scalar "" true

/-- Nothing, or a plain scalar that means nothing. -/
def isNull : Value → Bool
  | .scalar text plain => plain && (text == "" || isNullText text)
  | _ => false

end Value

/-- The value after a key, absent before a comma or a closing bracket. -/
def flowAfterKey (value : Reader Value) : Reader Value := do
  toToken true true
  match ← peek with
  | some c => if c = ',' || c = ']' || c = '}' then return .absent else value
  | none => failure

/-- A value and, if a colon follows on the line on which it starts, the value of which it is the
key. -/
def flowPair (value : Reader Value) : Reader (Value × Option Value) := do
  let line := (← get).line
  let key ← value
  toToken true true
  let s ← get
  if s.rest.head? == some ':' && s.line = line then
    skip 1
    return (key, some (← flowAfterKey value))
  else return (key, none)

def flowItem (value : Reader Value) : Reader Value := do
  match ← flowPair value with
  | (key, some v) => return .mapping [(key, v)]
  | (v, none) => return v

def flowEntry (value : Reader Value) : Reader (Value × Value) := do
  let (key, v) ← flowPair value
  return (key, v.getD .absent)

def flowLoop {α : Type} (close : Char) (item : Reader α) : Nat → Reader (List α)
  | 0 => failure
  | fuel + 1 => do
    toToken true true
    if (← peek) == some close then
      skip 1
      return []
    let x ← item
    toToken true true
    if (← peek) == some ',' then
      skip 1
      return x :: (← flowLoop close item fuel)
    else
      char close
      return [x]

def flowValue (parent : Int) : Nat → Reader Value
  | 0 => failure
  | fuel + 1 => do
    toToken true true
    match ← peek with
    | some '[' =>
      skip 1
      return .sequence (← flowLoop ']' (flowItem (flowValue parent fuel)) fuel)
    | some '{' =>
      skip 1
      return .mapping (← flowLoop '}' (flowEntry (flowValue parent fuel)) fuel)
    | some '"' => return .scalar (← quotedScalar '"') false
    | some '\'' => return .scalar (← quotedScalar '\'') false
    | _ => return .scalar (← plainScalar parent true) true

/-- A node that can stand on one line: a scalar or a collection in brackets. -/
def lineValue (parent : Int) (fuel : Nat) : Reader Value := do
  match ← peek with
  | some '[' => flowValue parent fuel
  | some '{' => flowValue parent fuel
  | some '"' => return .scalar (← quotedScalar '"') false
  | some '\'' => return .scalar (← quotedScalar '\'') false
  | _ => return .scalar (← plainScalar parent false) true

/-- A key with its colon, on one line. -/
def blockKey (fuel : Nat) : Reader Value := do
  let line := (← get).line
  let key ← lineValue (-1) fuel
  let s ← get
  if s.line ≠ line || !s.atColon then failure
  toToken false true
  char ':'
  return key

def itemLoop (col : Nat) (item : Reader Value) : Nat → Reader (List Value)
  | 0 => failure
  | fuel + 1 => do
    char '-'
    let x ← item
    toToken false (!(← get).fresh)
    let s ← get
    if s.rest.isEmpty then return [x]
    else if !s.fresh then failure
    else if s.col = col && s.atDash then return x :: (← itemLoop col item fuel)
    else return [x]

def entryLoop (col : Nat) (key value : Reader Value) : Nat → Reader (List (Value × Value))
  | 0 => failure
  | fuel + 1 => do
    let k ← key
    let v ← value
    toToken false (!(← get).fresh)
    let s ← get
    if s.rest.isEmpty then return [(k, v)]
    else if !s.fresh then failure
    else if s.col = col && !s.atMarker then return (k, v) :: (← entryLoop col key value fuel)
    else if s.col ≤ col then return [(k, v)]
    else failure

/-- A node below a collection at column `parent`. `inline` says that a collection may start on the
line of the indicator before it, and `level` that the items of a sequence may stand at the very
column of the parent. -/
def blockValue : Nat → (parent : Int) → (inline level : Bool) → Reader Value
  | 0, _, _, _ => failure
  | fuel + 1, parent, inline, level => do
    toToken false (!inline && !(← get).fresh)
    let s ← get
    let free := s.fresh || inline
    if s.rest.isEmpty || s.atMarker then return .absent
    else if s.fresh && s.col ≤ parent && !(level && s.col = parent && s.atDash) then return .absent
    else if s.atDash then
      if free then
        return .sequence (← itemLoop s.col (blockValue fuel s.col true false) fuel)
      else failure
    else match s.rest.head? with
      | some '|' => return .scalar (← blockScalar parent) false
      | some '>' => return .scalar (← blockScalar parent) false
      | _ =>
        let value ← lineValue parent fuel
        let after ← get
        if after.line = s.line && after.atColon then
          if free then
            set s
            return .mapping
              (← entryLoop s.col (blockKey fuel) (blockValue fuel s.col false true) fuel)
          else failure
        else return value

def plainBreaks : List Char → List Char
  | '\r' :: '\n' :: cs => '\n' :: plainBreaks cs
  | '\r' :: cs => '\n' :: plainBreaks cs
  | c :: cs => (if c.toNat = 0x85 then '\n' else c) :: plainBreaks cs
  | [] => []

def isAllowed (c : Char) : Bool :=
  let n := c.toNat
  n == 9 || n == 10 || n == 13 || (0x20 ≤ n && n ≤ 0x7E) || n == 0x85 ||
    (0xA0 ≤ n && n != 0xFFFE && n != 0xFFFF)

def oneDocument (fuel : Nat) : Reader Value := do
  toToken false false
  let marked := (← get).atMarker
  if marked then
    if (← peek) == some '.' then failure
    skip 3
  let value ← blockValue fuel (-1) false false
  toToken false (!(← get).fresh)
  let s ← get
  if s.atMarker && s.rest.head? == some '.' then
    skip 3
    toToken false true
  if (← get).rest.isEmpty then return value else failure

def byteOrderMark : Char := Char.ofNat 0xFEFF

def read? (text : String) : Option Value :=
  let cs := text.toList
  let cs := if cs.head? == some byteOrderMark then cs.tail else cs
  if cs.all isAllowed then
    let cs := plainBreaks cs
    ((oneDocument (cs.length + 2)).run { rest := cs }).map (·.1)
  else none

end RouteDoc.Yaml
