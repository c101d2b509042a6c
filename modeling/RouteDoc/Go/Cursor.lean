import RouteDoc.Go.Token

/-! Reading tokens from left to right. A reader that fails leaves no trace, so alternatives are tried
with `<|>`. -/
namespace RouteDoc.Go

structure Cursor where
  rest : List Token
  /-- The row where the last token read ends, semicolons apart. -/
  lastRow : Nat

abbrev Reader := StateT Cursor Option

namespace Reader
variable {α : Type}

def peek? : Reader (Option Token) := do return (← get).rest.head?

/-- The text of the next token, empty at the end. -/
def peekText : Reader String := do
  return match ← peek? with
    | some t => t.text
    | none => ""

def next : Reader Token := do
  let c ← get
  match c.rest with
  | [] => failure
  | t :: rest =>
    set (⟨rest, if t.kind = .semi then c.lastRow else t.endRow⟩ : Cursor)
    return t

def nextIs (text : String) : Reader Bool := do return (← peekText) == text

def symbol (text : String) : Reader Unit := do
  if (← next).text == text then return () else failure

def accept (text : String) : Reader Bool := do
  if ← nextIs text then
    let _ ← next
    return true
  else return false

def isIdent (t : Token) : Bool := t.kind == .word && !keywords.contains t.text

def ident : Reader String := do
  let t ← next
  if isIdent t then return t.text else failure

/-- A semicolon, written or implied. -/
def atSemi : Reader Bool := do
  return match ← peek? with
    | some t => t.kind == .semi
    | none => false

def semi : Reader Unit := do
  if (← next).kind == .semi then return () else failure

/-- More steps than there are tokens left. -/
def budget : Reader Nat := do return (← get).rest.length + 1

def sepLoop (sep : String) (item : Reader α) : Nat → Reader (List α)
  | 0 => failure
  | fuel + 1 => do
    let x ← item
    if ← accept sep then return x :: (← sepLoop sep item fuel)
    else return [x]

def sepBy1 (sep : String) (item : Reader α) : Reader (List α) := do
  sepLoop sep item (← budget)

def untilLoop (close : String) (item : Reader α) : Nat → Reader (List α)
  | 0 => failure
  | fuel + 1 => do
    if ← accept close then return []
    let x ← item
    if ← accept "," then return x :: (← untilLoop close item fuel)
    else
      symbol close
      return [x]

/-- Items with commas between them, up to a closing token that a comma may precede. -/
def commasUntil (close : String) (item : Reader α) : Reader (List α) := do
  untilLoop close item (← budget)

def manyLoop (item : Reader (Option α)) : Nat → Reader (List α)
  | 0 => failure
  | fuel + 1 => do
    match ← item with
    | some x => return x :: (← manyLoop item fuel)
    | none => return []

def many (item : Reader (Option α)) : Reader (List α) := do
  manyLoop item (← budget)

def withText (item : Reader α) : Reader (α × String) := do
  let before := (← get).rest
  let x ← item
  let read := before.take (before.length - (← get).rest.length)
  let text := match read with
    | [] => ""
    | t :: ts => ts.foldl (fun s t => s ++ t.gap ++ t.text) t.text
  return (x, text)

end Reader

end RouteDoc.Go
