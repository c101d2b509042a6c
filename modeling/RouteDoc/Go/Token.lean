import RouteDoc.Text.Basic
import RouteDoc.Text.Identifier

/-! Tokens of Go source text, and doc comments: the comments right above a declaration or a struct
field. Line ends that close a statement become tokens of their own. -/
namespace RouteDoc.Go

inductive TokenKind where
  | word
  | int
  | float
  | imaginary
  | rune
  | string
  | op
  /-- A semicolon, written or implied by a line end. -/
  | semi
deriving DecidableEq, Repr

structure Comment where
  text : String
  row : Nat
  endRow : Nat

structure Token where
  kind : TokenKind
  text : String
  /-- Source text between the token before and this one. -/
  gap : String
  row : Nat
  endRow : Nat
  /-- Comments since the last token that is no semicolon. -/
  comments : List Comment

def keywords : List String :=
  ["break", "case", "chan", "const", "continue", "default", "defer", "else", "fallthrough", "for",
   "func", "go", "goto", "if", "import", "interface", "map", "package", "range", "return", "select",
   "struct", "switch", "type", "var"]

/-- Operators and punctuation, longer ones first. -/
def operators : List String :=
  ["<<=", ">>=", "&^=", "...", "&&", "||", "<-", "++", "--", "==", "!=", "<=", ">=", ":=", "+=",
   "-=", "*=", "/=", "%=", "&=", "|=", "^=", "<<", ">>", "&^", "+", "-", "*", "/", "%", "&", "|",
   "^", "<", ">", "=", "!", "(", ")", "[", "]", "\x7b", "\x7d", ",", ".", ":", "~"]

def digitsTail (p : Char → Bool) : List Char → List Char
  | '_' :: c :: cs => if p c then digitsTail p cs else '_' :: c :: cs
  | c :: cs => if p c then digitsTail p cs else c :: cs
  | [] => []

def digits? (p : Char → Bool) : List Char → Option (List Char)
  | c :: cs => if p c then some (digitsTail p cs) else none
  | [] => none

def spacedDigits? (p : Char → Bool) : List Char → Option (List Char)
  | '_' :: cs => digits? p cs
  | cs => digits? p cs

def isHexDigit (c : Char) : Bool :=
  c.isDigit || ('a' ≤ c && c ≤ 'f') || ('A' ≤ c && c ≤ 'F')

def isOctalDigit (c : Char) : Bool := '0' ≤ c && c ≤ '7'

def isBinaryDigit (c : Char) : Bool := c == '0' || c == '1'

def longest (rests : List (Option (List Char))) : Option (List Char) :=
  rests.foldl (fun best r =>
    match best, r with
    | some b, some r => if r.length < b.length then some r else some b
    | none, r => r
    | b, none => b) none

def intLexeme? : List Char → Option (List Char)
  | '0' :: cs =>
    longest [
      some cs,
      spacedDigits? isOctalDigit cs,
      match cs with
      | 'x' :: cs | 'X' :: cs => spacedDigits? isHexDigit cs
      | 'o' :: cs | 'O' :: cs => spacedDigits? isOctalDigit cs
      | 'b' :: cs | 'B' :: cs => spacedDigits? isBinaryDigit cs
      | _ => none]
  | c :: cs => if c.isDigit then some ((spacedDigits? Char.isDigit cs).getD cs) else none
  | [] => none

def exponent? (letters : List Char) : List Char → Option (List Char)
  | c :: '+' :: cs => if letters.contains c then digits? Char.isDigit cs else none
  | c :: '-' :: cs => if letters.contains c then digits? Char.isDigit cs else none
  | c :: cs => if letters.contains c then digits? Char.isDigit cs else none
  | [] => none

def decimalFloatLexeme? (cs : List Char) : Option (List Char) :=
  match cs with
  | '.' :: cs => do
    let cs ← digits? Char.isDigit cs
    some ((exponent? ['e', 'E'] cs).getD cs)
  | _ => do
    match ← digits? Char.isDigit cs with
    | '.' :: cs =>
      let cs := (digits? Char.isDigit cs).getD cs
      some ((exponent? ['e', 'E'] cs).getD cs)
    | cs => exponent? ['e', 'E'] cs

def hexFloatLexeme? : List Char → Option (List Char)
  | '0' :: x :: cs => do
    guard (x == 'x' || x == 'X')
    let mantissa ← match cs with
      | '.' :: cs => digits? isHexDigit cs
      | cs => do
        match ← spacedDigits? isHexDigit cs with
        | '.' :: cs => some ((digits? isHexDigit cs).getD cs)
        | cs => some cs
    exponent? ['p', 'P'] mantissa
  | _ => none

def floatLexeme? (cs : List Char) : Option (List Char) :=
  longest [decimalFloatLexeme? cs, hexFloatLexeme? cs]

def imaginaryLexeme? (cs : List Char) : Option (List Char) :=
  longest ([digits? Char.isDigit cs, intLexeme? cs, floatLexeme? cs].map fun
    | some ('i' :: rest) => some rest
    | _ => none)

/-- A number: the longest of the three kinds of literal. -/
def numberLexeme? (cs : List Char) : Option (TokenKind × List Char) :=
  [(TokenKind.int, intLexeme? cs), (.float, floatLexeme? cs), (.imaginary, imaginaryLexeme? cs)].foldl
    (fun best (kind, r) =>
      match best, r with
      | some (k, b), some r => if r.length < b.length then some (kind, r) else some (k, b)
      | none, some r => some (kind, r)
      | b, none => b) none

def exactly? (p : Char → Bool) : Nat → List Char → Option (List Char)
  | 0, cs => some cs
  | n + 1, c :: cs => if p c then exactly? p n cs else none
  | _ + 1, [] => none

def stringRest? : Nat → List Char → Option (List Char)
  | 0, _ => none
  | fuel + 1, cs =>
    match cs with
    | '"' :: cs => some cs
    | '\\' :: 'x' :: cs => (exactly? isHexDigit 2 cs).bind (stringRest? fuel)
    | '\\' :: 'u' :: cs => (exactly? isHexDigit 4 cs).bind (stringRest? fuel)
    | '\\' :: 'U' :: cs => (exactly? isHexDigit 8 cs).bind (stringRest? fuel)
    | '\\' :: _ :: cs => stringRest? fuel cs
    | '\n' :: _ => none
    | _ :: cs => stringRest? fuel cs
    | [] => none

def runeRest? (cs : List Char) : Option (List Char) := do
  let cs ← match cs with
    | '\\' :: 'x' :: cs => exactly? isHexDigit 2 cs
    | '\\' :: 'u' :: cs => exactly? isHexDigit 4 cs
    | '\\' :: 'U' :: cs => exactly? isHexDigit 8 cs
    | '\\' :: c :: cs =>
      if "abfnrtv\\'\"".toList.contains c then some cs else exactly? isOctalDigit 3 (c :: cs)
    | '\'' :: _ => none
    | _ :: cs => some cs
    | [] => none
  ['\''].isPrefixOf? cs

/-- The token at the front of a text that is neither blank nor a comment. -/
def lexeme? (cs : List Char) : Option (TokenKind × List Char) :=
  match cs with
  | [] => none
  | ';' :: rest => some (.semi, rest)
  | '"' :: rest => (stringRest? (rest.length + 1) rest).map (TokenKind.string, ·)
  | '`' :: rest => (Text.cutAt? (· == '`') rest).map fun (_, after) => (.string, after)
  | '\'' :: rest => (runeRest? rest).map (TokenKind.rune, ·)
  | c :: rest =>
    if Text.isIdentStart c then some (.word, rest.dropWhile Text.isIdentPart)
    else match numberLexeme? cs with
      | some found => some found
      | none => (operators.findSome? fun op => op.toList.isPrefixOf? cs).map (TokenKind.op, ·)

def comment? : List Char → Option (List Char × List Char)
  | '/' :: '/' :: rest =>
    let body := rest.takeWhile (· != '\n')
    some ('/' :: '/' :: body, rest.drop body.length)
  | '/' :: '*' :: rest => do
    let after ← Text.afterFirst? ['*', '/'] rest
    some ('/' :: '*' :: rest.take (rest.length - after.length), after)
  | _ => none

/-- After these tokens a line end closes the statement. -/
def endsStatement (kind : TokenKind) (text : String) : Bool :=
  match kind with
  | .word => !keywords.contains text || ["break", "continue", "fallthrough", "return"].contains text
  | .op => ["++", "--", ")", "]", "\x7d"].contains text
  | .semi => false
  | _ => true

structure Scan where
  rest : List Char
  row : Nat
  /-- Last character first. -/
  gap : List Char
  /-- Last comment first. -/
  comments : List Comment
  /-- The last token can end a statement. -/
  open_ : Bool

def lineEnd (row : Nat) : Token := ⟨.semi, "\n", "", row, row, []⟩

def countRows (cs : List Char) : Nat := cs.count '\n'

/-- Collects tokens, last one first. -/
def scanTokens : Nat → Scan → List Token → Option (List Token)
  | 0, _, _ => none
  | fuel + 1, s, tokens =>
    match s.rest with
    | [] => some (if s.open_ then lineEnd s.row :: tokens else tokens)
    | '\n' :: rest =>
      scanTokens fuel { s with rest, row := s.row + 1, gap := '\n' :: s.gap, open_ := false }
        (if s.open_ then lineEnd s.row :: tokens else tokens)
    | c :: rest =>
      if Text.isSpace c then scanTokens fuel { s with rest, gap := c :: s.gap } tokens
      else if c == '/' && (rest.head? == some '/' || rest.head? == some '*') then
        match comment? (c :: rest) with
        | none => none
        | some (text, rest) =>
          let rows := countRows text
          let comment : Comment := ⟨String.ofList text, s.row, s.row + rows⟩
          let closes := s.open_ && rows != 0
          scanTokens fuel
            { rest, row := s.row + rows, gap := text.reverse ++ s.gap,
              comments := comment :: s.comments, open_ := s.open_ && !closes }
            (if closes then lineEnd s.row :: tokens else tokens)
      else match lexeme? (c :: rest) with
        | none => none
        | some (kind, after) =>
          let text := (c :: rest).take (rest.length + 1 - after.length)
          let rows := countRows text
          let gap := String.ofList s.gap.reverse
          let token : Token :=
            ⟨kind, String.ofList text, gap, s.row, s.row + rows,
              if kind = .semi then [] else s.comments.reverse⟩
          scanTokens fuel
            { rest := after, row := s.row + rows, gap := [],
              comments := if kind = .semi then s.comments else [],
              open_ := endsStatement kind token.text }
            (token :: tokens)

def tokenize (source : String) : Option (List Token) :=
  let cs := source.toList
  (scanTokens (cs.length + 1) ⟨cs, 0, [], [], false⟩ []).map List.reverse

def dropMarks (a b : Char) : List Char → List Char
  | c :: d :: cs => if c = a ∧ d = b then dropMarks a b cs else c :: d :: cs
  | cs => cs

/-- The lines of a comment without its marks, leading stars and blank lines. -/
def Comment.lines (c : Comment) : List String :=
  let text := c.text.toList
  let body := match ['/', '/'].isPrefixOf? text with
    | some line => line
    | none => (dropMarks '/' '*' (dropMarks '/' '*' text).reverse).reverse
  ((Text.lines body).map fun line =>
    String.ofList (Text.trim ((Text.trim line).dropWhile (· == '*')))).filter (· != "")

/-- The comments, last one first, that reach down to `row` without a blank line. The first comment
after code on its own row belongs to that code; `codeEnd` is the row where the code before the
comments ends. -/
def attached (codeEnd : Option Nat) (row : Nat) : List Comment → List Comment
  | [] => []
  | c :: earlier =>
    if c.endRow + 1 < row then []
    else if earlier.isEmpty && codeEnd == some c.row then []
    else c :: attached codeEnd c.row earlier

def docLines (codeEnd : Option Nat) (comments : List Comment) (row : Nat) : List String :=
  (attached codeEnd row comments.reverse).reverse.flatMap Comment.lines

end RouteDoc.Go
