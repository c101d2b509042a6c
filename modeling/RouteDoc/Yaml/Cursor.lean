/-! Reading YAML text: positions, blanks and comments. -/
namespace RouteDoc.Yaml

structure Cursor where
  rest : List Char
  line : Nat := 0
  col : Nat := 0
  /-- Nothing but blanks has been read on this line. -/
  fresh : Bool := true

abbrev Reader := StateT Cursor Option

def blankNext : List Char → Bool
  | [] => true
  | c :: _ => c == ' ' || c == '\t' || c == '\n'

namespace Cursor

def advance (s : Cursor) : Cursor :=
  match s.rest with
  | [] => s
  | c :: rest =>
    if c = '\n' then { rest, line := s.line + 1, col := 0, fresh := true }
    else { s with rest, col := s.col + 1, fresh := s.fresh && (c == ' ' || c == '\t') }

def advanceBy : Nat → Cursor → Cursor
  | 0, s => s
  | n + 1, s => advanceBy n s.advance

/-- Skips blanks, line breaks and comments. Tabs may stand where no key can follow: between tokens
of one line, and everywhere inside brackets. -/
def skipBlanks (flow : Bool) : Nat → Bool → Cursor → Cursor
  | 0, _, s => s
  | fuel + 1, tabs, s =>
    match s.rest with
    | ' ' :: _ => skipBlanks flow fuel tabs s.advance
    | '\t' :: _ => if tabs || flow then skipBlanks flow fuel tabs s.advance else s
    | '\n' :: _ => skipBlanks flow fuel flow s.advance
    | '#' :: _ => skipBlanks flow fuel tabs (s.advanceBy (s.rest.takeWhile (· != '\n')).length)
    | _ => s

def atMarker (s : Cursor) : Bool :=
  s.col == 0 && match s.rest with
    | '-' :: '-' :: '-' :: rest => blankNext rest
    | '.' :: '.' :: '.' :: rest => blankNext rest
    | _ => false

def atDash (s : Cursor) : Bool :=
  match s.rest with
  | '-' :: rest => blankNext rest
  | _ => false

/-- A colon that ends a key, after blanks on the same line. -/
def atColon (s : Cursor) : Bool :=
  match s.rest.dropWhile fun c => c == ' ' || c == '\t' with
  | ':' :: rest => blankNext rest
  | _ => false

end Cursor

namespace Reader

def peek : Reader (Option Char) := do return (← get).rest.head?

def skip (n : Nat) : Reader Unit := modify (Cursor.advanceBy n)

def char (c : Char) : Reader Unit := do
  if (← peek) == some c then skip 1 else failure

def toToken (flow tabs : Bool) : Reader Unit :=
  modify fun s => s.skipBlanks flow (s.rest.length + 1) tabs

end Reader

end RouteDoc.Yaml
