import RouteDoc.Text.Basic
import RouteDoc.Yaml.Cursor
import RouteDoc.Yaml.Plain

/-! Reading scalars: plain, quoted, and blocks of lines. -/
namespace RouteDoc.Yaml
open Reader

/-- What a run of blanks inside a scalar stands for: itself within a line, a space for one line
break, and the breaks after the first for several. -/
def fold (blanks : List Char) : List Char :=
  match blanks.count '\n' with
  | 0 => blanks
  | 1 => [' ']
  | n + 2 => List.replicate (n + 1) '\n'

def isWhite (c : Char) : Bool := c == ' ' || c == '\t' || c == '\n'

def isFlowIndicator (c : Char) : Bool := ",[]\x7b\x7d".toList.contains c

/-- Inside brackets a colon before a bracket, a comma or a question mark belongs to nothing. -/
def isStrayColon (flow : Bool) (cs : List Char) : Bool :=
  flow && match cs with
    | ':' :: c :: _ => isFlowIndicator c || c == '?'
    | _ => false

def plainChunk (flow : Bool) : List Char → List Char
  | [] => []
  | c :: cs =>
    if isWhite c || (c == ':' && blankNext cs) || (flow && isFlowIndicator c) ||
        isStrayColon flow (c :: cs) then []
    else c :: plainChunk flow cs

def indicators : List Char := "-?:,[]\x7b\x7d#&*!|>'\"%@`".toList

/-- A plain scalar can start here. A dash may start one when no blank follows it, and outside
brackets so may a question mark or a colon. -/
def startsPlain (flow : Bool) (cs : List Char) : Bool :=
  match cs with
  | [] => false
  | c :: rest =>
    !isWhite c && (!indicators.contains c ||
      (!blankNext rest && (c == '-' || (!flow && (c == '?' || c == ':')))))

/-- A tab stands in the indent of a line, left of where the content of the collection begins. -/
def tabInIndent (parent : Int) : Bool → Nat → List Char → Bool
  | _, _, [] => false
  | leading, col, c :: cs =>
    if c == '\n' then tabInIndent parent true 0 cs
    else (leading && c == '\t' && col < parent + 1) || tabInIndent parent leading (col + 1) cs

/-- The scalar goes on after the blanks. Outside brackets a line that goes on stands further right
than the collection around it. -/
def goesOn (parent : Int) (flow : Bool) (s : Cursor) (chunk : List Char) : Bool :=
  chunk ≠ [] && s.rest.head? != some '#' && !s.atMarker && (flow || !s.fresh || parent < s.col)

def plainLoop (parent : Int) (flow : Bool) : Nat → Reader (List Char)
  | 0 => failure
  | fuel + 1 => do
    let s ← get
    let blanks := s.rest.takeWhile isWhite
    if tabInIndent parent false s.col blanks then failure
    let next := s.advanceBy blanks.length
    let chunk := plainChunk flow next.rest
    if isStrayColon flow s.rest then failure
    if blanks ≠ [] && goesOn parent flow next chunk then
      set (next.advanceBy chunk.length)
      return fold blanks ++ chunk ++ (← plainLoop parent flow fuel)
    else return []

def plainScalar (parent : Int) (flow : Bool) : Reader String := do
  let s ← get
  if s.atMarker || !startsPlain flow s.rest then failure
  let chunk := plainChunk flow s.rest
  skip chunk.length
  let more ← plainLoop parent flow (s.rest.length + 1)
  return String.ofList (chunk ++ more)

def escapes : List (Char × Nat) :=
  [('0', 0), ('a', 7), ('b', 8), ('t', 9), ('\t', 9), ('n', 10), ('v', 11), ('f', 12), ('r', 13),
   ('e', 27), (' ', 32), ('"', 34), ('/', 47), ('\\', 92), ('N', 0x85), ('_', 0xA0), ('L', 0x2028),
   ('P', 0x2029)]

def escapeWidth? (c : Char) : Option Nat :=
  if c = 'x' then some 2 else if c = 'u' then some 4 else if c = 'U' then some 8 else none

def escape : Reader Char := do
  let some c ← peek | failure
  skip 1
  match escapes.lookup c with
  | some n => return Char.ofNat n
  | none =>
    let some width := escapeWidth? c | failure
    let digits := (← get).rest.take width
    let some n := digitsValue? 16 digits | failure
    if digits.length < width || !n.isValidChar then failure
    skip width
    return Char.ofNat n

def quotedLoop (quote : Char) : Nat → Reader (List Char)
  | 0 => failure
  | fuel + 1 => do
    let s ← get
    if s.atMarker then failure
    match s.rest with
    | [] => failure
    | c :: cs =>
      if c = quote then
        if quote = '\'' && cs.head? == some '\'' then
          skip 2
          return '\'' :: (← quotedLoop quote fuel)
        else
          skip 1
          return []
      else if isWhite c then
        let blanks := s.rest.takeWhile isWhite
        skip blanks.length
        return fold blanks ++ (← quotedLoop quote fuel)
      else if c = '\\' && quote = '"' then
        if cs.head? == some '\n' then
          let blanks := cs.takeWhile isWhite
          skip (1 + blanks.length)
          return List.replicate (blanks.count '\n' - 1) '\n' ++ (← quotedLoop quote fuel)
        else
          skip 1
          let e ← escape
          return e :: (← quotedLoop quote fuel)
      else
        skip 1
        return c :: (← quotedLoop quote fuel)

def quotedScalar (quote : Char) : Reader String := do
  char quote
  let s ← get
  return String.ofList (← quotedLoop quote (s.rest.length + 1))

inductive Chomp where
  | strip
  | clip
  | keep
deriving DecidableEq

/-- The header after the sign: an indent and a chomp in any order, then nothing but a comment. -/
def blockHeader : Reader (Option Nat × Chomp) := do
  let chomp : Reader (Option Chomp) := do
    match ← peek with
    | some '-' => skip 1; return some .strip
    | some '+' => skip 1; return some .keep
    | _ => return none
  let indent : Reader (Option Nat) := do
    match ← peek with
    | some c => if '1' ≤ c && c ≤ '9' then skip 1; return some (c.toNat - 48) else return none
    | none => return none
  let first ← chomp
  let width ← indent
  let second ← if first.isNone then chomp else pure none
  let rest := (← get).rest
  let blanks := (rest.takeWhile fun c => c == ' ' || c == '\t').length
  skip blanks
  if (← peek) == some '#' then
    skip ((← get).rest.takeWhile (· != '\n')).length
  match ← peek with
  | some '\n' => skip 1
  | some _ => failure
  | none => pure ()
  return (width, (first <|> second).getD .clip)

/-- The indent of a block without a header that gives it: that of its first line that is not blank,
or of a blank line before it that is longer. -/
def detectIndent (least : Nat) : Nat → List Char → Nat
  | 0, _ => least
  | fuel + 1, cs =>
    let spaces := (cs.takeWhile (· == ' ')).length
    match cs.drop spaces with
    | '\n' :: rest => detectIndent (max least spaces) fuel rest
    | _ => max least spaces

/-- Skips blank lines, and the indent of the line after them. Gives their number. -/
def blockBreaks (indent : Nat) : Nat → Reader Nat
  | 0 => failure
  | fuel + 1 => do
    let rest := (← get).rest
    skip (min indent (rest.takeWhile (· == ' ')).length)
    let s ← get
    match s.rest with
    | '\n' :: _ =>
      skip 1
      return (← blockBreaks indent fuel) + 1
    | '\t' :: _ => if s.col < indent then failure else return 0
    | _ => return 0

/-- The lines of a block. In a folded block the break between two lines that start with no blank
becomes a space, or is dropped before blank lines. `breaks` counts blank lines before the next line;
`ended` says that the line before ended with a break, and `indented` that it started with a blank. -/
def blockLines (literal : Bool) (indent : Nat) (chomp : Chomp) :
    Nat → (breaks : Nat) → (ended indented : Bool) → Reader (List Char)
  | 0, _, _, _ => failure
  | fuel + 1, breaks, ended, indented => do
    let s ← get
    if s.col = indent && !s.rest.isEmpty then
      let blank := s.rest.head?.any fun c => c == ' ' || c == '\t'
      let joint :=
        if !ended then []
        else if !literal && !indented && !blank then if breaks = 0 then [' '] else []
        else ['\n']
      let line := s.rest.takeWhile (· != '\n')
      skip line.length
      let ends := (← peek).isSome
      if ends then skip 1
      let after ← blockBreaks indent fuel
      return joint ++ List.replicate breaks '\n' ++ line
        ++ (← blockLines literal indent chomp fuel after ends blank)
    else match chomp with
      | .strip => return []
      | .clip => return if ended then ['\n'] else []
      | .keep => return (if ended then ['\n'] else []) ++ List.replicate breaks '\n'

def blockScalar (parent : Int) : Reader String := do
  let literal := (← peek) == some '|'
  skip 1
  let (width, chomp) ← blockHeader
  let s ← get
  let fuel := s.rest.length + 2
  let indent := match width with
    | some w => (max parent 0).toNat + w
    | none => detectIndent (max (parent + 1) 1).toNat fuel s.rest
  let breaks ← blockBreaks indent fuel
  return String.ofList (← blockLines literal indent chomp fuel breaks false false)

end RouteDoc.Yaml
