import RouteDoc.Json.Text
import RouteDoc.Yaml.Plain

/-! YAML text of a JSON value, in block style. -/
namespace RouteDoc.Yaml

def isBreak (c : Char) : Bool :=
  [0x0A, 0x0D, 0x85, 0x2028, 0x2029].contains c.toNat

def isPrintable (c : Char) : Bool :=
  let n := c.toNat
  n == 0x0A || (0x20 ≤ n && n ≤ 0x7E) || (0xA0 ≤ n && n != 0xFEFF && n != 0xFFFE && n != 0xFFFF)

def atBlank : List Char → Bool
  | [] => true
  | c :: _ => c == ' ' || c == '\t' || isBreak c

def hasPair (p q : Char → Bool) : List Char → Bool
  | c :: d :: cs => (p c && q d) || hasPair p q (d :: cs)
  | _ => false

/-- A colon before a blank, or a number sign after one, would end a plain scalar. -/
def hasIndicator : List Char → Bool
  | [] => false
  | c :: cs =>
    (c == ':' && atBlank cs) || ((c == ' ' || isBreak c) && cs.head? == some '#') || hasIndicator cs

def startsIndicator (cs : List Char) : Bool :=
  match cs with
  | [] => false
  | c :: rest =>
    "#,[]\x7b\x7d&*!|>'\"%@`".toList.contains c || ("-?:".toList.contains c && atBlank rest)
      || "---".toList.isPrefixOf cs || "...".toList.isPrefixOf cs

inductive Style where
  | plain
  | singleQuoted
  | doubleQuoted
  | literal
deriving DecidableEq, Repr

/-- Blanks or breaks where quoting or a literal block would lose them. -/
def isFragile (cs : List Char) : Bool :=
  hasPair (· == ' ') isBreak cs || cs.any fun c => !isPrintable c

def Style.of (s : String) : Style :=
  let cs := s.toList
  if cs.contains '\n' then
    if isFragile cs || cs.getLast? == some ' ' then .doubleQuoted else .literal
  else
    let edge (c : Option Char) : Bool := c.any fun c => c == ' ' || isBreak c
    let plain := !isAmbiguous s && !startsIndicator cs && !hasIndicator cs && !cs.any isBreak
      && !edge cs.head? && !edge cs.getLast?
    if isFragile cs || hasPair isBreak (· == ' ') cs then .doubleQuoted
    else if plain then .plain
    else .singleQuoted

def indentLines (indent : Nat) (afterBreak : Bool) : List Char → List Char
  | [] => []
  | c :: cs =>
    if isBreak c then c :: indentLines indent true cs
    else (if afterBreak then List.replicate indent ' ' else []) ++ c :: indentLines indent false cs

def singleQuotedText (indent : Nat) (cs : List Char) : String :=
  let body := indentLines indent false cs
  let close := if cs.getLast?.any isBreak then List.replicate indent ' ' else []
  let body := body.flatMap fun c => if c = '\'' then ['\'', '\''] else [c]
  String.ofList ('\'' :: body ++ close ++ ['\''])

def upperHex (width n : Nat) : List Char :=
  let digits := (Nat.toDigits 16 n).map Char.toUpper
  List.replicate (width - digits.length) '0' ++ digits

def escapeLetters : List (Nat × Char) :=
  [(0, '0'), (7, 'a'), (8, 'b'), (9, 't'), (10, 'n'), (11, 'v'), (12, 'f'), (13, 'r'), (27, 'e'),
   (34, '"'), (92, '\\'), (0x85, 'N'), (0x2028, 'L'), (0x2029, 'P')]

def escapeChar (c : Char) : List Char :=
  match escapeLetters.lookup c.toNat with
  | some letter => ['\\', letter]
  | none =>
    if isPrintable c then [c]
    else if c.toNat ≤ 0xFF then '\\' :: 'x' :: upperHex 2 c.toNat
    else '\\' :: 'u' :: upperHex 4 c.toNat

def doubleQuotedText (cs : List Char) : String :=
  String.ofList ('"' :: cs.flatMap escapeChar ++ ['"'])

/-- The header of a literal block: the indent where the text itself starts with a blank or a break,
and a sign for what becomes of the breaks at its end. -/
def literalHeader (cs : List Char) : String :=
  let hint := if cs.head?.any fun c => c == ' ' || isBreak c then "2" else ""
  let chomp := match cs.reverse with
    | [] => "-"
    | [c] => if isBreak c then "+" else "-"
    | c :: d :: _ => if !isBreak c then "-" else if isBreak d then "+" else ""
  "|" ++ hint ++ chomp

def literalText (indent : Nat) (cs : List Char) : String :=
  let close := if cs.getLast?.any isBreak then "" else "\n"
  literalHeader cs ++ "\n" ++ String.ofList (indentLines indent true cs) ++ close

def scalarText (indent : Nat) (s : String) : String :=
  match Style.of s with
  | .plain => s ++ "\n"
  | .singleQuoted => singleQuotedText indent s.toList ++ "\n"
  | .doubleQuoted => doubleQuotedText s.toList ++ "\n"
  | .literal => literalText indent s.toList

/-- A key that is short and without breaks stands before its colon on one line. -/
def isSimpleKey (key : String) : Bool := key.utf8ByteSize ≤ 128 && !key.toList.any isBreak

def keyText (key : String) : String :=
  match Style.of key with
  | .plain => key
  | .doubleQuoted => doubleQuotedText key.toList
  | _ => singleQuotedText 0 key.toList

/-- Joins the entries of a collection, of which each but the first starts with the indent. -/
def joinEntries (indent : Nat) (entries : List String) : String :=
  String.intercalate (Json.blanks indent) entries

mutual
/-- A value after an indicator that stands at the given indent. A collection starts on the line of
the indicator. -/
def compact (indent : Nat) : Json → String
  | .null => " null\n"
  | .bool b => " " ++ (Json.bool b).text ++ "\n"
  | .number n => " " ++ n.text ++ "\n"
  | .string s => " " ++ scalarText (indent + 2) s
  | .array [] => " []\n"
  | .object [] => " \x7b\x7d\n"
  | .array (x :: xs) => " " ++ joinEntries (indent + 2) (itemTexts (indent + 2) (x :: xs))
  | .object (f :: fs) => " " ++ joinEntries (indent + 2) (fieldTexts (indent + 2) (f :: fs))

/-- A value after a key at the given indent. A collection starts on a new line, and the items of an
array stand below the key. -/
def below (indent : Nat) : Json → String
  | .array (x :: xs) =>
    "\n" ++ Json.blanks indent ++ joinEntries indent (itemTexts indent (x :: xs))
  | .object (f :: fs) =>
    "\n" ++ Json.blanks (indent + 2) ++ joinEntries (indent + 2) (fieldTexts (indent + 2) (f :: fs))
  | .null => " null\n"
  | .bool b => " " ++ (Json.bool b).text ++ "\n"
  | .number n => " " ++ n.text ++ "\n"
  | .string s => " " ++ scalarText (indent + 2) s
  | .array [] => " []\n"
  | .object [] => " \x7b\x7d\n"

def itemTexts (indent : Nat) : List Json → List String
  | [] => []
  | x :: xs => ("-" ++ compact indent x) :: itemTexts indent xs

def fieldTexts (indent : Nat) : List (String × Json) → List String
  | [] => []
  | (key, value) :: fs =>
    (if isSimpleKey key then keyText key ++ ":" ++ below indent value
      else "? " ++ scalarText (indent + 2) key ++ Json.blanks indent ++ ":" ++ compact indent value)
      :: fieldTexts indent fs
end

def document : Json → String
  | .array (x :: xs) => joinEntries 0 (itemTexts 0 (x :: xs))
  | .object (f :: fs) => joinEntries 0 (fieldTexts 0 (f :: fs))
  | .array [] => "[]\n"
  | .object [] => "\x7b\x7d\n"
  | .string s => scalarText 2 s
  | j => j.text ++ "\n"

end RouteDoc.Yaml
