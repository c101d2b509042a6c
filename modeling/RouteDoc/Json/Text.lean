import RouteDoc.Json.Basic
import RouteDoc.Text.Basic

/-! JSON text, laid out over lines. -/
namespace RouteDoc

/-- The digits of a number without trailing zeros, and how many were dropped. -/
def dropZeros : Nat → Nat → Nat → Nat × Nat
  | 0, n, dropped => (n, dropped)
  | fuel + 1, n, dropped =>
    if n % 10 = 0 ∧ n ≠ 0 then dropZeros fuel (n / 10) (dropped + 1) else (n, dropped)

/-- A fraction in its fewest digits. Between 10⁻⁵ and 10¹⁶ it is written positionally with at least
one place, beyond with an exponent. -/
def fractionText (mantissa places : Nat) : String :=
  let (n, dropped) := dropZeros places mantissa 0
  let digits := Nat.toDigits 10 n
  let exponent : Int := dropped - places
  let point : Int := digits.length + exponent
  if n = 0 then "0.0"
  else if 0 ≤ exponent ∧ point ≤ 16 then
    String.ofList (digits ++ List.replicate exponent.toNat '0') ++ ".0"
  else if 0 < point ∧ point ≤ 16 then
    String.ofList (digits.take point.toNat) ++ "." ++ String.ofList (digits.drop point.toNat)
  else if -5 < point ∧ point ≤ 0 then
    "0." ++ String.ofList (List.replicate (-point).toNat '0' ++ digits)
  else
    let fraction := if digits.length = 1 then "" else "." ++ String.ofList digits.tail
    String.ofList (digits.take 1) ++ fraction ++ "e" ++ toString (point - 1)

def Number.text : Number → String
  | .int n => toString n
  | .decimal m places => (if m < 0 then "-" else "") ++ fractionText m.natAbs places

namespace Json

def hexDigit (n : Nat) : Char :=
  if n < 10 then Char.ofNat (48 + n) else Char.ofNat (87 + n)

/-- Quotes, backslashes and control characters are escaped, all else is written as it is. -/
def escapeChar (c : Char) : List Char :=
  if c = '"' then ['\\', '"']
  else if c = '\\' then ['\\', '\\']
  else if c = '\n' then ['\\', 'n']
  else if c = '\r' then ['\\', 'r']
  else if c = '\t' then ['\\', 't']
  else if c.toNat = 8 then ['\\', 'b']
  else if c.toNat = 12 then ['\\', 'f']
  else if c.toNat < 32 then ['\\', 'u', '0', '0', hexDigit (c.toNat / 16), hexDigit (c.toNat % 16)]
  else [c]

def quoted (s : String) : String :=
  String.ofList ('"' :: s.toList.flatMap escapeChar ++ ['"'])

def blanks (n : Nat) : String := String.ofList (List.replicate n ' ')

mutual
def textAt (indent : Nat) : Json → String
  | null => "null"
  | bool true => "true"
  | bool false => "false"
  | number n => n.text
  | string s => quoted s
  | array [] => "[]"
  | array (x :: xs) =>
    "[\n" ++ String.intercalate ",\n" (itemLines (indent + 2) (x :: xs)) ++ "\n" ++ blanks indent ++ "]"
  | object [] => "\x7b\x7d"
  | object (f :: fs) =>
    "\x7b\n" ++ String.intercalate ",\n" (fieldLines (indent + 2) (f :: fs)) ++ "\n" ++ blanks indent
      ++ "\x7d"

def itemLines (indent : Nat) : List Json → List String
  | [] => []
  | x :: xs => (blanks indent ++ x.textAt indent) :: itemLines indent xs

def fieldLines (indent : Nat) : List (String × Json) → List String
  | [] => []
  | (k, v) :: fs => (blanks indent ++ quoted k ++ ": " ++ v.textAt indent) :: fieldLines indent fs
end

/-- The text of a value, indented by two spaces for each level. -/
def text (j : Json) : String := j.textAt 0

end Json

end RouteDoc
