import RouteDoc.Text.Basic

/-! Plain scalars that stand for something other than their text: null, booleans and numbers. -/
namespace RouteDoc.Yaml

def isNullText (s : String) : Bool := ["null", "Null", "NULL", "~"].contains s

def isBoolText (s : String) : Bool :=
  ["true", "True", "TRUE", "false", "False", "FALSE"].contains s

def digitValue? (base : Nat) (c : Char) : Option Nat :=
  let n :=
    if '0' ≤ c ∧ c ≤ '9' then c.toNat - 48
    else if 'a' ≤ c ∧ c ≤ 'z' then c.toNat - 87
    else if 'A' ≤ c ∧ c ≤ 'Z' then c.toNat - 55
    else base
  if n < base then some n else none

def digitsValue? (base : Nat) (cs : List Char) : Option Nat :=
  if cs = [] then none
  else cs.foldl (fun n c => n.bind fun n => (digitValue? base c).map (base * n + ·)) (some 0)

def unsigned : List Char → List Char
  | '+' :: cs => cs
  | '-' :: cs => cs
  | cs => cs

/-- Digits after a leading zero are no number. -/
def hasLeadingZero (cs : List Char) : Bool :=
  match unsigned cs with
  | '0' :: c :: rest => (c :: rest).all Char.isDigit
  | _ => false

/-- The size of an integer without its sign, in one of four bases. -/
def magnitude? : List Char → Option Nat
  | '0' :: 'x' :: cs => digitsValue? 16 cs
  | '0' :: 'o' :: cs => digitsValue? 8 cs
  | '0' :: 'b' :: cs => digitsValue? 2 cs
  | cs => if hasLeadingZero cs then none else digitsValue? 10 cs

/-- An integer of at most 128 bits. -/
def isIntText (cs : List Char) : Bool :=
  match cs with
  | '-' :: rest => (magnitude? rest).any (· ≤ Nat.pow 2 127)
  | _ => (magnitude? (unsigned cs)).any (· < Nat.pow 2 128)

def exponentValue? : List Char → Option Int
  | [] => some 0
  | c :: cs =>
    if c = 'e' ∨ c = 'E' then
      match cs with
      | '-' :: ds => (digitsValue? 10 ds).map fun n => -(n : Int)
      | _ => (digitsValue? 10 (match cs with | '+' :: ds => ds | _ => cs)).map fun n => (n : Int)
    else none

/-- Rounds to a finite double: less than half a step above the largest one. -/
def isFinite (mantissa : Nat) (exponent : Int) : Bool :=
  let size := ((Nat.toDigits 10 mantissa).length : Int) + exponent
  if mantissa = 0 ∨ size < 300 then true
  else if 320 < size then false
  else
    let bound := Nat.pow 2 1024 - Nat.pow 2 970
    if 0 ≤ exponent then mantissa * Nat.pow 10 exponent.toNat < bound
    else mantissa < bound * Nat.pow 10 (-exponent).toNat

/-- A decimal float that is finite. -/
def isDecimalText (cs : List Char) : Bool :=
  let whole := cs.takeWhile Char.isDigit
  let (fraction, rest) := match cs.dropWhile Char.isDigit with
    | '.' :: rest => (rest.takeWhile Char.isDigit, rest.dropWhile Char.isDigit)
    | rest => ([], rest)
  match digitsValue? 10 (whole ++ fraction), exponentValue? rest with
  | some mantissa, some exponent => isFinite mantissa (exponent - fraction.length)
  | _, _ => false

def isFloatText (cs : List Char) : Bool :=
  [".inf", ".Inf", ".INF"].contains (String.ofList (unsigned cs))
    || [".nan", ".NaN", ".NAN"].contains (String.ofList cs)
    || isDecimalText (unsigned cs)

/-- Read as a plain scalar, the text would not stand for itself, or not for every reader. -/
def isAmbiguous (s : String) : Bool :=
  s == "" || isNullText s || isBoolText s || isIntText s.toList || isFloatText s.toList
    || hasLeadingZero s.toList

end RouteDoc.Yaml
