/-! Text as a list of characters: trimming, cutting and searching. -/
namespace RouteDoc.Text

def isSpace (c : Char) : Bool :=
  let n := c.toNat
  (9 ≤ n && n ≤ 13) || n == 32 || n == 0x85 || n == 0xA0 || n == 0x1680 ||
    (0x2000 ≤ n && n ≤ 0x200A) || n == 0x2028 || n == 0x2029 || n == 0x202F || n == 0x205F ||
    n == 0x3000

def dropEndWhile (p : Char → Bool) (cs : List Char) : List Char :=
  (cs.reverse.dropWhile p).reverse

def trimStart (cs : List Char) : List Char := cs.dropWhile isSpace

def trimEnd (cs : List Char) : List Char := dropEndWhile isSpace cs

def trim (cs : List Char) : List Char := trimEnd (trimStart cs)

theorem isPrefixOf?_length {pre cs rest : List Char} (h : pre.isPrefixOf? cs = some rest) :
    rest.length ≤ cs.length := by
  induction pre generalizing cs with
  | nil =>
    cases h
    exact Nat.le_refl _
  | cons p pre ih =>
    cases cs with
    | nil => cases h
    | cons c cs =>
      change (if p == c then pre.isPrefixOf? cs else none) = some rest at h
      split at h
      · exact Nat.le_succ_of_le (ih h)
      · cases h

/-- The text before the first character that satisfies `p`, and the text after it. -/
def cutAt? (p : Char → Bool) : List Char → Option (List Char × List Char)
  | [] => none
  | c :: cs =>
    if p c then some ([], cs)
    else (cutAt? p cs).map fun (before, after) => (c :: before, after)

theorem cutAt?_length {p : Char → Bool} {cs before after : List Char}
    (h : cutAt? p cs = some (before, after)) : after.length < cs.length := by
  induction cs generalizing before with
  | nil => simp [cutAt?] at h
  | cons c cs ih =>
    simp only [cutAt?] at h
    split at h
    · simp only [Option.some.injEq, Prod.mk.injEq] at h
      simp [← h.2]
    · simp only [Option.map_eq_some_iff, Prod.mk.injEq, Prod.exists] at h
      obtain ⟨b, a, hc, _, rfl⟩ := h
      have := ih hc
      simp only [List.length_cons]
      omega

def afterFirst? (needle : List Char) : List Char → Option (List Char)
  | [] => needle.isPrefixOf? []
  | c :: cs =>
    match needle.isPrefixOf? (c :: cs) with
    | some rest => some rest
    | none => afterFirst? needle cs

def contains (cs needle : List Char) : Bool := (afterFirst? needle cs).isSome

def lastPiece (sep : Char) (cs : List Char) : List Char :=
  (cs.reverse.takeWhile (· != sep)).reverse

/-- The lines of a text without their ends; an end at the very end opens no further line. -/
def lines (cs : List Char) : List (List Char) :=
  let pieces := cs.splitOn '\n'
  let pieces := if pieces.getLast? == some [] then pieces.dropLast else pieces
  pieces.map fun l => (['\r'].isSuffixOf? l).getD l

/-- Sets of code points are given by inclusive ranges. -/
def inRanges (table : List (Nat × Nat)) (n : Nat) : Bool :=
  table.any fun r => decide (r.1 ≤ n) && decide (n ≤ r.2)

end RouteDoc.Text
