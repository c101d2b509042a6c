import RouteDoc.Go.Token
import RouteDoc.Proofs.Go.Literal

/-! How a text is written as a string literal. The interpreted form is a single token whatever follows
it, the raw form is one for texts without backquotes, and the value of either is the text. -/
namespace RouteDoc.Go

/-- A character as it is written between double quotes. -/
def escapeChar (c : Char) : List Char :=
  if c = '\\' then ['\\', '\\']
  else if c = '"' then ['\\', '"']
  else if c = '\n' then ['\\', 'n']
  else if c = '\t' then ['\\', 't']
  else if c = '\r' then ['\\', 'r']
  else [c]

def escape (cs : List Char) : List Char := cs.flatMap escapeChar

/-- The text of the interpreted literal for a string. -/
def interpretedText (s : String) : String := String.ofList ('"' :: (escape s.toList ++ ['"']))

/-- The text of the raw literal for a string. Only a string without backquotes has one. -/
def rawText (s : String) : String := String.ofList ('`' :: (s.toList ++ ['`']))

/-- A character is written as itself, or as a backslash and one more character. -/
theorem escapeChar_cases (c : Char) :
    (c ∉ ['\\', '"', '\n'] ∧ escapeChar c = [c]) ∨
      ∃ d, escapeChar c = ['\\', d] ∧ d ∈ ['\\', '"', 'n', 't', 'r'] ∧
        ∀ cs, unescape ('\\' :: d :: cs) = c :: unescape cs := by
  unfold escapeChar
  split_ifs with hslash hquote hline htab hreturn
  · subst hslash
    exact .inr ⟨'\\', rfl, by decide, fun cs => rfl⟩
  · subst hquote
    exact .inr ⟨'"', rfl, by decide, fun cs => rfl⟩
  · subst hline
    exact .inr ⟨'n', rfl, by decide, fun cs => rfl⟩
  · subst htab
    exact .inr ⟨'t', rfl, by decide, fun cs => rfl⟩
  · subst hreturn
    exact .inr ⟨'r', rfl, by decide, fun cs => rfl⟩
  · exact .inl ⟨by simp [hslash, hquote, hline], rfl⟩

theorem unescape_escapeChar_append (c : Char) (cs : List Char) :
    unescape (escapeChar c ++ cs) = c :: unescape cs := by
  obtain ⟨hc, heq⟩ | ⟨d, heq, -, hd⟩ := escapeChar_cases c
  · have hslash : c ≠ '\\' := fun h => hc (h ▸ List.mem_cons_self)
    rw [heq, List.singleton_append, unescape_cons hslash]
  · rw [heq]
    exact hd cs

theorem unescape_escape (cs : List Char) : unescape (escape cs) = cs := by
  induction cs with
  | nil => rfl
  | cons c cs ih =>
    calc unescape (escape (c :: cs)) = unescape (escapeChar c ++ escape cs) := rfl
      _ = c :: unescape (escape cs) := unescape_escapeChar_append c _
      _ = c :: cs := by rw [ih]

/-- One written character takes one step of the search for the closing quote. -/
theorem stringRest?_escapeChar_append (fuel : Nat) (c : Char) (cs : List Char) :
    stringRest? (fuel + 1) (escapeChar c ++ cs) = stringRest? fuel cs := by
  obtain ⟨hc, heq⟩ | ⟨d, heq, hd, -⟩ := escapeChar_cases c
  · simp only [List.mem_cons, List.not_mem_nil, or_false, not_or] at hc
    rw [heq, List.singleton_append, stringRest?] <;> simp [hc]
  · -- none of the five characters begins an escape by a number
    rw [heq, List.cons_append, List.singleton_append, stringRest?] <;> rintro rfl <;> simp at hd

theorem stringRest?_escape {fuel : Nat} {cs : List Char} (hfuel : cs.length < fuel)
    (rest : List Char) : stringRest? fuel (escape cs ++ '"' :: rest) = some rest := by
  induction cs generalizing fuel with
  | nil =>
    obtain ⟨fuel, rfl⟩ := Nat.exists_eq_add_of_lt hfuel
    rfl
  | cons c cs ih =>
    obtain ⟨fuel, rfl⟩ := Nat.exists_eq_add_of_lt hfuel
    have hsplit : escape (c :: cs) ++ '"' :: rest = escapeChar c ++ (escape cs ++ '"' :: rest) := by
      simp [escape]
    rw [hsplit, stringRest?_escapeChar_append]
    exact ih (by simp only [List.length_cons]; omega)

theorem length_le_escape (cs : List Char) : cs.length ≤ (escape cs).length := by
  induction cs with
  | nil => exact Nat.le_refl 0
  | cons c cs ih =>
    have hone : 1 ≤ (escapeChar c).length := by
      obtain ⟨-, heq⟩ | ⟨d, heq, -⟩ := escapeChar_cases c <;> simp [heq]
    simp only [escape, List.flatMap_cons, List.length_append, List.length_cons] at ih ⊢
    omega

theorem lexeme?_interpretedText (s : String) (rest : List Char) :
    lexeme? ((interpretedText s).toList ++ rest) = some (.string, rest) := by
  have hchars : (interpretedText s).toList ++ rest = '"' :: (escape s.toList ++ '"' :: rest) := by
    simp [interpretedText]
  have hfuel : s.toList.length < (escape s.toList ++ '"' :: rest).length + 1 := by
    have := length_le_escape s.toList
    simp only [List.length_append]
    omega
  rw [hchars, lexeme?, stringRest?_escape hfuel, Option.map_some]

/-- A raw literal ends at the first backquote. -/
theorem lexeme?_rawText_iff (s : String) :
    (∀ rest, lexeme? ((rawText s).toList ++ rest) = some (.string, rest)) ↔ '`' ∉ s.toList := by
  have hlexeme : ∀ before rest, '`' ∉ before →
      lexeme? ('`' :: (before ++ '`' :: rest)) = some (.string, rest) := by
    intro before rest hbefore
    have hcut : Text.cutAt? (· == '`') (before ++ '`' :: rest) = some (before, rest) :=
      Text.cutAt?_append_cons (Text.beq_eq_false_of_notMem hbefore) (beq_self_eq_true '`') rest
    rw [lexeme?, hcut, Option.map_some]
  have hchars : ∀ rest, (rawText s).toList ++ rest = '`' :: (s.toList ++ '`' :: rest) := by
    intro rest
    simp [rawText]
  constructor
  · intro h hmem
    obtain ⟨before, after, hs, hbefore⟩ := List.eq_append_cons_of_mem hmem
    have hearly := hlexeme before (after ++ ['`']) hbefore
    have hwhole := h []
    rw [hchars, hs, List.append_assoc, List.cons_append, hearly] at hwhole
    simp at hwhole
  · intro h rest
    rw [hchars]
    exact hlexeme s.toList rest h

/-- Every string is the value of the interpreted literal and of the raw literal written for it. -/
theorem unquote_written (s : String) :
    unquote (interpretedText s) = s ∧ unquote (rawText s) = s := by
  constructor
  · have hvalue : (unquote (interpretedText s)).toList = unescape (escape s.toList) :=
      toList_unquote_interpreted (escape s.toList) String.toList_ofList
    rw [← String.toList_inj, hvalue, unescape_escape]
  · have hvalue : (unquote (rawText s)).toList = s.toList :=
      toList_unquote_raw s.toList String.toList_ofList
    rw [← String.toList_inj, hvalue]

example : interpretedText "`\"\\" = "\"`\\\"\\\\\"" ∧ unquote "\"`\\\"\\\\\"" = "`\"\\" := by decide

end RouteDoc.Go
