import RouteDoc.Go.Literal
import RouteDoc.Proofs.Text

/-! String literals and their values. -/
namespace RouteDoc.Go

/-- What may stand between the quotes of an interpreted string literal. -/
inductive IsEscaped : List Char → Prop where
  | nil : IsEscaped []
  | char {c : Char} {cs : List Char} (hc : c ∉ ['"', '\\', '\n']) (h : IsEscaped cs) :
      IsEscaped (c :: cs)
  | escape {c : Char} {cs : List Char} (h : IsEscaped cs) : IsEscaped ('\\' :: c :: cs)

/-- The text of a string literal, raw or interpreted. -/
inductive IsStringText : List Char → Prop where
  | raw {cs : List Char} (h : '`' ∉ cs) : IsStringText ('`' :: (cs ++ ['`']))
  | interpreted {cs : List Char} (h : IsEscaped cs) : IsStringText ('"' :: (cs ++ ['"']))

theorem isEscaped_of_all {cs : List Char} (h : cs.all (· ∉ ['"', '\\', '\n']) = true) :
    IsEscaped cs := by
  induction cs with
  | nil => exact .nil
  | cons c cs ih =>
    obtain ⟨hc, hcs⟩ := Bool.and_eq_true_iff.mp (List.all_cons ▸ h)
    exact .char (of_decide_eq_true hc) (ih hcs)

theorem unescape_cons {c : Char} (h : c ≠ '\\') (cs : List Char) :
    unescape (c :: cs) = c :: unescape cs := by
  rw [unescape] <;> simp [h]

theorem exists_unescape_escape (c : Char) (cs : List Char) :
    ∃ d, unescape ('\\' :: c :: cs) = d :: unescape cs ∧ (c ∉ ['n', 't', 'r'] → d = c) := by
  by_cases hn : c = 'n'
  · subst hn
    exact ⟨'\n', rfl, fun h => absurd (by decide) h⟩
  by_cases ht : c = 't'
  · subst ht
    exact ⟨'\t', rfl, fun h => absurd (by decide) h⟩
  by_cases hr : c = 'r'
  · subst hr
    exact ⟨'\r', rfl, fun h => absurd (by decide) h⟩
  · refine ⟨c, ?_, fun _ => rfl⟩
    rw [unescape] <;> simp [hn, ht, hr]

theorem unescape_eq_self {cs : List Char} (h : '\\' ∉ cs) : unescape cs = cs := by
  induction cs with
  | nil => rfl
  | cons c cs ih =>
    obtain ⟨hc, hcs⟩ := not_or.mp (mt List.mem_cons.mpr h)
    rw [unescape_cons (Ne.symm hc), ih hcs]

/-- Only what begins an escape, or has a meaning after it, can be lost. -/
theorem IsEscaped.mem_unescape {cs : List Char} (h : IsEscaped cs) {x : Char} (hx : x ∈ cs)
    (hlost : x ∉ ['\\', 'n', 't', 'r']) : x ∈ unescape cs := by
  obtain ⟨hslash, hmeaning⟩ := not_or.mp (mt List.mem_cons.mpr hlost)
  induction h with
  | nil => cases hx
  | @char c cs hc _ ih =>
    have hne : c ≠ '\\' := fun heq => hc (by simp [heq])
    rw [unescape_cons hne]
    exact List.mem_cons.mpr ((List.mem_cons.mp hx).imp_right ih)
  | @escape c cs _ ih =>
    obtain ⟨d, hd, hdc⟩ := exists_unescape_escape c cs
    rw [hd]
    rcases List.mem_cons.mp ((List.mem_cons.mp hx).resolve_left hslash) with rfl | hx
    · exact List.mem_cons.mpr (.inl (hdc hmeaning).symm)
    · exact List.mem_cons_of_mem d (ih hx)

theorem between?_eq_some (quote : Char) (cs : List Char) :
    between? quote (quote :: (cs ++ [quote])) = some cs := by
  have hpre : [quote].isPrefixOf? (quote :: (cs ++ [quote])) = some (cs ++ [quote]) :=
    List.isPrefixOf?_eq_some_iff_append_eq.mpr rfl
  rw [between?, hpre, Option.bind_some]
  exact List.isSuffixOf?_eq_some_iff_append_eq.mpr rfl

theorem between?_cons_eq_none {quote c : Char} (h : quote ≠ c) (cs : List Char) :
    between? quote (c :: cs) = none := by
  simp [between?, List.isPrefixOf?, h]

theorem eq_of_between? {quote : Char} {cs inner : List Char} (h : between? quote cs = some inner) :
    cs = quote :: (inner ++ [quote]) := by
  obtain ⟨rest, hpre, hsuf⟩ := Option.bind_eq_some_iff.mp h
  rw [← List.isPrefixOf?_eq_some_iff_append_eq.mp hpre,
    ← List.isSuffixOf?_eq_some_iff_append_eq.mp hsuf, List.singleton_append]

theorem toList_unquote_raw (cs : List Char) {text : String}
    (h : text.toList = '`' :: (cs ++ ['`'])) : (unquote text).toList = cs := by
  simp only [unquote, h, between?_eq_some, String.toList_ofList]

theorem toList_unquote_interpreted (cs : List Char) {text : String}
    (h : text.toList = '"' :: (cs ++ ['"'])) : (unquote text).toList = unescape cs := by
  have hraw : between? '`' ('"' :: (cs ++ ['"'])) = none := between?_cons_eq_none (by decide) _
  simp only [unquote, h, hraw, between?_eq_some, Option.getD_some, String.toList_ofList]

/-- The value of a literal has the characters of its text except for marks of quotes and escapes. -/
theorem IsStringText.mem_unquote {text : String} (h : IsStringText text.toList) {x : Char}
    (hx : x ∈ text.toList) (hmark : x ∉ ['"', '`', '\\', 'n', 't', 'r']) :
    x ∈ (unquote text).toList := by
  generalize hchars : text.toList = chars at h
  have hinner : ∀ (quote : Char) (cs : List Char), quote ∈ ['"', '`'] →
      text.toList = quote :: (cs ++ [quote]) → x ∈ cs := by
    intro quote cs hquote htext
    have hne : x ≠ quote := fun heq => hmark (heq ▸ List.mem_append_left ['\\', 'n', 't', 'r'] hquote)
    rw [htext] at hx
    rcases List.mem_append.mp ((List.mem_cons.mp hx).resolve_left hne) with hx | hx
    · exact hx
    · exact absurd (List.mem_singleton.mp hx) hne
  cases h with
  | @raw cs _ =>
    rw [toList_unquote_raw cs hchars]
    exact hinner '`' cs (by decide) hchars
  | @interpreted cs hcs =>
    rw [toList_unquote_interpreted cs hchars]
    refine hcs.mem_unescape (hinner '"' cs (by decide) hchars) ?_
    exact fun hmem => hmark (List.mem_append_right ['"', '`'] hmem)

end RouteDoc.Go
