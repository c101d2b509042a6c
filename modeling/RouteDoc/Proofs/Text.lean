import Mathlib.Data.List.Basic
import Mathlib.Data.List.DropRight
import RouteDoc.Text.Alphanumeric
import RouteDoc.Text.Basic

/-! Laws of text: prefixes and suffixes, cuts, and white space at the ends. -/
namespace RouteDoc.Text

theorem isSome_afterFirst?_iff {needle cs : List Char} :
    (afterFirst? needle cs).isSome = true ↔ needle <:+: cs := by
  have hstart : ∀ cs, (needle.isPrefixOf? cs).isSome = true ↔ needle <+: cs := by
    intro cs
    rw [List.isSome_isPrefixOf?_eq_isPrefixOf, List.isPrefixOf_iff_prefix]
  induction cs with
  | nil =>
    rw [List.infix_nil, ← List.prefix_nil]
    exact hstart []
  | cons c cs ih =>
    rw [List.infix_cons_iff, ← hstart]
    unfold afterFirst?
    cases needle.isPrefixOf? (c :: cs) with
    | none => simpa using ih
    | some rest => simp

theorem contains_iff_infix {needle cs : List Char} : contains cs needle = true ↔ needle <:+: cs :=
  isSome_afterFirst?_iff

theorem dropEndWhile_eq_rdropWhile (p : Char → Bool) (cs : List Char) :
    dropEndWhile p cs = cs.rdropWhile p := rfl

theorem dropEndWhile_append (p : Char → Bool) (u v : List Char) :
    dropEndWhile p (u ++ v) =
      if dropEndWhile p v = [] then dropEndWhile p u else u ++ dropEndWhile p v := by
  unfold dropEndWhile
  rw [List.reverse_append, List.dropWhile_append]
  simp only [List.isEmpty_iff, List.reverse_eq_nil_iff]
  split_ifs <;> simp

theorem dropEndWhile_dropEndWhile_append (p : Char → Bool) (u v : List Char) :
    dropEndWhile p (dropEndWhile p u ++ v) = dropEndWhile p u ++ dropEndWhile p v := by
  rw [dropEndWhile_append]
  split_ifs with hv
  · rw [hv, List.append_nil]
    exact List.rdropWhile_idempotent p u
  · rfl

theorem beq_eq_false_of_notMem {sep : Char} {cs : List Char} (h : sep ∉ cs) :
    ∀ c ∈ cs, (c == sep) = false := by
  intro c hc
  exact beq_false_of_ne fun heq => h (heq ▸ hc)

theorem cutAt?_append_cons {p : Char → Bool} {before : List Char} {c : Char}
    (hbefore : ∀ b ∈ before, p b = false) (hc : p c = true) (after : List Char) :
    cutAt? p (before ++ c :: after) = some (before, after) := by
  induction before with
  | nil => simp [cutAt?, hc]
  | cons b before ih =>
    have hb : p b = false := hbefore b List.mem_cons_self
    have hrest := ih fun b hb => hbefore b (List.mem_cons_of_mem _ hb)
    simp [cutAt?, hb, hrest]

theorem cutAt?_eq_none {p : Char → Bool} {cs : List Char} (h : ∀ c ∈ cs, p c = false) :
    cutAt? p cs = none := by
  induction cs with
  | nil => rfl
  | cons c cs ih =>
    have hc : p c = false := h c List.mem_cons_self
    have hrest := ih fun c hc => h c (List.mem_cons_of_mem _ hc)
    simp [cutAt?, hc, hrest]

theorem notMem_of_mem_splitOn {sep : Char} {cs piece : List Char} (h : piece ∈ cs.splitOn sep) :
    sep ∉ piece := by
  induction cs generalizing piece with
  | nil =>
    rw [List.mem_singleton.mp h]
    exact List.not_mem_nil
  | cons c cs ih =>
    rw [List.splitOn_cons_eq_if_modifyHead] at h
    split_ifs at h with hc
    · rcases List.mem_cons.mp h with rfl | h
      · exact List.not_mem_nil
      · exact ih h
    · obtain ⟨first, rest, hpieces⟩ := List.exists_cons_of_ne_nil (List.splitOn_ne_nil sep cs)
      rw [hpieces] at h ih
      rcases List.mem_cons.mp h with rfl | h
      · have hne : sep ≠ c := fun heq => hc (beq_iff_eq.mpr heq.symm)
        exact List.not_mem_cons_of_ne_of_not_mem hne (ih List.mem_cons_self)
      · exact ih (List.mem_cons_of_mem first h)

theorem eq_of_append_cons_eq {a : Char} {u v x y : List Char} (hu : a ∉ u) (hv : a ∉ v)
    (h : u ++ a :: x = v ++ a :: y) : u = v ∧ x = y := by
  rcases List.append_eq_append_iff.mp h with ⟨w, rfl, hw⟩ | ⟨w, rfl, hw⟩
  · rcases List.cons_eq_append_iff.mp hw with ⟨rfl, hxy⟩ | ⟨w', rfl, -⟩
    · exact ⟨(List.append_nil u).symm, (List.cons.inj hxy).2.symm⟩
    · exact absurd (List.mem_append_right u List.mem_cons_self) hv
  · rcases List.cons_eq_append_iff.mp hw with ⟨rfl, hxy⟩ | ⟨w', rfl, -⟩
    · exact ⟨List.append_nil v, (List.cons.inj hxy).2⟩
    · exact absurd (List.mem_append_right v List.mem_cons_self) hu

/-- A word before the first occurrence of a character is found together with it. -/
theorem afterFirst?_append_cons {a : Char} {before word : List Char} (h : a ∉ before ++ word)
    (rest : List Char) : afterFirst? (word ++ [a]) (before ++ word ++ a :: rest) = some rest := by
  have hword : a ∉ word := fun hmem => h (List.mem_append_right before hmem)
  induction before with
  | nil =>
    have hstrip : (word ++ [a]).isPrefixOf? (word ++ a :: rest) = some rest :=
      List.isPrefixOf?_eq_some_iff_append_eq.mpr (by simp)
    rw [List.nil_append]
    cases hcs : word ++ a :: rest with
    | nil => exact absurd hcs (by simp)
    | cons c cs =>
      rw [hcs] at hstrip
      unfold afterFirst?
      rw [hstrip]
  | cons c before ih =>
    have hnone : (word ++ [a]).isPrefixOf? (c :: before ++ word ++ a :: rest) = none := by
      refine Option.eq_none_iff_forall_ne_some.mpr ?_
      intro rest' hstrip
      have hsplit : c :: before ++ word ++ a :: rest = word ++ a :: rest' := by
        rw [← List.isPrefixOf?_eq_some_iff_append_eq.mp hstrip]
        simp
      -- the first `a` would follow the word at once
      have hlength := congrArg List.length (eq_of_append_cons_eq h hword hsplit).1
      simp only [List.length_append, List.length_cons] at hlength
      omega
    rw [List.cons_append, List.cons_append] at hnone ⊢
    unfold afterFirst?
    rw [hnone]
    exact ih fun hmem => h (List.mem_cons_of_mem c hmem)

/-- What has no separator in it stands on one side of it. -/
theorem infix_or_infix_of_infix {sep : Char} {needle u v : List Char} (hsep : sep ∉ needle)
    (h : needle <:+: u ++ sep :: v) : needle <:+: u ∨ needle <:+: v := by
  have hstart : ∀ l, l <+: sep :: v → sep ∉ l → l = [] := by
    intro l hl hmem
    rcases List.prefix_cons_iff.mp hl with rfl | ⟨l', rfl, -⟩
    · rfl
    · exact absurd List.mem_cons_self hmem
  rcases List.infix_append_iff.mp h with h | h | ⟨l, l', rfl, hl, hl'⟩
  · exact .inl h
  · rcases List.infix_cons_iff.mp h with h | h
    · rw [hstart needle h hsep]
      exact .inl List.nil_infix
    · exact .inr h
  · have hnil := hstart l' hl' fun hmem => hsep (List.mem_append_right l hmem)
    rw [hnil, List.append_nil]
    exact .inl hl.isInfix

/-- A word with a character that is nowhere else in it ends at the first such character of a text or
stands after that. -/
theorem suffix_or_infix_of_infix {a : Char} {word text rest : List Char} (hword : a ∉ word)
    (htext : a ∉ text) (h : word ++ [a] <:+: text ++ a :: rest) :
    word <:+ text ∨ word ++ [a] <:+: rest := by
  have hmem : a ∈ word ++ [a] := by simp
  rcases List.infix_append_iff.mp h with h | h | ⟨l, l', heq, hl, hl'⟩
  · exact absurd (h.subset hmem) htext
  · rcases List.infix_cons_iff.mp h with h | h
    · cases word with
      | nil => exact .inl (List.nil_suffix)
      | cons c word =>
        have hc : c = a := (List.cons_prefix_cons.mp h).1
        exact absurd (hc ▸ List.mem_cons_self) hword
    · exact .inr h
  · rcases List.prefix_cons_iff.mp hl' with rfl | ⟨l'', rfl, -⟩
    · rw [List.append_nil] at heq
      exact absurd (hl.subset (heq ▸ hmem)) htext
    · have hla : a ∉ l := fun hal => htext (hl.subset hal)
      rw [(eq_of_append_cons_eq hword hla heq).1]
      exact .inl hl

/-- Text that starts and ends with something else than white space. -/
structure Tight (cs : List Char) : Prop where
  head : ∃ c rest, cs = c :: rest ∧ isSpace c = false
  last : ∃ front c, cs = front ++ [c] ∧ isSpace c = false

theorem tight_of_forall {cs : List Char} (hne : cs ≠ []) (h : ∀ c ∈ cs, isSpace c = false) :
    Tight cs := by
  constructor
  · obtain ⟨c, rest, rfl⟩ := List.exists_cons_of_ne_nil hne
    exact ⟨c, rest, rfl, h c List.mem_cons_self⟩
  · obtain ⟨front, c, rfl⟩ := (List.eq_nil_or_concat' cs).resolve_left hne
    exact ⟨front, c, rfl, h c (by simp)⟩

theorem tight_iff {cs : List Char} :
    (cs.head?.any (!isSpace ·) = true ∧ cs.getLast?.any (!isSpace ·) = true) ↔ Tight cs := by
  simp only [Option.any_eq_true, List.head?_eq_some_iff, List.getLast?_eq_some_iff,
    Bool.not_eq_true']
  constructor
  · rintro ⟨⟨c, ⟨rest, hrest⟩, hc⟩, ⟨c', ⟨front, hfront⟩, hc'⟩⟩
    exact ⟨⟨c, rest, hrest, hc⟩, ⟨front, c', hfront, hc'⟩⟩
  · rintro ⟨⟨c, rest, hrest, hc⟩, ⟨front, c', hfront, hc'⟩⟩
    exact ⟨⟨c, ⟨rest, hrest⟩, hc⟩, ⟨c', ⟨front, hfront⟩, hc'⟩⟩

instance (cs : List Char) : Decidable (Tight cs) := decidable_of_iff _ tight_iff

/-- Only the two ends matter. -/
theorem Tight.append {u v : List Char} (hu : Tight u) (hv : Tight v) (w : List Char) :
    Tight (u ++ (w ++ v)) := by
  obtain ⟨c, rest, rfl, hc⟩ := hu.head
  obtain ⟨front, d, rfl, hd⟩ := hv.last
  exact ⟨⟨c, rest ++ (w ++ (front ++ [d])), rfl, hc⟩, ⟨c :: rest ++ (w ++ front), d, by simp, hd⟩⟩

theorem Tight.ne_nil {cs : List Char} (h : Tight cs) : cs ≠ [] := by
  obtain ⟨c, rest, rfl, -⟩ := h.head
  exact List.cons_ne_nil c rest

theorem Tight.trim_eq {cs : List Char} (h : Tight cs) : trim cs = cs := by
  have hstart : trimStart cs = cs := by
    obtain ⟨c, rest, rfl, hc⟩ := h.head
    exact List.dropWhile_cons_of_neg (by simp [hc])
  have hend : trimEnd cs = cs := by
    obtain ⟨front, c, rfl, hc⟩ := h.last
    unfold trimEnd dropEndWhile
    rw [List.reverse_append, List.reverse_singleton, List.singleton_append,
      List.dropWhile_cons_of_neg (by simp [hc]), List.reverse_cons, List.reverse_reverse]
  rw [trim, hstart, hend]

theorem trim_sublist (cs : List Char) : (trim cs).Sublist cs := by
  have hend : ∀ cs, (trimEnd cs).Sublist cs := by
    intro cs
    have hdrop := (List.dropWhile_sublist (p := isSpace) (l := cs.reverse)).reverse
    rwa [List.reverse_reverse] at hdrop
  exact (hend (trimStart cs)).trans (List.dropWhile_sublist _)

theorem trim_cons_of_isSpace {c : Char} (hc : isSpace c = true) (cs : List Char) :
    trim (c :: cs) = trim cs := by
  unfold trim trimStart
  rw [List.dropWhile_cons_of_pos hc]

theorem trim_append_of_isSpace {space : List Char} (h : ∀ c ∈ space, isSpace c = true)
    (cs : List Char) : trim (space ++ cs) = trim cs := by
  induction space with
  | nil => rfl
  | cons c space ih =>
    obtain ⟨hc, hspace⟩ := List.forall_mem_cons.mp h
    rw [List.cons_append, trim_cons_of_isSpace hc, ih hspace]

private def spaceRanges : List (Nat × Nat) :=
  [(9, 13), (32, 32), (0x85, 0x85), (0xA0, 0xA0), (0x1680, 0x1680), (0x2000, 0x200A),
   (0x2028, 0x2029), (0x202F, 0x202F), (0x205F, 0x205F), (0x3000, 0x3000)]

private theorem exists_spaceRange {c : Char} (h : isSpace c = true) :
    ∃ r ∈ spaceRanges, r.1 ≤ c.toNat ∧ c.toNat ≤ r.2 := by
  simp only [isSpace, Bool.or_eq_true, Bool.and_eq_true, decide_eq_true_eq, beq_iff_eq] at h
  simp only [spaceRanges, List.exists_mem_cons_iff, List.not_mem_nil, false_and, exists_false]
  omega

private theorem exists_alphanumericRange {c : Char} (h : isAlphanumeric c = true) :
    ∃ r ∈ (48, 122) :: alphanumericRanges, r.1 ≤ c.toNat ∧ c.toNat ≤ r.2 := by
  rcases Bool.or_eq_true_iff.mp h with h | h
  · refine ⟨(48, 122), List.mem_cons_self, ?_⟩
    change (decide (65 ≤ c.val ∧ c.val ≤ 90) || (decide (97 ≤ c.val) && decide (c.val ≤ 122)) ||
      (decide (48 ≤ c.val) && decide (c.val ≤ 57))) = true at h
    simp only [Bool.or_eq_true, Bool.and_eq_true, decide_eq_true_eq, UInt32.le_iff_toNat_le] at h
    change ((65 ≤ c.toNat ∧ c.toNat ≤ 90) ∨ 97 ≤ c.toNat ∧ c.toNat ≤ 122) ∨
      48 ≤ c.toNat ∧ c.toNat ≤ 57 at h
    omega
  · obtain ⟨r, hr, hin⟩ := List.any_eq_true.mp h
    exact ⟨r, List.mem_cons_of_mem _ hr, by simpa using hin⟩

theorem isSpace_eq_false_of_isAlphanumeric {c : Char} (h : isAlphanumeric c = true) :
    isSpace c = false := by
  have hapart : ∀ r ∈ (48, 122) :: alphanumericRanges, ∀ s ∈ spaceRanges,
      r.2 < s.1 ∨ s.2 < r.1 := by decide +kernel
  by_contra hs
  obtain ⟨r, hr, hrc⟩ := exists_alphanumericRange h
  obtain ⟨s, hs, hsc⟩ := exists_spaceRange (Bool.not_eq_false _ ▸ hs)
  have := hapart r hr s hs
  omega

end RouteDoc.Text
