import RouteDoc.Proofs.Route.Templates

/-! Joined paths. Joining below a path that is empty or starts with a slash is associative and gives a
path that starts with a slash; neither joining nor templates bring in double slashes. -/
namespace RouteDoc.Path
open Text

/-- A path that adds nothing to that of its group. -/
def IsBare (cs : List Char) : Prop := cs = [] ∨ cs = ['/']

/-- The path without the slashes at its end. -/
def unslashed (cs : List Char) : List Char := dropEndWhile (· == '/') cs

theorem withSlash_of_head? {cs : List Char} (h : cs.head? = some '/') : withSlash cs = cs := by
  obtain ⟨rest, rfl⟩ := List.head?_eq_some_iff.mp h
  rfl

theorem withSlash_of_head?_ne {cs : List Char} (h : cs.head? ≠ some '/') :
    withSlash cs = '/' :: cs := by
  unfold withSlash
  split
  · exact absurd rfl h
  · rfl

theorem head?_withSlash (cs : List Char) : (withSlash cs).head? = some '/' := by
  by_cases h : cs.head? = some '/'
  · rw [withSlash_of_head? h, h]
  · rw [withSlash_of_head?_ne h]
    rfl

theorem withSlash_withSlash (cs : List Char) : withSlash (withSlash cs) = withSlash cs :=
  withSlash_of_head? (head?_withSlash cs)

theorem isBare_withSlash_iff {cs : List Char} : IsBare (withSlash cs) ↔ IsBare cs := by
  by_cases h : cs.head? = some '/'
  · rw [withSlash_of_head? h]
  · rw [withSlash_of_head?_ne h]
    constructor
    · rintro (hcs | hcs)
      · cases hcs
      · exact .inl (List.cons.inj hcs).2
    · rintro (rfl | rfl)
      · exact .inr rfl
      · exact absurd rfl h

theorem isBare_of_append {u v : List Char} (h : IsBare (u ++ v)) : IsBare v := by
  rcases h with h | h
  · exact .inl (List.append_eq_nil_iff.mp h).2
  · rcases List.append_eq_singleton_iff.mp h with ⟨-, hv⟩ | ⟨-, hv⟩
    · exact .inr hv
    · exact .inl hv

/-- For a group without a path and for one with a path alike. -/
theorem joinChars_of_isBare (base : List Char) {path : List Char} (h : IsBare path) :
    joinChars base path = withSlash base := by
  unfold joinChars
  by_cases hbase : base = []
  · rw [if_pos hbase, hbase]
    rcases h with rfl | rfl <;> rfl
  · unfold IsBare at h
    rw [if_neg hbase, if_pos h]

theorem joinChars_of_not_isBare (base : List Char) {path : List Char} (h : ¬ IsBare path) :
    joinChars base path = unslashed base ++ withSlash path := by
  unfold joinChars
  by_cases hbase : base = []
  · rw [if_pos hbase, hbase]
    rfl
  · unfold IsBare at h
    rw [if_neg hbase, if_neg h]
    rfl

theorem joinChars_withSlash (base path : List Char) :
    joinChars base (withSlash path) = joinChars base path := by
  by_cases h : IsBare path
  · rw [joinChars_of_isBare base h, joinChars_of_isBare base (isBare_withSlash_iff.mpr h)]
  · rw [joinChars_of_not_isBare base h, joinChars_of_not_isBare base (mt isBare_withSlash_iff.mp h),
      withSlash_withSlash]

theorem unslashed_append (u v : List Char) :
    unslashed (u ++ v) = if unslashed v = [] then unslashed u else u ++ unslashed v :=
  dropEndWhile_append _ u v

theorem unslashed_cons (c : Char) (cs : List Char) :
    unslashed (c :: cs) = if unslashed cs = [] then unslashed [c] else c :: unslashed cs :=
  unslashed_append [c] cs

theorem head?_unslashed {cs : List Char} (h : unslashed cs ≠ []) :
    (unslashed cs).head? = cs.head? := by
  cases cs with
  | nil => rfl
  | cons c cs =>
    have hstart : unslashed (c :: cs) <+: c :: cs := List.rdropWhile_prefix _ _
    rcases List.prefix_cons_iff.mp hstart with hnil | ⟨rest, heq, -⟩
    · exact absurd hnil h
    · rw [heq]
      rfl

theorem unslashed_withSlash_eq_nil {cs : List Char} (h : unslashed cs = []) :
    unslashed (withSlash cs) = [] := by
  by_cases hcs : cs.head? = some '/'
  · rw [withSlash_of_head? hcs, h]
  · rw [withSlash_of_head?_ne hcs, unslashed_cons, if_pos h]
    rfl

/-- The leading slash of a joined path can be put on before or after joining. -/
theorem unslashed_withSlash_append (a b : List Char) :
    unslashed (withSlash a) ++ withSlash b = withSlash (unslashed a ++ withSlash b) := by
  by_cases hnil : unslashed a = []
  · rw [unslashed_withSlash_eq_nil hnil, hnil, List.nil_append, withSlash_withSlash]
  · have hhead : (unslashed a ++ withSlash b).head? = a.head? := by
      rw [List.head?_append_of_ne_nil _ hnil, head?_unslashed hnil]
    by_cases ha : a.head? = some '/'
    · rw [withSlash_of_head? ha, withSlash_of_head? (hhead.trans ha)]
    · have hjoined : (unslashed a ++ withSlash b).head? ≠ some '/' := hhead ▸ ha
      rw [withSlash_of_head?_ne ha, withSlash_of_head?_ne hjoined, unslashed_cons, if_neg hnil,
        List.cons_append]

section
variable {p : List Char} (hp : p = [] ∨ p.head? = some '/')
include hp

theorem head?_joinChars (path : List Char) : (joinChars p path).head? = some '/' := by
  by_cases h : IsBare path
  · rw [joinChars_of_isBare p h]
    exact head?_withSlash p
  · rw [joinChars_of_not_isBare p h]
    by_cases hnil : unslashed p = []
    · rw [hnil]
      exact head?_withSlash path
    · rw [List.head?_append_of_ne_nil _ hnil, head?_unslashed hnil]
      refine hp.resolve_left ?_
      rintro rfl
      exact hnil rfl

theorem unslashed_joinChars (a : List Char) :
    unslashed (joinChars p a) = unslashed p ++ unslashed (withSlash a) := by
  by_cases ha : IsBare a
  · have hnone : unslashed (withSlash a) = [] := by
      rcases ha with rfl | rfl <;> rfl
    rw [joinChars_of_isBare p ha, hnone, List.append_nil]
    rcases hp with rfl | hp
    · rfl
    · rw [withSlash_of_head? hp]
  · rw [joinChars_of_not_isBare p ha]
    exact dropEndWhile_dropEndWhile_append _ p (withSlash a)

theorem joinChars_assoc (a b : List Char) :
    joinChars (joinChars p a) b = joinChars p (joinChars a b) := by
  by_cases hb : IsBare b
  · rw [joinChars_of_isBare _ hb, joinChars_of_isBare _ hb, joinChars_withSlash,
      withSlash_of_head? (head?_joinChars hp a)]
  · have hinner : ¬ IsBare (unslashed a ++ withSlash b) :=
      fun h => hb (isBare_withSlash_iff.mp (isBare_of_append h))
    calc joinChars (joinChars p a) b
        = unslashed p ++ (unslashed (withSlash a) ++ withSlash b) := by
          rw [joinChars_of_not_isBare _ hb, unslashed_joinChars hp, List.append_assoc]
      _ = unslashed p ++ withSlash (unslashed a ++ withSlash b) := by
          rw [unslashed_withSlash_append]
      _ = joinChars p (joinChars a b) := by
          rw [joinChars_of_not_isBare a hb, joinChars_of_not_isBare p hinner]

end

theorem infix_slashes_of_withSlash {cs : List Char} (h : ['/', '/'] <:+: withSlash cs) :
    ['/', '/'] <:+: cs := by
  by_cases hcs : cs.head? = some '/'
  · rwa [withSlash_of_head? hcs] at h
  · rw [withSlash_of_head?_ne hcs] at h
    rcases List.infix_cons_iff.mp h with hstart | h
    · obtain ⟨rest, hrest⟩ := hstart
      obtain ⟨-, rfl⟩ := List.cons.inj hrest
      exact absurd rfl hcs
    · exact h

theorem not_suffix_unslashed (cs : List Char) : ¬ ['/'] <:+ unslashed cs := by
  rintro ⟨front, hfront⟩
  have hlast : (unslashed cs).getLast? = some '/' := by rw [← hfront, List.getLast?_concat]
  obtain ⟨hne, hslash⟩ := List.mem_getLast?_eq_getLast hlast
  exact List.rdropWhile_last_not _ cs hne (beq_iff_eq.mpr hslash.symm)

/-- The two paths meet at one slash. -/
theorem infix_slashes_of_joinChars {base path : List Char}
    (h : ['/', '/'] <:+: joinChars base path) : ['/', '/'] <:+: base ∨ ['/', '/'] <:+: path := by
  by_cases hpath : IsBare path
  · rw [joinChars_of_isBare base hpath] at h
    exact .inl (infix_slashes_of_withSlash h)
  · rw [joinChars_of_not_isBare base hpath] at h
    have hbase : unslashed base <+: base := List.rdropWhile_prefix _ base
    rcases List.infix_append_iff.mp h with h | h | ⟨u, v, huv, hu, hv⟩
    · exact .inl (h.trans hbase.isInfix)
    · exact .inr (infix_slashes_of_withSlash h)
    · -- a double slash across the seam would need one at the end of the first path
      rcases List.append_eq_cons_iff.mp huv.symm with ⟨rfl, rfl⟩ | ⟨u', rfl, hu'⟩
      · exact .inr (infix_slashes_of_withSlash hv.isInfix)
      · have hslash : ['/'] <:+ '/' :: u' := by
          rcases List.append_eq_singleton_iff.mp hu'.symm with ⟨rfl, -⟩ | ⟨rfl, -⟩
          · exact List.suffix_rfl
          · exact List.suffix_cons _ _
        exact absurd (hslash.trans hu) (not_suffix_unslashed base)

def IsRooted (path : String) : Prop := path.toList.head? = some '/'

instance (path : String) : Decidable (IsRooted path) := inferInstanceAs (Decidable (_ = _))

def HasDoubleSlash (path : String) : Prop := ['/', '/'] <:+: path.toList

instance (path : String) : Decidable (HasDoubleSlash path) :=
  inferInstanceAs (Decidable (_ <:+: _))

theorem toList_join (base path : String) :
    (join base path).toList = joinChars base.toList path.toList := String.toList_ofList

theorem head?_toList {p : String} (h : p = "" ∨ IsRooted p) :
    p.toList = [] ∨ p.toList.head? = some '/' :=
  h.imp_left String.toList_eq_nil_iff.mpr

theorem isRooted_join {p : String} (hp : p = "" ∨ IsRooted p) (path : String) :
    IsRooted (join p path) := by
  rw [IsRooted, toList_join]
  exact head?_joinChars (head?_toList hp) _

theorem join_assoc {p : String} (hp : p = "" ∨ IsRooted p) (a b : String) :
    join (join p a) b = join p (join a b) := by
  have hchars := joinChars_assoc (head?_toList hp) a.toList b.toList
  rw [← toList_join, ← toList_join a b] at hchars
  exact congrArg String.ofList hchars

-- A path without a leading slash gets one when it is joined with nothing, but not with a path.
example : join (join "v1" "") "orders" ≠ join "v1" (join "" "orders") := by decide

theorem hasDoubleSlash_of_join {base path : String} (h : HasDoubleSlash (join base path)) :
    HasDoubleSlash base ∨ HasDoubleSlash path := by
  rw [HasDoubleSlash, toList_join] at h
  exact infix_slashes_of_joinChars h

theorem IsRooted.template {path : String} (h : IsRooted path) : IsRooted (template path) := by
  obtain ⟨rest, hrest⟩ := List.head?_eq_some_iff.mp h
  rw [IsRooted, Path.template, String.toList_ofList, hrest, templateChars_cons_slash]
  rfl

theorem hasDoubleSlash_of_template {path : String} (h : HasDoubleSlash (template path)) :
    HasDoubleSlash path := by
  rw [HasDoubleSlash, Path.template, String.toList_ofList] at h
  exact infix_slashes_of_templateChars h

end RouteDoc.Path
