import RouteDoc.Proofs.Text
import RouteDoc.Route.Basic

/-! Path templates. A template has the segments of its path, with the parameters in braces; where the
path has no braces of its own, the names in braces are those of its parameters. -/
namespace RouteDoc.Path
open Text

theorem segments_append_cons (u v : List Char) :
    segments (u ++ '/' :: v) = segments u ++ segments v :=
  List.splitOn_append_cons_self u v

theorem segments_cons_slash (cs : List Char) : segments ('/' :: cs) = [] :: segments cs :=
  segments_append_cons [] cs

theorem segments_ne_nil (cs : List Char) : segments cs ≠ [] := List.splitOn_ne_nil '/' cs

theorem intercalate_append {l l' : List (List Char)} (hl : l ≠ []) (hl' : l' ≠ []) :
    ['/'].intercalate (l ++ l') = ['/'].intercalate l ++ '/' :: ['/'].intercalate l' := by
  induction l with
  | nil => exact absurd rfl hl
  | cons s rest ih =>
    cases rest with
    | nil => simp [List.intercalate_cons_of_ne_nil hl']
    | cons s' rest =>
      have hrest := ih (List.cons_ne_nil s' rest)
      rw [List.cons_append, List.cons_append, List.intercalate_cons_cons, ← List.cons_append, hrest,
        List.intercalate_cons_cons]
      simp only [List.append_assoc]

/-- A double slash is an empty segment between two others. -/
theorem infix_slashes_iff {cs : List Char} :
    ['/', '/'] <:+: cs ↔ ∃ before after, before ≠ [] ∧ after ≠ [] ∧
      segments cs = before ++ [] :: after := by
  constructor
  · rintro ⟨u, v, rfl⟩
    refine ⟨segments u, segments v, segments_ne_nil u, segments_ne_nil v, ?_⟩
    rw [List.append_assoc, ← segments_cons_slash]
    exact segments_append_cons u ('/' :: v)
  · rintro ⟨before, after, hbefore, hafter, hsegments⟩
    have hcs : cs = ['/'].intercalate (segments cs) := (List.intercalate_splitOn '/').symm
    rw [hcs, hsegments, intercalate_append hbefore (List.cons_ne_nil _ _),
      List.intercalate_cons_of_ne_nil hafter]
    exact ⟨['/'].intercalate before, ['/'].intercalate after, by simp⟩

theorem param?_eq_some_iff {s name : List Char} :
    param? s = some name ↔ ∃ text, s = ':' :: text ∧ dropEndWhile (· == '?') text = name := by
  constructor
  · intro h
    unfold param? at h
    split at h
    · exact ⟨_, rfl, Option.some.inj h⟩
    · cases h
  · rintro ⟨text, rfl, rfl⟩
    rfl

theorem notMem_templateSegment {s : List Char} (h : '/' ∉ s) : '/' ∉ templateSegment s := by
  unfold templateSegment
  cases hparam : param? s with
  | none => exact h
  | some name =>
    obtain ⟨text, rfl, rfl⟩ := param?_eq_some_iff.mp hparam
    have htext : '/' ∉ text := fun hmem => h (List.mem_cons_of_mem ':' hmem)
    have hname : '/' ∉ dropEndWhile (· == '?') text :=
      fun hmem => htext ((List.rdropWhile_prefix _ text).subset hmem)
    simpa using hname

/-- What stands in a template is no parameter any more. -/
theorem param?_templateSegment (s : List Char) : param? (templateSegment s) = none := by
  unfold templateSegment
  cases hparam : param? s with
  | none => exact hparam
  | some name => rfl

theorem templateSegment_templateSegment (s : List Char) :
    templateSegment (templateSegment s) = templateSegment s := by
  have hnone := param?_templateSegment s
  generalize templateSegment s = s' at hnone
  rw [templateSegment, hnone]

theorem segments_templateChars (path : List Char) :
    segments (templateChars path) = (segments path).map templateSegment := by
  refine List.splitOn_intercalate '/' ?_ ?_
  · intro s hs
    obtain ⟨s', hs', rfl⟩ := List.mem_map.mp hs
    exact notMem_templateSegment (notMem_of_mem_splitOn hs')
  · exact mt List.map_eq_nil_iff.mp (segments_ne_nil path)

theorem templateSegment_eq_nil_iff {s : List Char} : templateSegment s = [] ↔ s = [] := by
  unfold templateSegment
  cases hparam : param? s with
  | none => exact Iff.rfl
  | some name =>
    obtain ⟨text, rfl, -⟩ := param?_eq_some_iff.mp hparam
    simp

theorem templateChars_cons_slash (cs : List Char) :
    templateChars ('/' :: cs) = '/' :: templateChars cs := by
  have hrest : (segments cs).map templateSegment ≠ [] :=
    mt List.map_eq_nil_iff.mp (segments_ne_nil cs)
  unfold templateChars
  rw [segments_cons_slash, List.map_cons, List.intercalate_cons_of_ne_nil hrest]
  rfl

/-- A template has a double slash only where its path has one. -/
theorem infix_slashes_of_templateChars {path : List Char}
    (h : ['/', '/'] <:+: templateChars path) : ['/', '/'] <:+: path := by
  obtain ⟨before, after, hbefore, hafter, hsegments⟩ := infix_slashes_iff.mp h
  rw [segments_templateChars, List.map_eq_append_iff] at hsegments
  obtain ⟨before', rest, hpath, rfl, hrest⟩ := hsegments
  obtain ⟨s, after', rfl, hs, rfl⟩ := List.map_eq_cons_iff.mp hrest
  rw [templateSegment_eq_nil_iff] at hs
  exact infix_slashes_iff.mpr ⟨before', after', mt List.map_eq_nil_iff.mpr hbefore,
    mt List.map_eq_nil_iff.mpr hafter, hs ▸ hpath⟩

theorem templateChars_templateChars (path : List Char) :
    templateChars (templateChars path) = templateChars path := by
  have hsame : (segments (templateChars path)).map templateSegment =
      (segments path).map templateSegment := by
    rw [segments_templateChars, List.map_map]
    exact List.map_congr_left fun s _ => templateSegment_templateSegment s
  exact congrArg ['/'].intercalate hsame

theorem template_template (path : String) : template (template path) = template path := by
  unfold template
  rw [String.toList_ofList, templateChars_templateChars]

theorem segments_template (path : String) :
    segments (template path).toList = (segments path.toList).map templateSegment := by
  rw [template, String.toList_ofList, segments_templateChars]

/-- What stands between braces, where a segment has them at both ends. -/
def braced? (s : List Char) : Option (List Char) := (['{'].isPrefixOf? s).bind ['}'].isSuffixOf?

/-- The names in the braces of a template, in order. -/
def templateNames (path : String) : List String :=
  ((segments (template path).toList).filterMap braced?).map String.ofList

/-- No segment starts with a brace, and none is a colon with nothing but question marks after it. -/
def IsRouterPath (path : String) : Prop :=
  ∀ s ∈ segments path.toList, s.head? ≠ some '{' ∧ ∀ n, s ≠ ':' :: List.replicate n '?'

theorem braced?_templateSegment {s : List Char} (h : s.head? ≠ some '{') :
    braced? (templateSegment s) = param? s := by
  unfold templateSegment
  cases hparam : param? s with
  | none =>
    have hstart : ['{'].isPrefixOf? s = none := by
      cases hs : ['{'].isPrefixOf? s with
      | none => rfl
      | some rest =>
        rw [← List.isPrefixOf?_eq_some_iff_append_eq.mp hs] at h
        exact absurd rfl h
    simp [braced?, hstart]
  | some name =>
    have hstart : ['{'].isPrefixOf? ('{' :: name ++ ['}']) = some (name ++ ['}']) := rfl
    simp only [braced?, hstart, Option.bind_some]
    exact List.isSuffixOf?_eq_some_iff_append_eq.mpr rfl

theorem ne_nil_of_param? {s name : List Char} (h : ∀ n, s ≠ ':' :: List.replicate n '?')
    (hname : param? s = some name) : name ≠ [] := by
  obtain ⟨text, rfl, rfl⟩ := param?_eq_some_iff.mp hname
  intro hnil
  rw [dropEndWhile_eq_rdropWhile, List.rdropWhile_eq_nil_iff] at hnil
  have hmarks : text = List.replicate text.length '?' :=
    List.eq_replicate_of_mem fun c hc => beq_iff_eq.mp (hnil c hc)
  exact h text.length (congrArg (':' :: ·) hmarks)

theorem templateNames_eq_params {path : String} (h : IsRouterPath path) :
    templateNames path = params path := by
  have hbraced : (segments (template path).toList).filterMap braced? =
      (segments path.toList).filterMap param? := by
    rw [segments_template, List.filterMap_map]
    refine List.filterMap_congr fun s hs => ?_
    exact braced?_templateSegment (h s hs).1
  have hnames : ∀ name ∈ (segments path.toList).filterMap param?, name ≠ [] := by
    intro name hname
    obtain ⟨s, hs, hparam⟩ := List.mem_filterMap.mp hname
    exact ne_nil_of_param? (h s hs).2 hparam
  rw [templateNames, hbraced, params, ← List.filterMap_eq_map]
  refine List.filterMap_congr fun name hname => ?_
  rw [if_neg (hnames name hname)]
  rfl

end RouteDoc.Path
