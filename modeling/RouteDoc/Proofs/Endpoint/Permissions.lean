import Mathlib.Data.List.Infix
import RouteDoc.Go.Token
import RouteDoc.Proofs.Endpoint.Security
import RouteDoc.Proofs.Go.Literal
import RouteDoc.Route.Extract

/-! Permission scopes in the text of middleware. A call that asks for permissions becomes text, and
its scopes are read from this text again. They come back as they were if every argument is its scope
between double quotes and nothing in it is taken for something else; without parentheses in the
scopes, only then. -/
namespace RouteDoc

namespace Go

/-- A name as a source file has it. -/
def IsIdentifier (name : String) : Prop :=
  name.toList.head?.any Text.isIdentStart = true ∧ name.toList.tail.all Text.isIdentPart = true

instance (name : String) : Decidable (IsIdentifier name) :=
  inferInstanceAs (Decidable (_ ∧ _))

/-- An identifier with any number of selectors. -/
inductive IsPath : Expr → Prop where
  | ident {name : String} (h : IsIdentifier name) : IsPath (.ident name)
  | selector {operand : Expr} {field : String} (h : IsPath operand) (hfield : IsIdentifier field) :
      IsPath (.selector operand field)

theorem IsIdentifier.notMem_paren {name : String} (h : IsIdentifier name) : '(' ∉ name.toList := by
  have hstart : Text.isIdentStart '(' = false := by decide +kernel
  have hpart : Text.isIdentPart '(' = false := by decide +kernel
  obtain ⟨hhead, htail⟩ := h
  cases hname : name.toList with
  | nil => exact List.not_mem_nil
  | cons c cs =>
    rw [hname] at hhead htail
    intro hmem
    rcases List.mem_cons.mp hmem with rfl | hmem
    · exact absurd hhead (by simp [hstart])
    · have hd := List.all_eq_true.mp htail _ hmem
      rw [hpart] at hd
      cases hd

theorem IsPath.notMem_paren {e : Expr} (h : IsPath e) : '(' ∉ e.dotted.toList := by
  induction h with
  | ident h => exact h.notMem_paren
  | selector _ hfield ih =>
    have hdot : '(' ∉ ".".toList := by decide
    simp only [Expr.dotted, String.toList_append, List.mem_append, not_or]
    exact ⟨⟨ih, hdot⟩, hfield.notMem_paren⟩

end Go

/-- Each call is looked for by a word and the parenthesis after it. -/
theorem exists_word_of_mem_permissionCalls {call : String × Bool} (h : call ∈ permissionCalls) :
    ∃ word, call.1.toList = word ++ ['('] ∧ word.all Char.isAlpha = true := by
  have hwords : ∀ call ∈ permissionCalls, call.1.toList = call.1.toList.dropLast ++ ['('] ∧
      call.1.toList.dropLast.all Char.isAlpha = true := by decide
  exact ⟨_, hwords call h⟩

theorem notMem_of_all_isAlpha {word : List Char} (h : word.all Char.isAlpha = true) {x : Char}
    (hx : x.isAlpha = false) : x ∉ word := by
  intro hmem
  have hletter := List.all_eq_true.mp h x hmem
  rw [hx] at hletter
  cases hletter

theorem notMem_of_mem_permissionCalls {call : String × Bool} (h : call ∈ permissionCalls) {x : Char}
    (hx : x.isAlpha = false) (hne : x ≠ '(') : x ∉ call.1.toList := by
  obtain ⟨word, hword, hletters⟩ := exists_word_of_mem_permissionCalls h
  rw [hword, List.mem_append, List.mem_singleton, not_or]
  exact ⟨notMem_of_all_isAlpha hletters hx, hne⟩

theorem paren_mem_of_mem_permissionCalls {call : String × Bool} (h : call ∈ permissionCalls) :
    '(' ∈ call.1.toList := by
  obtain ⟨word, hword, -⟩ := exists_word_of_mem_permissionCalls h
  rw [hword]
  exact List.mem_append_right word List.mem_cons_self

/-- The number of open parentheses after a text, unless one is closed that is not open. -/
def openAfter? (depth : Nat) : List Char → Option Nat
  | [] => some depth
  | c :: cs =>
    if c = '(' then openAfter? (depth + 1) cs
    else if c = ')' then
      match depth with
      | 0 => none
      | depth + 1 => openAfter? depth cs
    else openAfter? depth cs

/-- Text whose parentheses match. -/
def IsLevel (cs : List Char) : Prop := openAfter? 0 cs = some 0

instance (cs : List Char) : Decidable (IsLevel cs) :=
  inferInstanceAs (Decidable (openAfter? 0 cs = some 0))

theorem openAfter?_append (depth : Nat) (u v : List Char) :
    openAfter? depth (u ++ v) = (openAfter? depth u).bind (openAfter? · v) := by
  fun_induction openAfter? depth u with
  | case1 => rfl
  | case2 depth cs ih => simpa [openAfter?] using ih
  | case3 cs hopen => simp [openAfter?]
  | case4 cs hopen depth ih => simpa [openAfter?] using ih
  | case5 depth c cs hopen hclose ih => simpa [openAfter?, hopen, hclose] using ih

theorem openAfter?_eq_some {cs : List Char} (hopen : '(' ∉ cs) (hclose : ')' ∉ cs) (depth : Nat) :
    openAfter? depth cs = some depth := by
  induction cs with
  | nil => rfl
  | cons c cs ih =>
    obtain ⟨hc, hcs⟩ := not_or.mp (mt List.mem_cons.mpr hopen)
    obtain ⟨hc', hcs'⟩ := not_or.mp (mt List.mem_cons.mpr hclose)
    unfold openAfter?
    rw [if_neg (Ne.symm hc), if_neg (Ne.symm hc'), ih hcs hcs']

theorem IsLevel.append {u v : List Char} (hu : IsLevel u) (hv : IsLevel v) : IsLevel (u ++ v) := by
  unfold IsLevel at hu hv ⊢
  rw [openAfter?_append, hu, Option.bind_some, hv]

theorem IsLevel.cons {c : Char} {cs : List Char} (hopen : c ≠ '(') (hclose : c ≠ ')')
    (h : IsLevel cs) : IsLevel (c :: cs) := by
  unfold IsLevel openAfter?
  rw [if_neg hopen, if_neg hclose]
  exact h

theorem isLevel_of_notMem {cs : List Char} (hopen : '(' ∉ cs) (hclose : ')' ∉ cs) : IsLevel cs :=
  openAfter?_eq_some hopen hclose 0

theorem beforeClosing?_cons {c : Char} (hopen : c ≠ '(') (hclose : c ≠ ')') (depth : Nat)
    (cs : List Char) : beforeClosing? depth (c :: cs) = (beforeClosing? depth cs).map (c :: ·) := by
  rw [beforeClosing?.eq_def]
  exact (if_neg hopen).trans (if_neg hclose)

theorem beforeClosing?_append {depth depth' : Nat} {cs : List Char}
    (h : openAfter? depth cs = some depth') (rest : List Char) :
    beforeClosing? depth (cs ++ rest) = (beforeClosing? depth' rest).map (cs ++ ·) := by
  fun_induction openAfter? depth cs with
  | case1 =>
    cases h
    simp
  | case2 depth cs ih =>
    have hopen : beforeClosing? depth ('(' :: (cs ++ rest)) =
        (beforeClosing? (depth + 1) (cs ++ rest)).map ('(' :: ·) := by
      rw [beforeClosing?.eq_def]
      rfl
    rw [List.cons_append, hopen, ih h, Option.map_map]
    rfl
  | case3 => cases h
  | case4 cs depth _ ih =>
    have hclose : beforeClosing? (depth + 1) (')' :: (cs ++ rest)) =
        (beforeClosing? depth (cs ++ rest)).map (')' :: ·) := by
      rw [beforeClosing?.eq_def]
      rfl
    rw [List.cons_append, hclose, ih h, Option.map_map]
    rfl
  | case5 depth c cs hopen hclose ih =>
    rw [List.cons_append, beforeClosing?_cons hopen hclose, ih h, Option.map_map]
    rfl

/-- The parenthesis after level text closes the one before it. -/
theorem IsLevel.beforeClosing? {cs : List Char} (h : IsLevel cs) :
    beforeClosing? 0 (cs ++ [')']) = some cs := by
  rw [beforeClosing?_append h]
  simp [RouteDoc.beforeClosing?]

/-- Texts with a comma and a blank between neighbours. -/
def listed (ts : List (List Char)) : List Char := ", ".toList.intercalate ts

theorem listed_cons_cons (t u : List Char) (rest : List (List Char)) :
    listed (t :: u :: rest) = t ++ ',' :: ' ' :: listed (u :: rest) := by
  unfold listed
  rw [List.intercalate_cons_cons, List.append_assoc]
  rfl

theorem listed_singleton (t : List Char) : listed [t] = t := List.intercalate_singleton

theorem isLevel_listed {ts : List (List Char)} (h : ∀ t ∈ ts, IsLevel t) : IsLevel (listed ts) := by
  induction ts with
  | nil => rfl
  | cons t rest ih =>
    have ht := h t List.mem_cons_self
    have hrest := ih fun t ht => h t (List.mem_cons_of_mem _ ht)
    cases rest with
    | nil => exact (listed_singleton t).symm ▸ ht
    | cons u rest =>
      rw [listed_cons_cons]
      exact ht.append (.cons (by decide) (by decide) (.cons (by decide) (by decide) hrest))

/-- What has no separator in it stands in one of the texts. -/
theorem exists_infix_of_infix_listed {needle : List Char} {ts : List (List Char)} (hne : needle ≠ [])
    (hcomma : ',' ∉ needle) (hblank : ' ' ∉ needle) (h : needle <:+: listed ts) :
    ∃ t ∈ ts, needle <:+: t := by
  induction ts with
  | nil => exact absurd (List.infix_nil.mp h) hne
  | cons t rest ih =>
    cases rest with
    | nil => exact ⟨t, List.mem_cons_self, listed_singleton t ▸ h⟩
    | cons u rest =>
      rw [listed_cons_cons] at h
      rcases Text.infix_or_infix_of_infix hcomma h with h | h
      · exact ⟨t, List.mem_cons_self, h⟩
      · rcases Text.infix_or_infix_of_infix (u := []) hblank h with h | h
        · exact absurd (List.infix_nil.mp h) hne
        · obtain ⟨t', ht', h⟩ := ih h
          exact ⟨t', List.mem_cons_of_mem _ ht', h⟩

theorem permission?_blank (cs : List Char) : permission? (' ' :: cs) = permission? cs := by
  unfold permission?
  rw [Text.trim_cons_of_isSpace rfl]

theorem filterMap_permission?_splitOn_blank (cs : List Char) :
    ((' ' :: cs).splitOn ',').filterMap permission? = (cs.splitOn ',').filterMap permission? := by
  obtain ⟨piece, pieces, hcs⟩ := List.exists_cons_of_ne_nil (List.splitOn_ne_nil ',' cs)
  have hsplit : (' ' :: cs).splitOn ',' = (' ' :: piece) :: pieces := by
    rw [List.splitOn_cons_eq_if_modifyHead, if_neg (by decide), hcs, List.modifyHead_cons]
  rw [hsplit, hcs, List.filterMap_cons, List.filterMap_cons, permission?_blank]

theorem filterMap_permission?_listed {ts : List (List Char)} (h : ∀ t ∈ ts, ',' ∉ t) :
    ((listed ts).splitOn ',').filterMap permission? = ts.filterMap permission? := by
  induction ts with
  | nil => rfl
  | cons t rest ih =>
    have ht := List.splitOn_eq_singleton (h t List.mem_cons_self)
    have hrest := ih fun t ht => h t (List.mem_cons_of_mem _ ht)
    cases rest with
    | nil => rw [listed_singleton, ht]
    | cons u rest =>
      have hblank := filterMap_permission?_splitOn_blank (listed (u :: rest))
      rw [listed_cons_cons, List.splitOn_append_cons_self, ht, List.filterMap_append, hblank, hrest,
        ← List.filterMap_append, List.singleton_append]

theorem bare_subset (arg : List Char) : bare arg ⊆ arg := by
  have hbetween : ∀ quote inner, Go.between? quote (Text.trim arg) = some inner → inner ⊆ arg := by
    intro quote inner h
    refine List.Subset.trans ?_ (Text.trim_sublist arg).subset
    rw [Go.eq_of_between? h]
    exact fun c hc => List.mem_cons_of_mem quote (List.mem_append_left _ hc)
  unfold bare
  cases hdouble : Go.between? '"' (Text.trim arg) with
  | some inner => exact hbetween '"' inner hdouble
  | none =>
    cases hsingle : Go.between? '\'' (Text.trim arg) with
    | some inner => exact hbetween '\'' inner hsingle
    | none => exact (Text.trim_sublist arg).subset

/-- A scope has no comma that is not in its argument. -/
theorem notMem_of_permission? {arg : List Char} {scope : String} (harg : ',' ∉ arg)
    (h : permission? arg = some scope) : ',' ∉ scope.toList := by
  have hnames : ∀ e ∈ permissionNames, ',' ∉ e.2.toList := by decide
  obtain ⟨-, rfl | ⟨e, he, rfl⟩⟩ := permission?_eq_some h
  · rw [String.toList_ofList]
    exact fun hmem => harg (bare_subset arg hmem)
  · exact hnames e he

/-- A text between double quotes. -/
def quoted (s : String) : String := "\"" ++ s ++ "\""

theorem toList_quoted (s : String) : (quoted s).toList = '"' :: (s.toList ++ ['"']) := by
  simp [quoted]

theorem lookup_permissionNames_eq_none {name : String} {c : Char} (hc : c ∈ name.toList)
    (h : c ∈ ['`', '\\']) : permissionNames.lookup name = none := by
  have hne : name ≠ "session_manager_models.SuperadminRoleFeature" := by
    rintro rfl
    have hnone : ['`', '\\'].any
        "session_manager_models.SuperadminRoleFeature".toList.contains = false := by decide
    exact List.any_eq_false.mp hnone c h (List.contains_iff_mem.mpr hc)
  have hbeq : (name == "session_manager_models.SuperadminRoleFeature") = false := by
    simpa using hne
  simp [permissionNames, List.lookup_cons, hbeq]

/-- The scope read from a string literal is its value only if the literal is the value between double
quotes. -/
theorem exists_permission?_of_isStringText {text : String} (h : Go.IsStringText text.toList)
    (hne : Go.unquote text ≠ "") (hname : permissionNames.lookup (Go.unquote text) = none) :
    ∃ scope, permission? text.toList = some scope ∧
      (scope = Go.unquote text ↔ text = quoted (Go.unquote text)) := by
  generalize hchars : text.toList = chars at h
  have htight : ∀ (quote : Char) (cs : List Char), Text.isSpace quote = false →
      Text.trim (quote :: (cs ++ [quote])) = quote :: (cs ++ [quote]) := by
    intro quote cs hquote
    exact Text.Tight.trim_eq ⟨⟨quote, _, rfl, hquote⟩, ⟨quote :: cs, quote, rfl, hquote⟩⟩
  cases h with
  | @raw cs hcs =>
    have hbare : bare ('`' :: (cs ++ ['`'])) = '`' :: (cs ++ ['`']) := by
      unfold bare
      rw [htight '`' cs rfl, Go.between?_cons_eq_none (by decide),
        Go.between?_cons_eq_none (by decide)]
      rfl
    have hlookup : permissionNames.lookup (String.ofList ('`' :: (cs ++ ['`']))) = none :=
      lookup_permissionNames_eq_none (c := '`') (by simp) (by decide)
    have hvalue := Go.toList_unquote_raw cs hchars
    refine ⟨String.ofList ('`' :: (cs ++ ['`'])), ?_, ?_⟩
    · rw [permission?_eq, hbare, if_neg (List.cons_ne_nil _ _), hlookup, Option.getD_none]
    · constructor
      · intro heq
        -- the value has no quotes, so it is shorter
        have hlength := congrArg (fun s => s.toList.length) heq
        simp only [String.toList_ofList, hvalue, List.length_cons, List.length_append,
          List.length_nil] at hlength
        omega
      · intro heq
        have hhead := congrArg String.toList heq
        rw [hchars, toList_quoted] at hhead
        exact absurd (List.cons.inj hhead).1 (by decide)
  | @interpreted cs hcs =>
    have hbare : bare ('"' :: (cs ++ ['"'])) = cs := by
      unfold bare
      rw [htight '"' cs rfl, Go.between?_eq_some]
      rfl
    have hvalue := Go.toList_unquote_interpreted cs hchars
    have hcs' : cs ≠ [] := by
      rintro rfl
      exact hne (String.toList_inj.mp hvalue)
    have hquoted : text = quoted (Go.unquote text) ↔ cs = Go.unescape cs := by
      rw [← String.toList_inj, hchars, toList_quoted, hvalue, List.cons.injEq, List.append_left_inj]
      simp
    rw [hquoted, permission?_eq, hbare, if_neg hcs']
    by_cases hslash : '\\' ∈ cs
    · have hlookup : permissionNames.lookup (String.ofList cs) = none :=
        lookup_permissionNames_eq_none (c := '\\') (by simpa using hslash) (by decide)
      refine ⟨String.ofList cs, by rw [hlookup, Option.getD_none], ?_⟩
      rw [← String.toList_inj, String.toList_ofList, hvalue]
    · have hself := Go.unescape_eq_self hslash
      have hvalue' : Go.unquote text = String.ofList cs := by
        rw [← String.toList_inj, hvalue, hself, String.toList_ofList]
      refine ⟨Go.unquote text, ?_, ?_⟩
      · rw [← hvalue', hname, Option.getD_none]
      · rw [hself]
        simp

/-- A call that asks for permissions. Its callee ends in the name of one of the calls that are looked
for, and its arguments are string literals, of which none is empty or stands for another scope. -/
structure PermissionCall where
  callee : Go.Expr
  /-- The name that the callee ends in, and whether the call takes several scopes. -/
  name : String
  several : Bool
  literals : List String
  isPath : Go.IsPath callee
  known : (name ++ "(", several) ∈ permissionCalls
  named : name.toList <:+ callee.dotted.toList
  single : several = false → literals.length = 1
  strings : ∀ text ∈ literals, Go.IsStringText text.toList
  nonempty : ∀ text ∈ literals, Go.unquote text ≠ ""
  unnamed : ∀ text ∈ literals, permissionNames.lookup (Go.unquote text) = none

namespace PermissionCall
variable (c : PermissionCall)

def args : List Go.Expr := c.literals.map fun text => .lit ⟨.string, text⟩

def expr : Go.Expr := .call c.callee c.args

/-- The values of the arguments. -/
def scopes : List String := c.args.filterMap Go.Expr.stringLiteral?

/-- The text between the parentheses of the call. -/
def argsText : List Char := listed (c.literals.map String.toList)

theorem scopes_eq : c.scopes = c.literals.map Go.unquote := by
  unfold scopes args
  rw [List.filterMap_map]
  exact congrFun List.filterMap_eq_map c.literals

theorem unquote_mem_scopes {text : String} (h : text ∈ c.literals) : Go.unquote text ∈ c.scopes := by
  rw [c.scopes_eq]
  exact List.mem_map_of_mem h

theorem toList_middlewareText (s : RouteScan) :
    (s.middlewareText c.expr).toList = c.callee.dotted.toList ++ '(' :: (c.argsText ++ [')']) := by
  have htexts : c.args.map argumentText = c.literals := by
    unfold args
    rw [List.map_map]
    exact List.map_id c.literals
  have htext : s.middlewareText c.expr =
      c.callee.dotted ++ "(" ++ String.intercalate ", " c.literals ++ ")" := by
    rw [← htexts]
    rfl
  simp [htext, listed, argsText]

/-- No other of the calls ends where this one does. -/
theorem eq_of_suffix {call : String × Bool} (hcall : call ∈ permissionCalls)
    (h : call.1.toList <:+ c.callee.dotted.toList ++ ['(']) : call = (c.name ++ "(", c.several) := by
  have hnone : ∀ a ∈ permissionCalls, ∀ b ∈ permissionCalls, a.1.toList <:+ b.1.toList → a = b := by
    decide
  have hnamed : (c.name ++ "(").toList <:+ c.callee.dotted.toList ++ ['('] := by
    obtain ⟨front, hfront⟩ := c.named
    exact ⟨front, by simp [← hfront]⟩
  rcases List.suffix_or_suffix_of_suffix h hnamed with h | h
  · exact hnone call hcall _ c.known h
  · exact (hnone _ c.known call hcall h).symm

theorem afterFirst?_own (s : RouteScan) :
    Text.afterFirst? (c.name ++ "(").toList (s.middlewareText c.expr).toList =
      some (c.argsText ++ [')']) := by
  obtain ⟨front, hfront⟩ := c.named
  have hparen : '(' ∉ front ++ c.name.toList := hfront ▸ c.isPath.notMem_paren
  rw [c.toList_middlewareText, ← hfront, String.toList_append]
  exact Text.afterFirst?_append_cons hparen _

variable {c} in
theorem not_infix_argsText {call : String × Bool} (hcall : call ∈ permissionCalls)
    (h : ∀ text ∈ c.literals, ¬call.1.toList <:+: text.toList) :
    ¬call.1.toList <:+: c.argsText ++ [')'] := by
  have hne : call.1.toList ≠ [] := List.ne_nil_of_mem (paren_mem_of_mem_permissionCalls hcall)
  have hclose : ')' ∉ call.1.toList := notMem_of_mem_permissionCalls hcall rfl (by decide)
  have hcomma : ',' ∉ call.1.toList := notMem_of_mem_permissionCalls hcall rfl (by decide)
  have hblank : ' ' ∉ call.1.toList := notMem_of_mem_permissionCalls hcall rfl (by decide)
  intro hpart
  rcases Text.infix_or_infix_of_infix hclose hpart with hpart | hpart
  · obtain ⟨chars, hchars, hpart⟩ := exists_infix_of_infix_listed hne hcomma hblank hpart
    obtain ⟨text, htext, rfl⟩ := List.mem_map.mp hchars
    exact h text htext hpart
  · exact hne (List.infix_nil.mp hpart)

theorem afterFirst?_other {call : String × Bool} (hcall : call ∈ permissionCalls)
    (hne : call ≠ (c.name ++ "(", c.several))
    (h : ∀ text ∈ c.literals, ¬call.1.toList <:+: text.toList) (s : RouteScan) :
    Text.afterFirst? call.1.toList (s.middlewareText c.expr).toList = none := by
  obtain ⟨word, hword, hletters⟩ := exists_word_of_mem_permissionCalls hcall
  have hparen : '(' ∉ word := notMem_of_all_isAlpha hletters rfl
  rw [← Option.not_isSome_iff_eq_none, Text.isSome_afterFirst?_iff, c.toList_middlewareText]
  intro hpart
  rw [hword] at hpart
  rcases Text.suffix_or_infix_of_infix hparen c.isPath.notMem_paren hpart with hown | hargs
  · refine hne (c.eq_of_suffix hcall ?_)
    obtain ⟨front, hfront⟩ := hown
    rw [hword, ← hfront, List.append_assoc]
    exact List.suffix_append _ _
  · exact not_infix_argsText hcall h (hword ▸ hargs)

private theorem flatMap_eq_of_forall_ne {α β : Type} {l : List α} (hl : l.Nodup) {a : α} (ha : a ∈ l)
    {f : α → List β} (h : ∀ b ∈ l, b ≠ a → f b = []) : l.flatMap f = f a := by
  induction l with
  | nil => cases ha
  | cons b l ih =>
    obtain ⟨hb, hl⟩ := List.nodup_cons.mp hl
    rw [List.flatMap_cons]
    rcases List.mem_cons.mp ha with rfl | ha
    · have hrest : l.flatMap f = [] := by
        refine List.flatMap_eq_nil_iff.mpr fun b' hb' => ?_
        exact h b' (List.mem_cons_of_mem a hb') fun heq => hb (heq ▸ hb')
      rw [hrest, List.append_nil]
    · have hnil : f b = [] := h b List.mem_cons_self fun heq => hb (heq ▸ ha)
      rw [hnil, List.nil_append]
      exact ih hl ha fun b' hb' => h b' (List.mem_cons_of_mem b hb')

/-- A character that stands in no scope stands in no literal, unless it marks quotes or escapes. -/
theorem notMem_literals {x : Char} (hmark : x ∉ ['"', '`', '\\', 'n', 't', 'r'])
    (hscopes : ∀ scope ∈ c.scopes, x ∉ scope.toList) : ∀ text ∈ c.literals, x ∉ text.toList := by
  intro text htext hx
  exact hscopes _ (c.unquote_mem_scopes htext) ((c.strings text htext).mem_unquote hx hmark)

/-- Where the arguments are level text without another call, the scopes are read from them alone. -/
theorem permissions_eq (hlevel : ∀ text ∈ c.literals, IsLevel text.toList)
    (hcalls : ∀ text ∈ c.literals, ∀ call ∈ permissionCalls, ¬call.1.toList <:+: text.toList)
    (s : RouteScan) :
    permissions (s.middlewareText c.expr) =
      (if c.several then c.argsText.splitOn ',' else [c.argsText]).filterMap permission? := by
  have hother : ∀ call ∈ permissionCalls, call ≠ (c.name ++ "(", c.several) →
      callPermissions (s.middlewareText c.expr).toList call.1.toList call.2 = [] := by
    intro call hcall hne
    unfold callPermissions
    rw [c.afterFirst?_other hcall hne fun text htext => hcalls text htext call hcall,
      Option.bind_none]
  have hargs : IsLevel c.argsText := isLevel_listed (List.forall_mem_map.mpr hlevel)
  calc permissions (s.middlewareText c.expr)
      = permissionCalls.flatMap fun call =>
          callPermissions (s.middlewareText c.expr).toList call.1.toList call.2 := rfl
    _ = callPermissions (s.middlewareText c.expr).toList (c.name ++ "(").toList c.several :=
        flatMap_eq_of_forall_ne (by decide) c.known hother
    _ = (if c.several then c.argsText.splitOn ',' else [c.argsText]).filterMap permission? := by
        unfold callPermissions
        rw [c.afterFirst?_own, Option.bind_some, hargs.beforeClosing?]

/-- Where no comma of a scope is taken for a separator, each literal is read by itself. -/
theorem filterMap_pieces (h : c.several = true → ∀ text ∈ c.literals, ',' ∉ text.toList) :
    (if c.several then c.argsText.splitOn ',' else [c.argsText]).filterMap permission? =
      (c.literals.map String.toList).filterMap permission? := by
  cases hseveral : c.several with
  | true =>
    refine filterMap_permission?_listed ?_
    simpa using h hseveral
  | false =>
    obtain ⟨text, htext⟩ := List.length_eq_one_iff.mp (c.single hseveral)
    unfold argsText
    rw [htext, List.map_singleton, listed_singleton]
    rfl

/-- Each literal read by itself gives its value exactly if it is the value between double quotes. -/
theorem filterMap_literals_iff :
    (c.literals.map String.toList).filterMap permission? = c.scopes ↔
      ∀ text ∈ c.literals, text = quoted (Go.unquote text) := by
  rw [c.scopes_eq]
  have hread : ∀ text ∈ c.literals, ∃ scope, permission? text.toList = some scope ∧
      (scope = Go.unquote text ↔ text = quoted (Go.unquote text)) := fun text htext =>
    exists_permission?_of_isStringText (c.strings text htext) (c.nonempty text htext)
      (c.unnamed text htext)
  generalize c.literals = literals at hread
  induction literals with
  | nil => simp
  | cons text literals ih =>
    obtain ⟨scope, hscope, hiff⟩ := hread text List.mem_cons_self
    have hrest := ih fun t ht => hread t (List.mem_cons_of_mem text ht)
    rw [List.map_cons, List.filterMap_cons_some hscope, List.map_cons, List.cons.injEq,
      List.forall_mem_cons]
    exact and_congr hiff hrest

/-- Nothing in the arguments is taken for something else: each literal is its scope between double
quotes, and no scope has a comma where commas separate, an unmatched parenthesis or the text of a call
that asks for permissions. -/
structure Legible : Prop where
  isQuoted : ∀ text ∈ c.literals, text = quoted (Go.unquote text)
  commas : c.several = true → ∀ scope ∈ c.scopes, ',' ∉ scope.toList
  level : ∀ scope ∈ c.scopes, IsLevel scope.toList
  calls : ∀ scope ∈ c.scopes, ∀ call ∈ permissionCalls, ¬call.1.toList <:+: scope.toList

variable {c}

theorem Legible.exists_scope (h : c.Legible) {text : String} (htext : text ∈ c.literals) :
    ∃ scope ∈ c.scopes, text.toList = '"' :: (scope.toList ++ ['"']) := by
  refine ⟨Go.unquote text, c.unquote_mem_scopes htext, ?_⟩
  rw [← toList_quoted, ← h.isQuoted text htext]

theorem Legible.isLevel_of_mem (h : c.Legible) {text : String} (htext : text ∈ c.literals) :
    IsLevel text.toList := by
  obtain ⟨scope, hscope, htext⟩ := h.exists_scope htext
  rw [htext]
  exact .cons (by decide) (by decide) ((h.level scope hscope).append (by decide))

theorem Legible.not_infix (h : c.Legible) {text : String} (htext : text ∈ c.literals)
    {call : String × Bool} (hcall : call ∈ permissionCalls) : ¬call.1.toList <:+: text.toList := by
  have hne : call.1.toList ≠ [] := List.ne_nil_of_mem (paren_mem_of_mem_permissionCalls hcall)
  have hquote : '"' ∉ call.1.toList := notMem_of_mem_permissionCalls hcall rfl (by decide)
  obtain ⟨scope, hscope, htext⟩ := h.exists_scope htext
  rw [htext]
  intro hpart
  rcases Text.infix_or_infix_of_infix (u := []) hquote hpart with hpart | hpart
  · exact hne (List.infix_nil.mp hpart)
  · rcases Text.infix_or_infix_of_infix hquote hpart with hpart | hpart
    · exact h.calls scope hscope call hcall hpart
    · exact hne (List.infix_nil.mp hpart)

theorem Legible.notMem_comma (h : c.Legible) (hseveral : c.several = true) {text : String}
    (htext : text ∈ c.literals) : ',' ∉ text.toList := by
  obtain ⟨scope, hscope, htext⟩ := h.exists_scope htext
  rw [htext]
  simpa using h.commas hseveral scope hscope

theorem Legible.permissions_middlewareText (h : c.Legible) (s : RouteScan) :
    permissions (s.middlewareText c.expr) = c.scopes := by
  rw [c.permissions_eq (fun _ => h.isLevel_of_mem) (fun _ htext _ => h.not_infix htext),
    c.filterMap_pieces fun hseveral _ => h.notMem_comma hseveral]
  exact c.filterMap_literals_iff.mpr h.isQuoted

theorem legible_of_permissions_eq
    (hparens : ∀ scope ∈ c.scopes, '(' ∉ scope.toList ∧ ')' ∉ scope.toList) {s : RouteScan}
    (hread : permissions (s.middlewareText c.expr) = c.scopes) : c.Legible := by
  have hopen : ∀ text ∈ c.literals, '(' ∉ text.toList :=
    c.notMem_literals (by decide) fun scope hscope => (hparens scope hscope).1
  have hclose : ∀ text ∈ c.literals, ')' ∉ text.toList :=
    c.notMem_literals (by decide) fun scope hscope => (hparens scope hscope).2
  have hlevel : ∀ text ∈ c.literals, IsLevel text.toList := fun text htext =>
    isLevel_of_notMem (hopen text htext) (hclose text htext)
  have hcalls : ∀ text ∈ c.literals, ∀ call ∈ permissionCalls, ¬call.1.toList <:+: text.toList :=
    fun text htext call hcall hpart =>
      hopen text htext (hpart.subset (paren_mem_of_mem_permissionCalls hcall))
  rw [c.permissions_eq hlevel hcalls] at hread
  -- a comma between the scopes cuts, so none is left in a scope that was read
  have hcommas : c.several = true → ∀ scope ∈ c.scopes, ',' ∉ scope.toList := by
    intro hseveral scope hscope
    rw [← hread, if_pos hseveral] at hscope
    obtain ⟨piece, hpiece, hscope⟩ := List.mem_filterMap.mp hscope
    exact notMem_of_permission? (Text.notMem_of_mem_splitOn hpiece) hscope
  rw [c.filterMap_pieces fun hseveral => c.notMem_literals (by decide) (hcommas hseveral)] at hread
  refine ⟨c.filterMap_literals_iff.mp hread, hcommas, ?_, ?_⟩
  · intro scope hscope
    exact isLevel_of_notMem (hparens scope hscope).1 (hparens scope hscope).2
  · intro scope hscope call hcall hpart
    exact (hparens scope hscope).1 (hpart.subset (paren_mem_of_mem_permissionCalls hcall))

variable (c)

/-- The scopes of a call come back from its text as they were if nothing in its arguments is taken for
something else. For scopes without parentheses this is also necessary: a raw literal, an escape or a
comma between several scopes changes what is read. -/
theorem permissions_read_back (s : RouteScan) :
    (c.Legible → permissions (s.middlewareText c.expr) = c.scopes) ∧
    ((∀ scope ∈ c.scopes, '(' ∉ scope.toList ∧ ')' ∉ scope.toList) →
      permissions (s.middlewareText c.expr) = c.scopes → c.Legible) :=
  ⟨fun h => h.permissions_middlewareText s, fun hparens hread =>
    legible_of_permissions_eq hparens hread⟩

/-- `gates.AnyFeaturesOf("orders:read", "orders:write(own)")`. -/
def ownOrders : PermissionCall where
  callee := .selector (.ident "gates") "AnyFeaturesOf"
  name := "AnyFeaturesOf"
  several := true
  literals := [quoted "orders:read", quoted "orders:write(own)"]
  isPath := .selector (.ident (by decide +kernel)) (by decide +kernel)
  known := by decide
  named := by decide
  single := by decide
  strings := by
    refine List.forall_mem_cons.mpr ⟨?_, List.forall_mem_singleton.mpr ?_⟩
    · exact @Go.IsStringText.interpreted "orders:read".toList (Go.isEscaped_of_all (by decide))
    · exact @Go.IsStringText.interpreted "orders:write(own)".toList (Go.isEscaped_of_all (by decide))
  nonempty := by decide
  unnamed := by decide

/-- `AllFeaturesOf` with a raw literal. -/
def rawOrders : PermissionCall where
  callee := .ident "AllFeaturesOf"
  name := "AllFeaturesOf"
  several := true
  literals := ["`orders:write`"]
  isPath := .ident (by decide +kernel)
  known := by decide
  named := by decide
  single := by decide
  strings := List.forall_mem_singleton.mpr (@Go.IsStringText.raw "orders:write".toList (by decide))
  nonempty := by decide
  unnamed := by decide

/-- The first call is read back, and the second is not, as its only scope stands in a raw literal. -/
theorem permissions_read_back_orders :
    (ownOrders.Legible ∧ permissions (RouteScan.middlewareText {} ownOrders.expr) =
      ["orders:read", "orders:write(own)"]) ∧
    (¬rawOrders.Legible ∧
      permissions (RouteScan.middlewareText {} rawOrders.expr) ≠ rawOrders.scopes) := by
  have hown : ownOrders.Legible := ⟨by decide, by decide, by decide, by decide⟩
  have hraw : ¬rawOrders.Legible := fun h => absurd h.isQuoted (by decide)
  refine ⟨⟨hown, (ownOrders.permissions_read_back {}).1 hown⟩, hraw, fun hread => ?_⟩
  exact hraw ((rawOrders.permissions_read_back {}).2 (by decide) hread)

/-- The quotes of a raw literal stay in the scope. -/
theorem permissions_rawOrders :
    permissions (RouteScan.middlewareText {} rawOrders.expr) = ["`orders:write`"] ∧
      rawOrders.scopes = ["orders:write"] := by
  decide

end PermissionCall

end RouteDoc
