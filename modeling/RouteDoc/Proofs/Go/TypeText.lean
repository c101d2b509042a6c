import RouteDoc.Go.Token
import RouteDoc.Proofs.Go.Balanced
import RouteDoc.Proofs.Text

/-! Types and their text. Reading the text of a type gives the type back, up to the lengths of
arrays. -/
namespace RouteDoc.Go
open Text (Tight)

/-- A name of a package or a type: letters, digits and underscores, and no keyword. -/
structure IsTypeName (name : String) : Prop where
  nonempty : name ≠ ""
  chars : ∀ c ∈ name.toList, Text.isAlphanumeric c = true ∨ c = '_'
  noKeyword : name ∉ keywords

instance (name : String) : Decidable (IsTypeName name) :=
  decidable_of_iff
    (name ≠ "" ∧ name.toList.all (fun c => Text.isAlphanumeric c || c == '_') = true ∧
      name ∉ keywords)
    ⟨fun h => ⟨h.1, by simpa using h.2.1, h.2.2⟩,
      fun h => ⟨h.nonempty, by simpa using h.chars, h.noKeyword⟩⟩

/-- The characters of a name, qualified or not, that is no keyword. -/
structure IsWord (cs : List Char) : Prop where
  nonempty : cs ≠ []
  chars : ∀ c ∈ cs, isNameChar c = true
  noKeyword : ∀ k ∈ keywords, k.toList ≠ cs

/-- No character with a meaning of its own in types can stand in a name. -/
theorem isNameChar_eq_false {c : Char}
    (h : c ∈ [',', '[', ']', '(', ')', '{', '}', '*', ' ']) : isNameChar c = false := by
  have hany : [',', '[', ']', '(', ')', '{', '}', '*', ' '].any isNameChar = false := by
    decide +kernel
  exact eq_false_of_ne_true (List.any_eq_false.mp hany c h)

theorem isOrdinary_of_isNameChar {c : Char} (h : isNameChar c = true) : IsOrdinary c := by
  intro hmem
  rw [isNameChar_eq_false (List.mem_append_left ['*', ' '] hmem)] at h
  cases h

theorem isSpace_eq_false_of_isNameChar {c : Char} (h : isNameChar c = true) :
    Text.isSpace c = false := by
  simp only [isNameChar, Bool.or_eq_true, beq_iff_eq] at h
  rcases h with (h | rfl) | rfl
  · exact Text.isSpace_eq_false_of_isAlphanumeric h
  · rfl
  · rfl

theorem IsTypeName.isNameChar {name : String} (h : IsTypeName name) {c : Char}
    (hc : c ∈ name.toList) : isNameChar c = true ∧ c ≠ '.' := by
  rcases h.chars c hc with hc | rfl
  · refine ⟨by simp [Go.isNameChar, hc], ?_⟩
    rintro rfl
    have hdot : Text.isAlphanumeric '.' = false := by decide +kernel
    rw [hdot] at hc
    cases hc
  · exact ⟨by simp [Go.isNameChar], by decide⟩

theorem IsTypeName.toList_ne_nil {name : String} (h : IsTypeName name) : name.toList ≠ [] := by
  intro hnil
  exact h.nonempty (String.toList_eq_nil_iff.mp hnil)

theorem isWord_named {name : String} (h : IsTypeName name) : IsWord name.toList := by
  refine ⟨h.toList_ne_nil, fun c hc => (h.isNameChar hc).1, ?_⟩
  intro k hk heq
  exact h.noKeyword (String.toList_inj.mp heq ▸ hk)

theorem isWord_qualified {package name : String} (hp : IsTypeName package) (hn : IsTypeName name) :
    IsWord (package.toList ++ '.' :: name.toList) := by
  refine ⟨by simp, ?_, ?_⟩
  · intro c hc
    rcases List.mem_append.mp hc with hc | hc
    · exact (hp.isNameChar hc).1
    · rcases List.mem_cons.mp hc with rfl | hc
      · simp [isNameChar]
      · exact (hn.isNameChar hc).1
  · have hdot : ∀ k ∈ keywords, '.' ∉ k.toList := by decide
    intro k hk heq
    exact hdot k hk (heq ▸ by simp)

/-- A word and what follows it differ from a keyword and what follows that. -/
theorem IsWord.append_ne {word rest rest' : List Char} {k : String} (hw : IsWord word)
    (hrest : ∀ c ∈ rest.head?, isNameChar c = false) (hk : k ∈ keywords)
    (hrest' : ∀ c ∈ rest'.head?, isNameChar c = false) : word ++ rest ≠ k.toList ++ rest' := by
  have htake : ∀ {w r : List Char}, (∀ c ∈ w, isNameChar c = true) →
      (∀ c ∈ r.head?, isNameChar c = false) → (w ++ r).takeWhile isNameChar = w := by
    intro w r hw hr
    rw [List.takeWhile_append_of_pos hw]
    cases r with
    | nil => simp
    | cons c r =>
      have hc : isNameChar c = false := hr c rfl
      simp [hc]
  have hkeys : keywords.all (fun k => k.toList.all isNameChar) = true := by decide +kernel
  have hkey : ∀ c ∈ k.toList, isNameChar c = true :=
    List.all_eq_true.mp (List.all_eq_true.mp hkeys k hk)
  intro heq
  refine hw.noKeyword k hk ?_
  rw [← htake hw.chars hrest, heq, htake hkey hrest']

theorem IsWord.balanced {word : List Char} (hw : IsWord word) {commas : Bool} :
    Balanced commas word :=
  .of_forall fun c hc => isOrdinary_of_isNameChar (hw.chars c hc)

theorem IsWord.tight {word : List Char} (hw : IsWord word) : Tight word :=
  Text.tight_of_forall hw.nonempty fun c hc => isSpace_eq_false_of_isNameChar (hw.chars c hc)

namespace TypeExpr

/-- A name, qualified or not. -/
inductive IsName : TypeExpr → Prop where
  | named {name : String} (h : IsTypeName name) : IsName (.named name)
  | qualified {package name : String} (hp : IsTypeName package) (hn : IsTypeName name) :
      IsName (.qualified package name)

/-- The types whose text says all about them but the lengths of arrays. -/
inductive IsTextual : TypeExpr → Prop where
  | name {t : TypeExpr} (h : t.IsName) : IsTextual t
  | pointer {elem : TypeExpr} (h : IsTextual elem) : IsTextual (.pointer elem)
  | slice {elem : TypeExpr} (h : IsTextual elem) : IsTextual (.slice elem)
  | array {length : String} {elem : TypeExpr} (h : IsTextual elem) : IsTextual (.array length elem)
  | map {key value : TypeExpr} (hk : IsTextual key) (hv : IsTextual value) :
      IsTextual (.map key value)
  | generic {base : TypeExpr} {args : List TypeExpr} (hb : base.IsName)
      (ha : ∀ arg ∈ args, IsTextual arg) : IsTextual (.generic base args)
  | interface : IsTextual .interface
  | func : IsTextual .func
  | chan {elem : TypeExpr} (h : IsTextual elem) : IsTextual (.chan elem)

mutual
/-- The type with slices in place of its arrays. -/
def withSlices : TypeExpr → TypeExpr
  | pointer elem => pointer elem.withSlices
  | slice elem => slice elem.withSlices
  | array _ elem => slice elem.withSlices
  | map key value => map key.withSlices value.withSlices
  | generic base args => generic base.withSlices (withSlicesList args)
  | chan elem => chan elem.withSlices
  | t => t

def withSlicesList : List TypeExpr → List TypeExpr
  | [] => []
  | t :: ts => t.withSlices :: withSlicesList ts
end

theorem withSlicesList_eq_map (ts : List TypeExpr) : withSlicesList ts = ts.map withSlices := by
  induction ts with
  | nil => simp [withSlicesList]
  | cons t ts ih => simp [withSlicesList, ih]

section Chars
variable (elem : TypeExpr)

@[simp] theorem chars_named (name : String) : (named name).chars = name.toList := rfl

@[simp] theorem chars_qualified (package name : String) :
    (qualified package name).chars = package.toList ++ '.' :: name.toList := rfl

@[simp] theorem chars_pointer : (pointer elem).chars = '*' :: elem.chars := rfl

@[simp] theorem chars_slice : (slice elem).chars = '[' :: ']' :: elem.chars := rfl

@[simp] theorem chars_array (length : String) :
    (array length elem).chars = '[' :: ']' :: elem.chars := rfl

@[simp] theorem chars_map (key value : TypeExpr) :
    (map key value).chars = 'm' :: 'a' :: 'p' :: '[' :: (key.chars ++ ']' :: value.chars) := by
  change "map[".toList ++ key.chars ++ ']' :: value.chars = _
  rw [List.append_assoc]
  rfl

@[simp] theorem chars_generic (base : TypeExpr) (args : List TypeExpr) :
    (generic base args).chars = base.chars ++ '[' :: (argChars args ++ [']']) := by
  change base.chars ++ '[' :: argChars args ++ [']'] = _
  rw [List.append_assoc]
  rfl

@[simp] theorem argChars_singleton : argChars [elem] = elem.chars := rfl

@[simp] theorem argChars_cons_cons (t : TypeExpr) (rest : List TypeExpr) :
    argChars (elem :: t :: rest) = elem.chars ++ ',' :: ' ' :: argChars (t :: rest) := rfl

end Chars

theorem IsName.isWord {t : TypeExpr} (h : t.IsName) : IsWord t.chars := by
  cases h with
  | named h => exact isWord_named h
  | qualified hp hn => exact isWord_qualified hp hn

theorem IsName.withSlices_eq {t : TypeExpr} (h : t.IsName) : t.withSlices = t := by
  cases h <;> simp [withSlices]

theorem balanced_argChars {args : List TypeExpr} (h : ∀ arg ∈ args, Balanced false arg.chars) :
    Balanced true (argChars args) := by
  induction args with
  | nil => exact .nil
  | cons t rest ih =>
    have ht : Balanced true t.chars := (h t List.mem_cons_self).withCommas
    have hrest := ih fun arg harg => h arg (List.mem_cons_of_mem _ harg)
    cases rest with
    | nil => exact ht
    | cons u rest =>
      have hspace : IsOrdinary ' ' := by unfold IsOrdinary; decide
      exact ht.append (.comma (.char hspace hrest))

theorem IsTextual.balanced {t : TypeExpr} (h : t.IsTextual) : Balanced false t.chars := by
  induction h with
  | name h => exact h.isWord.balanced
  | pointer _ ih => exact .char (by decide) ih
  | slice _ ih => exact .group .brackets .nil ih
  | array _ ih => exact .group .brackets .nil ih
  | map _ _ ihk ihv =>
    have hword : Balanced false "map".toList := .of_all (by decide)
    rw [chars_map]
    exact hword.append (.group .brackets ihk.withCommas ihv)
  | generic hb _ ih =>
    rw [chars_generic]
    exact hb.isWord.balanced.append (.group .brackets (balanced_argChars ih) .nil)
  | interface =>
    have hword : Balanced false "interface".toList := .of_all (by decide)
    exact hword.append (.group .braces .nil .nil)
  | func =>
    have hword : Balanced false "func".toList := .of_all (by decide)
    exact hword
  | chan _ ih =>
    have hword : Balanced false "chan ".toList := .of_all (by decide)
    exact hword.append ih

theorem IsTextual.tight {t : TypeExpr} (h : t.IsTextual) : Tight t.chars := by
  have hone : ∀ c : Char, Text.isSpace c = false → Tight [c] := fun c hc =>
    Text.tight_of_forall (by simp) (by simpa using hc)
  induction h with
  | name h => exact h.isWord.tight
  | pointer _ ih => exact (hone '*' rfl).append ih []
  | slice _ ih => exact (hone '[' rfl).append ih [']']
  | array _ ih => exact (hone '[' rfl).append ih [']']
  | @map key value _ _ _ ihv =>
    rw [chars_map]
    have := (hone 'm' rfl).append ihv ('a' :: 'p' :: '[' :: (key.chars ++ [']']))
    simpa using this
  | @generic base args hb _ _ =>
    rw [chars_generic]
    exact hb.isWord.tight.append (hone ']' rfl) ('[' :: argChars args)
  | interface => exact ⟨⟨'i', _, rfl, rfl⟩, ⟨"interface".toList ++ ['{'], '}', rfl, rfl⟩⟩
  | func => exact ⟨⟨'f', _, rfl, rfl⟩, ⟨"fun".toList, 'c', rfl, rfl⟩⟩
  | chan _ ih => exact (hone 'c' rfl).append ih "han ".toList

end TypeExpr

theorem map_trim_splitCommas {args : List TypeExpr} (h : ∀ arg ∈ args, arg.IsTextual)
    (hne : args ≠ []) :
    (splitCommas 0 (argChars args)).map Text.trim = args.map TypeExpr.chars := by
  induction args with
  | nil => exact absurd rfl hne
  | cons t rest ih =>
    have ht : t.IsTextual := h t List.mem_cons_self
    have hcut : ∀ tail, splitCommas 0 (t.chars ++ tail) = consFirst t.chars (splitCommas 0 tail) :=
      splitCommas_append ht.balanced (by simp)
    cases rest with
    | nil =>
      have hone : splitCommas 0 t.chars = [t.chars] := by
        simpa [splitCommas, consFirst] using hcut []
      rw [TypeExpr.argChars_singleton, hone]
      simp [ht.tight.trim_eq]
    | cons u rest =>
      have hrest := ih (fun arg harg => h arg (List.mem_cons_of_mem _ harg)) (by simp)
      have hcomma : splitCommas 0 (',' :: ' ' :: argChars (u :: rest)) =
          [] :: consFirst [' '] (splitCommas 0 (argChars (u :: rest))) := by
        rw [splitCommas, if_pos ⟨rfl, rfl⟩, splitCommas_cons (by decide)]
        rfl
      rw [TypeExpr.argChars_cons_cons, hcut, hcomma]
      obtain ⟨piece, pieces, hpieces⟩ :=
        List.exists_cons_of_ne_nil (splitCommas_ne_nil 0 (argChars (u :: rest)))
      rw [hpieces] at hrest ⊢
      have hspace : Text.isSpace ' ' = true := rfl
      simp only [consFirst, List.append_nil, List.singleton_append, List.map_cons,
        Text.trim_cons_of_isSpace hspace, ht.tight.trim_eq] at hrest ⊢
      rw [hrest]

theorem splitArgs_argChars {args : List TypeExpr} (h : ∀ arg ∈ args, arg.IsTextual) :
    splitArgs (argChars args) = args.map TypeExpr.chars := by
  by_cases hne : args = []
  · subst hne
    rfl
  · unfold splitArgs
    rw [map_trim_splitCommas h hne]
    refine if_neg ?_
    rw [List.getLast?_map]
    intro hlast
    obtain ⟨t, ht, hnil⟩ := Option.map_eq_some_iff.mp hlast
    exact (h t (List.mem_of_getLast? ht)).tight.ne_nil hnil

theorem readType_pointer {cs : List Char} (ht : Tight ('*' :: cs)) (fuel : Nat) :
    readType (fuel + 1) ('*' :: cs) = .pointer (readType fuel cs) := by
  rw [readType, ht.trim_eq]
  rfl

theorem readType_slice {cs : List Char} (ht : Tight ('[' :: ']' :: cs)) (fuel : Nat) :
    readType (fuel + 1) ('[' :: ']' :: cs) = .slice (readType fuel cs) := by
  rw [readType, ht.trim_eq]
  rfl

theorem readType_map {commas : Bool} {key value : List Char}
    (ht : Tight ('m' :: 'a' :: 'p' :: '[' :: (key ++ ']' :: value))) (hk : Balanced commas key)
    (fuel : Nat) :
    readType (fuel + 1) ('m' :: 'a' :: 'p' :: '[' :: (key ++ ']' :: value)) =
      .map (readType fuel key) (readType fuel value) := by
  have hclose : closeBracket? 0 (key ++ ']' :: value) = some (key, value) := by
    rw [closeBracket?_append hk, closeBracket?]
    simp
  simp only [readType, ht.trim_eq, hclose]

/-- What text is read as that starts with no mark and no keyword. -/
def readWord (fuel : Nat) (cs : List Char) : TypeExpr :=
  match genericParts? cs with
  | some (base, inside) => .generic (readType fuel base) ((splitArgs inside).map (readType fuel))
  | none => if cs ≠ [] ∧ cs.all isNameChar then nameType cs else .other (String.ofList cs)

theorem readType_word {word rest : List Char} (hw : IsWord word)
    (hrest : ∀ c ∈ rest.head?, isNameChar c = false) (ht : Tight (word ++ rest)) (fuel : Nat) :
    readType (fuel + 1) (word ++ rest) = readWord fuel (word ++ rest) := by
  have hmark : ∀ c tail, word ++ rest = c :: tail → isNameChar c = true := by
    intro c tail heq
    obtain ⟨d, word, rfl⟩ := List.exists_cons_of_ne_nil hw.nonempty
    cases heq
    exact hw.chars _ List.mem_cons_self
  have hkey : ∀ k ∈ keywords, ∀ c, isNameChar c = false → ∀ tail,
      word ++ rest ≠ k.toList ++ c :: tail := by
    intro k hk c hc tail
    refine hw.append_ne hrest hk ?_
    intro d hd
    cases hd
    exact hc
  rw [readType, ht.trim_eq]
  split
  · next heq => exact absurd (hmark _ _ heq) (by simp [isNameChar_eq_false])
  · next heq => exact absurd (hmark _ _ heq) (by simp [isNameChar_eq_false])
  · next heq => exact absurd heq (hkey "map" (by decide) '[' (isNameChar_eq_false (by decide)) _)
  · next heq => exact absurd (hmark _ _ heq) (by simp [isNameChar_eq_false])
  · have hinterface : word ++ rest ≠ "interface\x7b\x7d".toList :=
      hkey "interface" (by decide) '{' (isNameChar_eq_false (by decide)) ['}']
    have hbare : word ++ rest ≠ "func".toList ++ [] := hw.append_ne hrest (by decide) (by simp)
    have hfunc : ¬(word ++ rest = "func".toList ∨
        "func(".toList.isPrefixOf (word ++ rest) = true) := by
      rintro (heq | hstart)
      · exact hbare (by simpa using heq)
      · obtain ⟨tail, htail⟩ := List.isPrefixOf_iff_prefix.mp hstart
        exact hkey "func" (by decide) '(' (isNameChar_eq_false (by decide)) tail htail.symm
    have hchan : "chan ".toList.isPrefixOf? (word ++ rest) = none := by
      rw [Option.eq_none_iff_forall_ne_some]
      intro tail htail
      have heq := List.isPrefixOf?_eq_some_iff_append_eq.mp htail
      exact hkey "chan" (by decide) ' ' (isNameChar_eq_false (by decide)) tail heq.symm
    rw [if_neg hinterface, if_neg hfunc, hchan]
    rfl

/-- The last dot of a qualified name is its only one. -/
theorem nameType_chars {t : TypeExpr} (h : t.IsName) : nameType t.chars = t := by
  have hdot : ∀ {name : String}, IsTypeName name →
      ∀ c ∈ name.toList.reverse, (c == '.') = false := by
    intro name hname c hc
    simpa using (hname.isNameChar (List.mem_reverse.mp hc)).2
  cases h with
  | named h =>
    have hcut := Text.cutAt?_eq_none (hdot h)
    rw [TypeExpr.chars_named, nameType, hcut]
    simp
  | @qualified package name hp hn =>
    have hcut := Text.cutAt?_append_cons (hdot hn) (beq_self_eq_true '.') package.toList.reverse
    have hreverse : (package.toList ++ '.' :: name.toList).reverse =
        name.toList.reverse ++ '.' :: package.toList.reverse := by simp
    rw [TypeExpr.chars_qualified, nameType, hreverse, hcut]
    simp

theorem IsWord.ne_bracket {word : List Char} (hw : IsWord word) :
    ∀ c ∈ word, (c == '[') = false := by
  intro c hc
  have hne : c ≠ '[' := fun heq => isOrdinary_of_isNameChar (hw.chars c hc) (by simp [heq])
  simpa using hne

theorem readType_name {t : TypeExpr} (h : t.IsName) (fuel : Nat) :
    readType (fuel + 1) t.chars = t := by
  have hw := h.isWord
  have hread : readType (fuel + 1) (t.chars ++ []) = readWord fuel (t.chars ++ []) :=
    readType_word hw (by simp) (by simpa using hw.tight) fuel
  have hgeneric : genericParts? t.chars = none := by
    rw [genericParts?, Text.cutAt?_eq_none hw.ne_bracket]
    rfl
  have hall : t.chars ≠ [] ∧ t.chars.all isNameChar = true :=
    ⟨hw.nonempty, List.all_eq_true.mpr hw.chars⟩
  rw [List.append_nil] at hread
  simp only [hread, readWord, hgeneric]
  rw [if_pos hall, nameType_chars h]

theorem readType_generic {base : TypeExpr} {args : List TypeExpr} (hb : base.IsName)
    (ha : ∀ arg ∈ args, arg.IsTextual) (fuel : Nat) :
    readType (fuel + 1) (TypeExpr.generic base args).chars =
      .generic (readType fuel base.chars) ((args.map TypeExpr.chars).map (readType fuel)) := by
  have hw := hb.isWord
  have ht := (TypeExpr.IsTextual.generic hb ha).tight
  have hleft : isNameChar '[' = false := isNameChar_eq_false (by decide)
  have hparts : genericParts? (TypeExpr.generic base args).chars =
      some (base.chars, argChars args) := by
    have hinside : [']'].isSuffixOf? (argChars args ++ [']']) = some (argChars args) :=
      List.isSuffixOf?_eq_some_iff_append_eq.mpr rfl
    rw [TypeExpr.chars_generic, genericParts?,
      Text.cutAt?_append_cons hw.ne_bracket (beq_self_eq_true '[')]
    simp [hinside]
  rw [TypeExpr.chars_generic] at ht hparts ⊢
  rw [readType_word hw (by simpa using hleft) ht, readWord, hparts, ← splitArgs_argChars ha]

theorem readType_interface (fuel : Nat) :
    readType (fuel + 1) TypeExpr.interface.chars = .interface := by
  rw [readType, TypeExpr.IsTextual.interface.tight.trim_eq]
  rfl

theorem readType_func (fuel : Nat) : readType (fuel + 1) TypeExpr.func.chars = .func := by
  rw [readType, TypeExpr.IsTextual.func.tight.trim_eq]
  rfl

theorem readType_chan {elem : TypeExpr} (h : elem.IsTextual) (fuel : Nat) :
    readType (fuel + 1) (TypeExpr.chan elem).chars = .chan (readType fuel elem.chars) := by
  rw [readType, h.chan.tight.trim_eq]
  rfl

theorem length_chars_le {args : List TypeExpr} {t : TypeExpr} (ht : t ∈ args) :
    t.chars.length ≤ (argChars args).length := by
  induction args with
  | nil => cases ht
  | cons u rest ih =>
    cases rest with
    | nil =>
      have heq : t.chars.length = (argChars [u]).length := by
        rw [List.mem_singleton.mp ht, TypeExpr.argChars_singleton]
      exact Nat.le_of_eq heq
    | cons v rest =>
      rw [TypeExpr.argChars_cons_cons, List.length_append, List.length_cons, List.length_cons]
      rcases List.mem_cons.mp ht with rfl | ht
      · omega
      · have hrest := ih ht
        omega

/-- A type is read back from its text. The induction is on the fuel, which exceeds the length of the
text and so the nesting. -/
theorem readType_chars {t : TypeExpr} (h : t.IsTextual) {fuel : Nat}
    (hfuel : t.chars.length < fuel) : readType fuel t.chars = t.withSlices := by
  induction fuel generalizing t with
  | zero => omega
  | succ fuel ih =>
    have ht := h.tight
    cases h with
    | name h => rw [readType_name h, h.withSlices_eq]
    | pointer h =>
      rw [TypeExpr.chars_pointer] at ht hfuel ⊢
      rw [List.length_cons] at hfuel
      rw [readType_pointer ht, ih h (by omega), TypeExpr.withSlices]
    | slice h =>
      rw [TypeExpr.chars_slice] at ht hfuel ⊢
      rw [List.length_cons, List.length_cons] at hfuel
      rw [readType_slice ht, ih h (by omega), TypeExpr.withSlices]
    | array h =>
      rw [TypeExpr.chars_array] at ht hfuel ⊢
      rw [List.length_cons, List.length_cons] at hfuel
      rw [readType_slice ht, ih h (by omega), TypeExpr.withSlices]
    | map hk hv =>
      rw [TypeExpr.chars_map] at ht hfuel ⊢
      simp only [List.length_cons, List.length_append] at hfuel
      rw [readType_map ht hk.balanced, ih hk (by omega), ih hv (by omega), TypeExpr.withSlices]
    | @generic base args hb ha =>
      have hlength : (TypeExpr.generic base args).chars.length =
          base.chars.length + ((argChars args).length + 2) := by
        simp
      have hbase : readType fuel base.chars = base.withSlices := ih (.name hb) (by omega)
      have hargs : (args.map TypeExpr.chars).map (readType fuel) =
          args.map TypeExpr.withSlices := by
        rw [List.map_map]
        refine List.map_congr_left fun arg harg => ih (ha arg harg) ?_
        have hle := length_chars_le harg
        omega
      rw [readType_generic hb ha, hbase, hargs, TypeExpr.withSlices,
        TypeExpr.withSlicesList_eq_map]
    | interface => exact readType_interface fuel
    | func => exact readType_func fuel
    | chan h =>
      have hlength : ∀ elem : TypeExpr, (TypeExpr.chan elem).chars.length = elem.chars.length + 5 :=
        fun _ => rfl
      rw [hlength] at hfuel
      rw [readType_chan h, ih h (by omega), TypeExpr.withSlices]

/-- Types pass through their text intact, but for the lengths of arrays. -/
theorem TypeExpr.ofText_render {t : TypeExpr} (h : t.IsTextual) :
    ofText t.render = t.withSlices := by
  have hlength : t.render.length = t.chars.length := by simp [render]
  have hchars : t.render.toList = t.chars := by simp [render]
  rw [ofText, hlength, hchars]
  exact readType_chars h (Nat.lt_succ_self _)

/-- The key of the map has a comma and braces inside its brackets. -/
theorem TypeExpr.ofText_render_pageMap :
    (map (generic (named "Page") [pointer (qualified "models" "Order"), interface])
      (slice (chan (array "4" (named "int"))))).IsTextual ∧
    ofText "map[Page[*models.Order, interface\x7b\x7d]][]chan []int" =
      map (generic (named "Page") [pointer (qualified "models" "Order"), interface])
        (slice (chan (slice (named "int")))) := by
  have hname : ∀ name ∈ ["models", "Order", "Page", "int"], IsTypeName name := by decide +kernel
  have hpage : (named "Page").IsName := .named (hname _ (by decide))
  have hint : (named "int").IsName := .named (hname _ (by decide))
  have horder : (qualified "models" "Order").IsName :=
    .qualified (hname _ (by decide)) (hname _ (by decide))
  have hargs : ∀ arg ∈ [pointer (qualified "models" "Order"), interface], arg.IsTextual := by
    simpa using ⟨(IsTextual.name horder).pointer, IsTextual.interface⟩
  have hvalue : (slice (chan (array "4" (named "int")))).IsTextual :=
    (IsTextual.name hint).array.chan.slice
  have hmap := IsTextual.map (.generic hpage hargs) hvalue
  have htext : (map (generic (named "Page") [pointer (qualified "models" "Order"), interface])
      (slice (chan (array "4" (named "int"))))).render =
        "map[Page[*models.Order, interface\x7b\x7d]][]chan []int" := by decide +kernel
  exact ⟨hmap, htext ▸ ofText_render hmap⟩

end RouteDoc.Go
