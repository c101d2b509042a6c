import Mathlib.Logic.Relation
import RouteDoc.Proofs.Model.Lookup
import RouteDoc.Proofs.Schema.Shape

/-! How the table of schemas grows. One invariant ties the entries, the names in progress and the
missing names to the models; every request keeps it, answers with a schema that does not depend on
the table, and adds exactly what the request leads to. -/
namespace RouteDoc
open Disk Go Relation

namespace ModelIndex
variable {index : ModelIndex} {name : String}

/-- The schema for a name: a reference to its model, or an open object where there is none. -/
def nameSchema (index : ModelIndex) (name : String) : Schema :=
  if index.contains name then .reference name else .object

/-- A model with the first name asks for the second. -/
def Leads (index : ModelIndex) (a b : String) : Prop := ∃ m ∈ index.named a, m.kind.Asks b

/-- The number of models whose name is not in progress. -/
def unstarted (index : ModelIndex) (t : SchemaTable) : Nat :=
  (index.models.filter fun m => !t.inProgress.contains m.name).length

theorem unstarted_le_size (index : ModelIndex) (t : SchemaTable) :
    index.unstarted t ≤ index.size :=
  List.length_filter_le _ _

theorem unstarted_congr {t t' : SchemaTable} (h : t'.inProgress = t.inProgress) :
    index.unstarted t' = index.unstarted t := by
  rw [unstarted, unstarted, h]

theorem unstarted_start_lt {t : SchemaTable} {m : Model} (hm : m ∈ index.named name)
    (hn : name ∉ t.inProgress) : index.unstarted (t.start name) < index.unstarted t := by
  obtain ⟨hmem, rfl⟩ := mem_named.mp hm
  have hsub : (index.models.filter fun k => !(t.start m.name).inProgress.contains k.name) =
      (index.models.filter fun k => !t.inProgress.contains k.name).filter
        fun k => k.name != m.name := by
    rw [List.filter_filter]
    refine List.filter_congr fun k _ => ?_
    simp only [SchemaTable.start, List.contains_cons, Bool.not_or, bne]
  rw [unstarted, unstarted, hsub]
  refine List.length_filter_lt_length_iff_exists.mpr ⟨m, ?_, by simp⟩
  exact List.mem_filter.mpr ⟨hmem, by simpa using hn⟩

end ModelIndex

namespace SchemaTable

/-- A name has an entry or will have one when all that is in progress is made. -/
def Knows (t : SchemaTable) (name : String) : Prop :=
  t.contains name = true ∨ name ∈ t.inProgress

instance (t : SchemaTable) (name : String) : Decidable (t.Knows name) :=
  inferInstanceAs (Decidable (_ ∨ _))

variable {t : SchemaTable} {name k : String}

theorem Knows.start (h : t.Knows k) : (t.start name).Knows k :=
  h.imp_right (List.mem_cons_of_mem _)

theorem get?_complete (s : Schema) :
    (t.complete name s).get? k = if k = name then some s else t.get? k :=
  t.get?_insert name k s

theorem contains_complete (s : Schema) :
    (t.complete name s).contains k = true ↔ k = name ∨ t.contains k = true :=
  t.contains_insert name k s

theorem Knows.complete (h : t.Knows k) (s : Schema) : (t.complete name s).Knows k := by
  by_cases hk : k = name
  · exact .inl ((contains_complete s).mpr (.inl hk))
  · rcases h with h | h
    · exact .inl ((contains_complete s).mpr (.inr h))
    · exact .inr ((List.mem_erase_of_ne hk).mpr h)

end SchemaTable

namespace ModelIndex
variable {index : ModelIndex}

/-- Every entry is the schema of a model of its name, and the names that the model asks for are known.
Names in progress have a model, missing ones have none. -/
structure Sound (index : ModelIndex) (t : SchemaTable) : Prop where
  entry : ∀ name s, t.get? name = some s → ∃ m ∈ index.named name, s = m.shape index.nameSchema ∧
    ∀ k, m.kind.Asks k → index.contains k = true → t.Knows k
  inProgress : ∀ name ∈ t.inProgress, index.contains name = true
  missing : ∀ name ∈ t.missing, index.contains name = false

theorem sound_empty (index : ModelIndex) : index.Sound {} where
  entry name s h := by cases h
  inProgress name h := by cases h
  missing name h := by cases h

theorem Sound.contains {t : SchemaTable} (h : index.Sound t) {name : String}
    (hn : t.contains name = true) : index.contains name = true := by
  obtain ⟨s, hs⟩ := (t.contains_iff_exists name).mp hn
  obtain ⟨m, hm, -⟩ := h.entry name s hs
  exact contains_iff.mpr ⟨m, hm⟩

/-- What asking for the names `A` makes of a table. -/
structure Grows (index : ModelIndex) (A : String → Prop) (t t' : SchemaTable) : Prop where
  sound : index.Sound t'
  inProgress : t'.inProgress = t.inProgress
  kept : ∀ name s, t.get? name = some s → t'.get? name = some s
  known : ∀ name, A name → index.contains name = true → t'.Knows name
  new : ∀ name, t'.contains name = true →
    t.contains name = true ∨ ∃ a, A a ∧ ReflTransGen index.Leads a name

namespace Grows
variable {A B : String → Prop} {t t' t'' : SchemaTable}

theorem refl (hs : index.Sound t) (h : ∀ name, A name → index.contains name = true → t.Knows name) :
    index.Grows A t t :=
  ⟨hs, rfl, fun _ _ h => h, h, fun _ h => .inl h⟩

theorem refl_of_asks_nothing (hs : index.Sound t) (h : ∀ name, ¬ A name) : index.Grows A t t :=
  refl hs fun name hn => absurd hn (h name)

theorem contains (h : index.Grows A t t') {name : String} (hn : t.contains name = true) :
    t'.contains name = true := by
  obtain ⟨s, hs⟩ := (t.contains_iff_exists name).mp hn
  exact (t'.contains_iff_exists name).mpr ⟨s, h.kept name s hs⟩

theorem knows (h : index.Grows A t t') {name : String} (hn : t.Knows name) : t'.Knows name := by
  rcases hn with hn | hn
  · exact .inl (h.contains hn)
  · exact .inr (h.inProgress ▸ hn)

theorem trans (h : index.Grows A t t') (h' : index.Grows B t' t'') :
    index.Grows (fun name => A name ∨ B name) t t'' where
  sound := h'.sound
  inProgress := h'.inProgress.trans h.inProgress
  kept name s hs := h'.kept name s (h.kept name s hs)
  known name hn hc := by
    rcases hn with hn | hn
    · exact h'.knows (h.known name hn hc)
    · exact h'.known name hn hc
  new name hn := by
    rcases h'.new name hn with hn | ⟨a, ha, hpath⟩
    · rcases h.new name hn with hn | ⟨a, ha, hpath⟩
      · exact .inl hn
      · exact .inr ⟨a, .inl ha, hpath⟩
    · exact .inr ⟨a, .inr ha, hpath⟩

theorem congr (h : index.Grows A t t') (hAB : ∀ name, A name ↔ B name) : index.Grows B t t' := by
  have hAB : A = B := funext fun name => propext (hAB name)
  exact hAB ▸ h

end Grows

/-- A table that keeps the invariant, and fuel for all models that may still get in progress. -/
structure Ready (index : ModelIndex) (fuel : Nat) (t : SchemaTable) : Prop where
  sound : index.Sound t
  bound : index.unstarted t < fuel

theorem Grows.ready {A : String → Prop} {fuel : Nat} {t t' : SchemaTable}
    (h : index.Grows A t t') (ht : index.Ready fuel t) : index.Ready fuel t' :=
  ⟨h.sound, unstarted_congr h.inProgress ▸ ht.bound⟩

/-- A request answers with a schema, and the table grows by what the names `A` lead to. -/
def Answers (index : ModelIndex) (s : Schema) (A : String → Prop) (t : SchemaTable)
    (result : Schema × SchemaTable) : Prop :=
  result.1 = s ∧ index.Grows A t result.2

theorem Answers.map {s : Schema} {A B : String → Prop} {t : SchemaTable}
    {result : Schema × SchemaTable} (h : index.Answers s A t result) (g : Schema → Schema)
    (hAB : ∀ name, A name ↔ B name) : index.Answers (g s) B t (g result.1, result.2) :=
  ⟨congrArg g h.1, h.2.congr hAB⟩

/-- Every name gets its schema. -/
def AnswersNames (index : ModelIndex) (fuel : Nat) (named : NameSchema) : Prop :=
  ∀ package name dir t, index.Ready fuel t →
    index.Answers (index.nameSchema name) (· = name) t (named package name dir t)

section
variable {fuel : Nat} {named : NameSchema}

private theorem ofFields_grows_of {fields : List FieldDef} {dir : Option FilePath}
    (h : ∀ d ∈ fields, ∀ t, index.Ready fuel t →
      index.Answers (Schema.shape index.nameSchema false d.type) d.type.Asks t
        (Schema.ofType named dir false d.type t))
    {t : SchemaTable} (ht : index.Ready fuel t) :
    (Schema.ofFields named dir fields t).1 =
        fields.map (fun d => (d, Schema.shape index.nameSchema false d.type)) ∧
      index.Grows (fun name => ∃ d ∈ fields, d.type.Asks name) t
        (Schema.ofFields named dir fields t).2 := by
  induction fields generalizing t with
  | nil =>
    refine ⟨rfl, .refl ht.sound ?_⟩
    rintro name ⟨d, hd, -⟩
    cases hd
  | cons d rest ih =>
    obtain ⟨hs, hg⟩ := h d List.mem_cons_self t ht
    obtain ⟨hs', hg'⟩ := ih (fun d hd => h d (List.mem_cons_of_mem _ hd)) (hg.ready ht)
    refine ⟨?_, (hg.trans hg').congr fun name => ?_⟩
    · simp only [Schema.ofFields, hs, hs', List.map_cons]
    · simp only [List.exists_mem_cons_iff]

theorem ofType_answers (hn : index.AnswersNames fuel named) (dir : Option FilePath)
    (type : TypeExpr) (bare : Bool) {t : SchemaTable} (ht : index.Ready fuel t) :
    index.Answers (Schema.shape index.nameSchema bare type) type.Asks t
      (Schema.ofType named dir bare type t) := by
  unfold Schema.shape
  induction type using TypeExpr.part_induction generalizing bare t with
  | named name =>
    cases hb : Schema.builtin? name with
    | none =>
      simp only [Schema.ofType, hb]
      refine (hn none name dir t ht).map id fun k => ?_
      rw [TypeExpr.asks_named]
      exact (and_iff_right hb).symm
    | some s =>
      simp only [Schema.ofType, hb]
      refine ⟨rfl, .refl_of_asks_nothing ht.sound ?_⟩
      intro k h
      rw [TypeExpr.asks_named, hb] at h
      cases h.1
  | qualified package name =>
    cases hb : Schema.builtin? (package ++ "." ++ name) with
    | none =>
      simp only [Schema.ofType, hb]
      refine (hn (some package) name dir t ht).map id fun k => ?_
      rw [TypeExpr.asks_qualified]
      exact (and_iff_right hb).symm
    | some s =>
      simp only [Schema.ofType, hb]
      refine ⟨rfl, .refl_of_asks_nothing ht.sound ?_⟩
      intro k h
      rw [TypeExpr.asks_qualified, hb] at h
      cases h.1
  | pointer elem ih =>
    simp only [Schema.ofType]
    exact (ih bare ht).map id fun _ => TypeExpr.asks_pointer.symm
  | slice elem ih =>
    cases bare with
    | true =>
      simp only [Schema.ofType, if_true]
      exact (ih true ht).map id fun _ => TypeExpr.asks_slice.symm
    | false =>
      simp only [Schema.ofType, Bool.false_eq_true, if_false]
      exact (ih false ht).map Schema.array fun _ => TypeExpr.asks_slice.symm
  | array length elem ih =>
    cases bare with
    | true =>
      simp only [Schema.ofType, if_true]
      exact (ih true ht).map id fun _ => TypeExpr.asks_array.symm
    | false =>
      simp only [Schema.ofType, Bool.false_eq_true, if_false]
      exact (ih false ht).map Schema.array fun _ => TypeExpr.asks_array.symm
  | map key value ih =>
    simp only [Schema.ofType]
    exact (ih false ht).map Schema.mapOf fun _ => TypeExpr.asks_map.symm
  | base base ih =>
    simp only [Schema.ofType]
    exact (ih false ht).map id fun _ => TypeExpr.asks_base.symm
  | argument base arg rest ih =>
    simp only [Schema.ofType]
    exact (ih true ht).map id fun _ => TypeExpr.asks_argument.symm
  | struct fields ih =>
    have hfields : ∀ d ∈ fields.filterMap FieldDef.ofField?, ∀ t, index.Ready fuel t →
        index.Answers (Schema.shape index.nameSchema false d.type) d.type.Asks t
          (Schema.ofType named dir false d.type t) := by
      intro d hd t ht
      obtain ⟨f, hf, hfd⟩ := List.mem_filterMap.mp hd
      rw [FieldDef.type_of_ofField? hfd]
      exact ih f hf false ht
    obtain ⟨hs, hg⟩ := ofFields_grows_of hfields ht
    simp only [Schema.ofType, Schema.ofInlineFields_eq_ofFields, Schema.ofFields_fixedNames]
    exact ⟨congrArg Schema.ofFieldSchemas hs, hg.congr fun _ => TypeExpr.asks_struct.symm⟩
  | _ =>
    simp only [Schema.ofType]
    exact ⟨rfl, .refl_of_asks_nothing ht.sound fun k h => by cases h⟩

private theorem ofKind_answers (hn : index.AnswersNames fuel named) (m : Model) {t : SchemaTable}
    (ht : index.Ready fuel t) :
    index.Answers (Schema.ofKind (Schema.fixedNames index.nameSchema) m {}).1 m.kind.Asks t
      (Schema.ofKind named m t) := by
  cases hk : m.kind with
  | struct fields =>
    obtain ⟨hs, hg⟩ := ofFields_grows_of
      (fun d _ t ht => ofType_answers hn (some m.dir) d.type false ht) ht
    simp only [Schema.ofKind, hk, Schema.ofFields_fixedNames]
    exact ⟨congrArg Schema.ofFieldSchemas hs, hg.congr fun _ => ModelKind.asks_struct.symm⟩
  | enumeration underlying values =>
    simp only [Schema.ofKind, hk]
    exact ⟨rfl, .refl_of_asks_nothing ht.sound fun name h => by cases h⟩
  | synonym type =>
    by_cases hq : ∃ p n, type = .qualified p n
    · obtain ⟨p, n, rfl⟩ := hq
      simp only [Schema.ofKind, hk]
      refine ⟨rfl, .refl_of_asks_nothing ht.sound fun name h => ?_⟩
      cases h with
      | synonym hq => exact hq p n rfl
    · have hne : ∀ p n, type ≠ .qualified p n := fun p n he => hq ⟨p, n, he⟩
      have ha := ofType_answers hn (some m.dir) type false ht
      rw [Schema.ofKind_synonym _ hk hne, Schema.ofKind_synonym _ hk hne, Schema.ofType_fixedNames]
      exact ha.map id fun _ => (ModelKind.asks_synonym hne).symm

theorem ofModel_answers (hn : index.AnswersNames fuel named) (m : Model) {t : SchemaTable}
    (ht : index.Ready fuel t) :
    index.Answers (m.shape index.nameSchema) m.kind.Asks t (Schema.ofModel named m t) :=
  (ofKind_answers hn m ht).map
    (fun s => if s.description.isNone && s.ref.isNone then { s with description := m.description }
      else s) fun _ => Iff.rfl

end

theorem Sound.start {name : String} {t : SchemaTable} (hs : index.Sound t)
    (hc : index.contains name = true) : index.Sound (t.start name) := by
  refine ⟨?_, ?_, hs.missing⟩
  · intro k s hk
    obtain ⟨m, hm, heq, hasks⟩ := hs.entry k s hk
    exact ⟨m, hm, heq, fun a ha hc => (hasks a ha hc).start⟩
  · intro k hk
    rcases List.mem_cons.mp hk with rfl | hk
    · exact hc
    · exact hs.inProgress k hk

theorem Sound.addMissing {name : String} {t : SchemaTable} (hs : index.Sound t)
    (hc : index.contains name = false) : index.Sound (t.addMissing name) := by
  refine ⟨hs.entry, hs.inProgress, ?_⟩
  intro k hk
  rcases List.mem_cons.mp hk with rfl | hk
  · exact hc
  · exact hs.missing k hk

/-- While the entry of a model is made its name is in progress. When it is done, the names that the
model asks for are known without it. -/
private theorem complete_grows {name : String} {m : Model} {t t' : SchemaTable}
    (hm : m ∈ index.named name) (hnew : ¬ t.Knows name)
    (hg : index.Grows m.kind.Asks (t.start name) t') :
    index.Grows (· = name) t (t'.complete name (m.shape index.nameSchema)) := by
  have hdone : (t'.complete name (m.shape index.nameSchema)).inProgress = t.inProgress := by
    have hprog : t'.inProgress = name :: t.inProgress := hg.inProgress
    simp [SchemaTable.complete, hprog]
  refine ⟨⟨?_, ?_, hg.sound.missing⟩, hdone, ?_, ?_, ?_⟩
  · intro k s hs
    rw [SchemaTable.get?_complete] at hs
    split_ifs at hs with hk
    · cases hs
      exact ⟨m, hk ▸ hm, rfl, fun a ha hc => (hg.known a ha hc).complete _⟩
    · obtain ⟨m', hm', heq, hasks⟩ := hg.sound.entry k s hs
      exact ⟨m', hm', heq, fun a ha hc => (hasks a ha hc).complete _⟩
  · intro k hk
    exact hg.sound.inProgress k (List.mem_of_mem_erase hk)
  · intro k s hs
    have hne : k ≠ name := by
      rintro rfl
      exact hnew (.inl ((t.contains_iff_exists k).mpr ⟨s, hs⟩))
    rw [SchemaTable.get?_complete, if_neg hne]
    exact hg.kept k s hs
  · rintro k rfl -
    exact .inl ((SchemaTable.contains_complete _).mpr (.inl rfl))
  · intro k hk
    rcases (SchemaTable.contains_complete _).mp hk with rfl | hk
    · exact .inr ⟨k, rfl, .refl⟩
    · rcases hg.new k hk with hk | ⟨a, ha, hpath⟩
      · exact .inl hk
      · exact .inr ⟨name, rfl, .head ⟨m, hm, ha⟩ hpath⟩

/-- The fuel never runs out: a name that gets in progress is that of a model and was not in progress,
so that fewer models are left to start. -/
theorem ofName_answersNames (index : ModelIndex) (fuel : Nat) :
    index.AnswersNames fuel (Schema.ofName index fuel) := by
  induction fuel with
  | zero =>
    intro package name dir t ht
    exact absurd ht.bound (Nat.not_lt_zero _)
  | succ fuel ih =>
    intro package name dir t ht
    have hs := ht.sound
    have hknows : (t.contains name || t.inProgress.contains name) = true ↔ t.Knows name := by
      simp [SchemaTable.Knows]
    have hmissing : t.missing.contains name = true ↔ name ∈ t.missing := List.contains_iff_mem
    -- nothing is asked for where there is no model
    have hno : index.contains name = false → ∀ k, k = name → index.contains k = true →
        t.Knows k := by
      rintro hc k rfl hk
      rw [hc] at hk
      cases hk
    unfold Schema.ofName nameSchema
    by_cases hk : t.Knows name
    · have hc : index.contains name = true := hk.elim hs.contains (hs.inProgress name)
      rw [if_pos (hknows.mpr hk), if_pos hc]
      exact ⟨rfl, .refl hs fun k he _ => he ▸ hk⟩
    rw [if_neg (mt hknows.mp hk)]
    by_cases hmiss : name ∈ t.missing
    · have hc := hs.missing name hmiss
      rw [if_pos (hmissing.mpr hmiss), hc]
      exact ⟨rfl, .refl hs (hno hc)⟩
    rw [if_neg (mt hmissing.mp hmiss)]
    cases hf : index.find? package name dir with
    | none =>
      have hc := find?_eq_none_iff.mp hf
      rw [hc]
      exact ⟨rfl, hs.addMissing hc, rfl, fun _ _ h => h, hno hc, fun _ h => .inl h⟩
    | some m =>
      have hm := mem_named_of_find? hf
      have hc := contains_iff.mpr ⟨m, hm⟩
      have hlt := unstarted_start_lt hm fun h => hk (.inr h)
      have hready : index.Ready fuel (t.start name) := by
        refine ⟨hs.start hc, ?_⟩
        have hb := ht.bound
        omega
      obtain ⟨hshape, hg⟩ := ofModel_answers ih m hready
      rw [if_pos hc]
      refine ⟨rfl, ?_⟩
      simp only [hshape]
      exact complete_grows hm hk hg

theorem schemaOf_answers {t : SchemaTable} (ht : index.Sound t) (type : TypeExpr)
    (dir : Option FilePath) :
    index.Answers (Schema.shape index.nameSchema false type) type.Asks t
      (index.schemaOf type dir t) := by
  have hle := index.unstarted_le_size t
  exact ofType_answers (ofName_answersNames index _) dir type false ⟨ht, by omega⟩

theorem refsSatisfy_nameSchema {P : String → Prop} {name : String}
    (h : index.contains name = true → P name) : (index.nameSchema name).RefsSatisfy P := by
  unfold nameSchema
  split_ifs with hc
  · exact Schema.refsSatisfy_reference.mpr (h hc)
  · exact Schema.refsSatisfy_object

/-- Between requests the references of all entries lead to entries. -/
theorem Sound.refsSatisfy_entry {t : SchemaTable} (ht : index.Sound t) (hidle : t.inProgress = [])
    {name : String} {s : Schema} (hs : t.get? name = some s) :
    s.RefsSatisfy fun k => t.contains k = true := by
  obtain ⟨m, -, rfl, hasks⟩ := ht.entry name s hs
  refine Model.refsSatisfy_shape fun k hk => refsSatisfy_nameSchema fun hc => ?_
  rcases hasks k hk hc with h | h
  · exact h
  · rw [hidle] at h
    cases h

theorem Grows.contains_of_idle {A : String → Prop} {t t' : SchemaTable} (h : index.Grows A t t')
    (hidle : t.inProgress = []) {name : String} (hn : A name) (hc : index.contains name = true) :
    t'.contains name = true := by
  rcases h.known name hn hc with hk | hk
  · exact hk
  · rw [h.inProgress, hidle] at hk
    cases hk

end ModelIndex

end RouteDoc
