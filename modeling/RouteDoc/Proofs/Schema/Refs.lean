import RouteDoc.Proofs.Text
import RouteDoc.Schema.Basic

/-! Schemas inside a schema, and the references among them. The list of names that `Schema.refs`
collects holds exactly the names that occur at some depth. -/
namespace RouteDoc

namespace Schema

theorem refName?_eq_some_iff {s : Schema} {name : String} :
    s.refName? = some name ↔ s.ref = some (refStart ++ name) := by
  unfold refName?
  cases s.ref with
  | none => simp
  | some r =>
    simp only [Option.bind_some, Option.map_eq_some_iff, List.isPrefixOf?_eq_some_iff_append_eq,
      Option.some.injEq]
    constructor
    · rintro ⟨rest, hr, rfl⟩
      apply String.toList_inj.mp
      simp [← hr]
    · rintro rfl
      exact ⟨name.toList, by simp⟩

/-- A schema stands in another at some depth, or is the same. -/
inductive Within (s : Schema) : Schema → Prop where
  | self : Within s s
  | property {s' p : Schema} {m : List (String × Schema)} {name : String} (hm : s'.properties = some m)
      (hp : (name, p) ∈ m) (h : Within s p) : Within s s'
  | items {s' i : Schema} (hi : s'.items = some i) (h : Within s i) : Within s s'
  | additional {s' a : Schema} (ha : s'.additional = some a) (h : Within s a) : Within s s'

private theorem sizeOf_property {s p : Schema} {m : List (String × Schema)} {name : String}
    (hm : s.properties = some m) (hp : (name, p) ∈ m) : sizeOf p < sizeOf s := by
  have he := List.sizeOf_lt_of_mem hp
  cases s
  cases hm
  simp only [Prod.mk.sizeOf_spec, mk.sizeOf_spec, Option.some.sizeOf_spec] at he ⊢
  omega

/-- Induction on what stands directly in a schema. -/
@[elab_as_elim]
theorem inside_induction {motive : Schema → Prop}
    (step : ∀ s : Schema,
      (∀ m, s.properties = some m → ∀ name p, (name, p) ∈ m → motive p) →
      (∀ i, s.items = some i → motive i) → (∀ a, s.additional = some a → motive a) → motive s)
    (s : Schema) : motive s := by
  refine step s ?_ ?_ ?_
  · intro m hm name p hp
    exact inside_induction step p
  · intro i hi
    exact inside_induction step i
  · intro a ha
    exact inside_induction step a
termination_by s
decreasing_by
  · exact sizeOf_property hm hp
  · cases s
    cases hi
    simp only [mk.sizeOf_spec, Option.some.sizeOf_spec]
    omega
  · cases s
    cases ha
    simp only [mk.sizeOf_spec, Option.some.sizeOf_spec]
    omega

/-- A schema refers to a name, itself or through a schema inside it. -/
def Mentions (s : Schema) (name : String) : Prop :=
  ∃ s', Within s' s ∧ s'.ref = some (refStart ++ name)

private theorem mem_entryRefs {name : String} {l : List (String × Schema)} :
    name ∈ entryRefs l ↔ ∃ e ∈ l, name ∈ e.2.refs := by
  induction l with
  | nil => simp [entryRefs]
  | cons e rest ih => simp [entryRefs, ih]

/-- The collected names, one level of a schema opened. -/
theorem mem_refs_level {s : Schema} {name : String} :
    name ∈ s.refs ↔ s.ref = some (refStart ++ name) ∨
      (∃ m, s.properties = some m ∧ ∃ e ∈ m, name ∈ e.2.refs) ∨
      (∃ i, s.items = some i ∧ name ∈ i.refs) ∨ ∃ a, s.additional = some a ∧ name ∈ a.refs := by
  obtain ⟨ref, type, format, description, properties, required, items, enumValues, additional⟩ := s
  rw [← refName?_eq_some_iff]
  have hp : name ∈ propertyRefs properties ↔
      ∃ m, properties = some m ∧ ∃ e ∈ m, name ∈ e.2.refs := by
    cases properties with
    | none => simp [propertyRefs]
    | some m => simp only [propertyRefs, mem_entryRefs, Option.some.injEq, exists_eq_left']
  have ho : ∀ o : Option Schema, name ∈ optionRefs o ↔ ∃ s, o = some s ∧ name ∈ s.refs := by
    intro o
    cases o <;> simp [optionRefs]
  simp only [refs, List.mem_append, Option.mem_toList, hp, ho, or_assoc]
  rfl

theorem mem_refs_iff {s : Schema} {name : String} : name ∈ s.refs ↔ s.Mentions name := by
  constructor
  · intro h
    induction s using inside_induction with
    | step s ihp ihi iha =>
      rcases mem_refs_level.mp h with h | ⟨m, hm, e, he, h⟩ | ⟨i, hi, h⟩ | ⟨a, ha, h⟩
      · exact ⟨s, .self, h⟩
      · obtain ⟨s', hin, hs'⟩ := ihp m hm e.1 e.2 he h
        exact ⟨s', .property hm he hin, hs'⟩
      · obtain ⟨s', hin, hs'⟩ := ihi i hi h
        exact ⟨s', .items hi hin, hs'⟩
      · obtain ⟨s', hin, hs'⟩ := iha a ha h
        exact ⟨s', .additional ha hin, hs'⟩
  · rintro ⟨s', hin, hs'⟩
    induction hin with
    | self => exact mem_refs_level.mpr (.inl hs')
    | property hm hp _ ih => exact mem_refs_level.mpr (.inr (.inl ⟨_, hm, _, hp, ih⟩))
    | items hi _ ih => exact mem_refs_level.mpr (.inr (.inr (.inl ⟨_, hi, ih⟩)))
    | additional ha _ ih => exact mem_refs_level.mpr (.inr (.inr (.inr ⟨_, ha, ih⟩)))

/-- A schema and all schemas inside it satisfy `P`. -/
def Everywhere (P : Schema → Prop) (s : Schema) : Prop := ∀ s', Within s' s → P s'

theorem everywhere_iff {P : Schema → Prop} {s : Schema} :
    s.Everywhere P ↔ P s ∧
      (∀ m, s.properties = some m → ∀ name p, (name, p) ∈ m → p.Everywhere P) ∧
      (∀ i, s.items = some i → i.Everywhere P) ∧
      ∀ a, s.additional = some a → a.Everywhere P := by
  constructor
  · intro h
    exact ⟨h s .self, fun m hm name p hp s' hin => h s' (.property hm hp hin),
      fun i hi s' hin => h s' (.items hi hin), fun a ha s' hin => h s' (.additional ha hin)⟩
  · rintro ⟨hself, hprop, hitems, hadd⟩ s' hin
    cases hin with
    | self => exact hself
    | property hm hp hin => exact hprop _ hm _ _ hp s' hin
    | items hi hin => exact hitems _ hi s' hin
    | additional ha hin => exact hadd _ ha s' hin

/-- Every reference at any depth is one to a named schema, and its name satisfies `P`. -/
def RefsSatisfy (P : String → Prop) (s : Schema) : Prop :=
  ∀ s', Within s' s → ∀ r, s'.ref = some r → ∃ name, r = refStart ++ name ∧ P name

theorem RefsSatisfy.mono {P Q : String → Prop} {s : Schema} (h : s.RefsSatisfy P)
    (hPQ : ∀ name, P name → Q name) : s.RefsSatisfy Q := by
  intro s' hin r hr
  obtain ⟨name, rfl, hname⟩ := h s' hin r hr
  exact ⟨name, rfl, hPQ name hname⟩

theorem RefsSatisfy.of_mentions {P : String → Prop} {s : Schema} (h : s.RefsSatisfy P)
    {name : String} (hn : s.Mentions name) : P name := by
  obtain ⟨s', hin, hs'⟩ := hn
  obtain ⟨name', heq, hname⟩ := h s' hin _ hs'
  have hl : name.toList = name'.toList := by simpa using congrArg String.toList heq
  rwa [String.toList_inj.mp hl]

theorem refsSatisfy_iff {P : String → Prop} {s : Schema} :
    s.RefsSatisfy P ↔
      (∀ r, s.ref = some r → ∃ name, r = refStart ++ name ∧ P name) ∧
      (∀ m, s.properties = some m → ∀ name p, (name, p) ∈ m → p.RefsSatisfy P) ∧
      (∀ i, s.items = some i → i.RefsSatisfy P) ∧
      ∀ a, s.additional = some a → a.RefsSatisfy P :=
  everywhere_iff

section
variable {P : String → Prop}

@[simp] theorem refsSatisfy_typed (type : String) : (typed type).RefsSatisfy P :=
  refsSatisfy_iff.mpr (by simp [typed])

@[simp] theorem refsSatisfy_formatted (type format : String) :
    (formatted type format).RefsSatisfy P :=
  refsSatisfy_iff.mpr (by simp [formatted])

@[simp] theorem refsSatisfy_object : object.RefsSatisfy P := refsSatisfy_typed _

@[simp] theorem refsSatisfy_reference {name : String} :
    (reference name).RefsSatisfy P ↔ P name := by
  constructor
  · intro h
    exact h.of_mentions ⟨_, .self, rfl⟩
  · intro h
    refine refsSatisfy_iff.mpr ⟨?_, by simp [reference], by simp [reference], by simp [reference]⟩
    rintro r hr
    cases hr
    exact ⟨name, rfl, h⟩

@[simp] theorem refsSatisfy_array {s : Schema} : (array s).RefsSatisfy P ↔ s.RefsSatisfy P := by
  rw [refsSatisfy_iff]
  simp [array]

@[simp] theorem refsSatisfy_mapOf {s : Schema} : (mapOf s).RefsSatisfy P ↔ s.RefsSatisfy P := by
  rw [refsSatisfy_iff]
  simp [mapOf]

theorem refsSatisfy_properties {type : Option String} {required : Option (List String)}
    {m : List (String × Schema)} :
    ({ type, properties := some m, required } : Schema).RefsSatisfy P ↔
      ∀ name p, (name, p) ∈ m → p.RefsSatisfy P := by
  rw [refsSatisfy_iff]
  simp

@[simp] theorem refsSatisfy_errorObject : errorObject.RefsSatisfy P := by
  refine refsSatisfy_properties.mpr ?_
  intro name p hp
  cases List.mem_singleton.mp hp
  exact refsSatisfy_typed _

theorem RefsSatisfy.withDescription {s : Schema} (h : s.RefsSatisfy P) (d : Option String) :
    { s with description := d }.RefsSatisfy P := by
  rw [refsSatisfy_iff] at h ⊢
  exact h

end

end Schema

end RouteDoc
