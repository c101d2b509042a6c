import RouteDoc.Proofs.Json
import RouteDoc.Proofs.Schema.Refs

/-! Schemas written as JSON and read back. -/
namespace RouteDoc.Schema
open Json (fieldIfSome asString? asList?)

/-- The properties of the schema and of those inside it, at any depth, are in order. -/
def Ordered (s : Schema) : Prop :=
  ∀ s', Within s' s → ∀ m, s'.properties = some m → SortedEntries m

theorem ordered_iff {s : Schema} :
    s.Ordered ↔
      (∀ m, s.properties = some m → SortedEntries m ∧ ∀ name p, (name, p) ∈ m → p.Ordered) ∧
      (∀ i, s.items = some i → i.Ordered) ∧ ∀ a, s.additional = some a → a.Ordered := by
  constructor
  · intro h
    refine ⟨fun m hm => ⟨h s .self m hm, ?_⟩, ?_, ?_⟩
    · intro name p hp s' hin
      exact h s' (.property hm hp hin)
    · intro i hi s' hin
      exact h s' (.items hi hin)
    · intro a ha s' hin
      exact h s' (.additional ha hin)
  · rintro ⟨hproperties, hitems, hadditional⟩ s' hin
    cases hin with
    | self => exact fun m hm => (hproperties m hm).1
    | property hm hp hin => exact (hproperties _ hm).2 _ _ hp s' hin
    | items hi hin => exact hitems _ hi s' hin
    | additional ha hin => exact hadditional _ ha s' hin

/-- Properties as JSON. -/
private def propertyFields (m : List (String × Schema)) : Json :=
  .object (m.map fun e => (e.1, e.2.toJson))

theorem toJson_eq (s : Schema) :
    s.toJson = .record [
      fieldIfSome "$ref" .string s.ref,
      fieldIfSome "type" .string s.type,
      fieldIfSome "format" .string s.format,
      fieldIfSome "description" .string s.description,
      fieldIfSome "properties" propertyFields s.properties,
      fieldIfSome "required" .strings s.required,
      fieldIfSome "items" toJson s.items,
      fieldIfSome "enum" .array s.enumValues,
      fieldIfSome "additionalProperties" toJson s.additional] := by
  have hentries : ∀ l : List (String × Schema), entriesJson l = l.map fun e => (e.1, e.2.toJson) := by
    intro l
    induction l with
    | nil => rfl
    | cons e l ih => rw [entriesJson, ih, List.map_cons]
  have hproperties : ∀ o : Option (List (String × Schema)),
      propertiesJson o = o.map propertyFields := by
    intro o
    cases o with
    | none => rfl
    | some m => exact congrArg (fun l => some (Json.object l)) (hentries m)
  have hoption : ∀ o : Option Schema, optionJson o = o.map toJson := by
    intro o
    cases o <;> rfl
  obtain ⟨ref, type, format, description, properties, required, items, enumValues, additional⟩ := s
  simp only [toJson, hproperties, hoption, fieldIfSome, Option.map_map, Function.comp_def]

/-- Fields are read from the last one. A part that was left out is absent. -/
private theorem ofFields?_fieldIfSome {α : Type} {key : String} {write : α → Json}
    {value : Option α} {fields : List (Option (String × Json))} (set : Option α → Schema)
    (hset : ∀ a, value = some a → ∀ rest, ofFields? rest = some (set none) →
      ofFields? ((key, write a) :: rest) = some (set (some a)))
    (hrest : ofFields? (written fields) = some (set none)) :
    ofFields? (written (fieldIfSome key write value :: fields)) = some (set value) := by
  cases value with
  | none => exact hrest
  | some a => exact hset a rfl _ hrest

private theorem entriesOf?_map {l : List (String × Schema)}
    (h : ∀ e ∈ l, ofJson? e.2.toJson = some e.2) :
    entriesOf? (l.map fun e => (e.1, e.2.toJson)) = some l := by
  induction l with
  | nil => rfl
  | cons e l ih =>
    have he := h e List.mem_cons_self
    have hrest := ih fun e' he' => h e' (List.mem_cons_of_mem e he')
    simp [entriesOf?, he, hrest]

private theorem optionOf?_toJson {s : Schema} (h : ofJson? s.toJson = some s) :
    optionOf? s.toJson = some (some s) := by
  rw [toJson_eq] at h ⊢
  exact congrArg (Option.map some) h

/-- A schema is read back if the schemas that stand directly in it are. -/
private theorem ofJson?_toJson_of_inside {s : Schema}
    (hproperties : ∀ m, s.properties = some m → propertiesOf? (propertyFields m) = some (some m))
    (hitems : ∀ i, s.items = some i → optionOf? i.toJson = some (some i))
    (hadditional : ∀ a, s.additional = some a → optionOf? a.toJson = some (some a)) :
    ofJson? s.toJson = some s := by
  have hrequired : ∀ l : List String, (l.map Json.string).mapM asString? = some l := fun l =>
    mapM_map_eq_some fun _ _ => rfl
  have henum : ∀ l : List Json, l.mapM some = some l := by
    intro l
    have hread : (l.map id).mapM some = some l := mapM_map_eq_some fun _ _ => rfl
    rwa [List.map_id] at hread
  rw [toJson_eq]
  obtain ⟨ref, type, format, description, properties, required, items, enumValues, additional⟩ := s
  refine ofFields?_fieldIfSome (fun ref => ⟨ref, type, format, description, properties, required,
    items, enumValues, additional⟩) ?_ ?_
  · intro a ha rest hrest
    simp [ofFields?, hrest, part?, asString?]
  refine ofFields?_fieldIfSome (fun type => ⟨none, type, format, description, properties, required,
    items, enumValues, additional⟩) ?_ ?_
  · intro a ha rest hrest
    simp [ofFields?, hrest, part?, asString?]
  refine ofFields?_fieldIfSome (fun format => ⟨none, none, format, description, properties, required,
    items, enumValues, additional⟩) ?_ ?_
  · intro a ha rest hrest
    simp [ofFields?, hrest, part?, asString?]
  refine ofFields?_fieldIfSome (fun description => ⟨none, none, none, description, properties,
    required, items, enumValues, additional⟩) ?_ ?_
  · intro a ha rest hrest
    simp [ofFields?, hrest, part?, asString?]
  refine ofFields?_fieldIfSome (fun properties => ⟨none, none, none, none, properties, required,
    items, enumValues, additional⟩) ?_ ?_
  · intro m hm rest hrest
    simp [ofFields?, hrest, hproperties m hm]
  refine ofFields?_fieldIfSome (fun required => ⟨none, none, none, none, none, required, items,
    enumValues, additional⟩) ?_ ?_
  · intro l hl rest hrest
    simp [ofFields?, hrest, part?, asList?, Json.strings, hrequired]
  refine ofFields?_fieldIfSome (fun items => ⟨none, none, none, none, none, none, items, enumValues,
    additional⟩) ?_ ?_
  · intro i hi rest hrest
    simp [ofFields?, hrest, hitems i hi]
  refine ofFields?_fieldIfSome (fun enumValues => ⟨none, none, none, none, none, none, none,
    enumValues, additional⟩) ?_ ?_
  · intro l hl rest hrest
    simp [ofFields?, hrest, part?, asList?, henum]
  refine ofFields?_fieldIfSome (fun additional => ⟨none, none, none, none, none, none, none, none,
    additional⟩) ?_ rfl
  · intro a ha rest hrest
    simp [ofFields?, hrest, hadditional a ha]

theorem ofJson?_toJson {s : Schema} (h : s.Ordered) : ofJson? s.toJson = some s := by
  induction s using inside_induction with
  | step s ihp ihi iha =>
    obtain ⟨hp, hi, ha⟩ := ordered_iff.mp h
    refine ofJson?_toJson_of_inside ?_ ?_ ?_
    · intro m hm
      obtain ⟨hsorted, hordered⟩ := hp m hm
      have hread : entriesOf? (m.map fun e => (e.1, e.2.toJson)) = some m :=
        entriesOf?_map fun e he => ihp m hm e.1 e.2 he (hordered e.1 e.2 he)
      calc propertiesOf? (propertyFields m)
          = (entriesOf? (m.map fun e => (e.1, e.2.toJson))).map fun entries =>
              some (KeyMap.ofList entries).entries := rfl
        _ = some (some m) := by rw [hread, Option.map_some, KeyMap.entries_ofList hsorted]
    · intro i hitem
      exact optionOf?_toJson (ihi i hitem (hi i hitem))
    · intro a hadditional
      exact optionOf?_toJson (iha a hadditional (ha a hadditional))

end RouteDoc.Schema
