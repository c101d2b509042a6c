import RouteDoc.Document.Json
import RouteDoc.Proofs.KeyMap

/-! Fields of written records. What was written under a key is found there, whichever of the other
fields were left out, and reading it gives the value back. -/
namespace RouteDoc
open Json (field fieldIfSome fieldIfAny asString? asList?)

variable {α : Type}

/-- The fields that are present. -/
def written (fields : List (Option (String × Json))) : List (String × Json) := fields.filterMap id

theorem record_eq (fields : List (Option (String × Json))) :
    Json.record fields = .object (written fields) := rfl

section Lookup
variable (key k : String) (fields : List (Option (String × Json)))

@[simp] theorem lookup_written_nil : (written []).lookup key = none := rfl

private theorem lookup_map_cons (value : Option Json) :
    (written (value.map (k, ·) :: fields)).lookup key =
      if key = k then value.or ((written fields).lookup key)
      else (written fields).lookup key := by
  cases value with
  | none =>
    rw [Option.none_or, ite_self]
    rfl
  | some v =>
    change ((k, v) :: written fields).lookup key = _
    by_cases h : key = k
    · subst h
      simp
    · have hne : (key == k) = false := by simpa using h
      simp [List.lookup_cons, hne, h]

@[simp] theorem lookup_field_cons (value : Json) :
    (written (field k value :: fields)).lookup key =
      if key = k then some value else (written fields).lookup key :=
  lookup_map_cons key k fields (some value)

@[simp] theorem lookup_fieldIfSome_cons (write : α → Json) (value : Option α) :
    (written (fieldIfSome k write value :: fields)).lookup key =
      if key = k then (value.map write).or ((written fields).lookup key)
      else (written fields).lookup key := by
  rw [← lookup_map_cons, Option.map_map]
  rfl

@[simp] theorem lookup_fieldIfAny_cons (write : α → Json) (values : List α) :
    (written (fieldIfAny k write values :: fields)).lookup key =
      if key = k then
        (if values = [] then none else some (.array (values.map write))).or
          ((written fields).lookup key)
      else (written fields).lookup key := by
  rw [← lookup_map_cons]
  cases values <;> rfl

@[simp] theorem lookup_fieldIfFull_cons (write : α → Json) (m : KeyMap α) :
    (written (fieldIfFull k write m :: fields)).lookup key =
      if key = k then
        (if m.isEmpty then none else some (m.toJson write)).or ((written fields).lookup key)
      else (written fields).lookup key := by
  rw [← lookup_map_cons]
  unfold fieldIfFull
  split_ifs <;> rfl

@[simp] theorem lookup_fieldIfText_cons (s : String) :
    (written (fieldIfText k s :: fields)).lookup key =
      if key = k then
        (if s = "" then none else some (.string s)).or ((written fields).lookup key)
      else (written fields).lookup key := by
  rw [← lookup_map_cons]
  unfold fieldIfText
  split_ifs <;> rfl

end Lookup

theorem mapM_map_eq_some {β : Type} {write : α → β} {read : β → Option α} {l : List α}
    (h : ∀ a ∈ l, read (write a) = some a) : (l.map write).mapM read = some l := by
  induction l with
  | nil => rfl
  | cons a l ih =>
    have hrest := ih fun b hb => h b (List.mem_cons_of_mem a hb)
    simp [h a List.mem_cons_self, hrest]

theorem KeyMap.ofJson?_toJson {write : α → Json} {read : Json → Option α} {m : KeyMap α}
    (h : ∀ v ∈ m.values, read (write v) = some v) :
    KeyMap.ofJson? read (m.toJson write) = some m := by
  have hentries : Json.asEntries? read (m.toJson write) = some m.entries := by
    refine mapM_map_eq_some ?_
    rintro ⟨k, v⟩ he
    have hv : read (write v) = some v := h v (mem_values_iff.mpr ⟨k, he⟩)
    simp [hv]
  rw [KeyMap.ofJson?, hentries, Option.map_some, m.ofList_entries]

section Fields
variable {fields : List (String × Json)} {key : String} {read : Json → Option α}

theorem requiredField_eq_some (write : α → Json) {a : α} (hl : fields.lookup key = some (write a))
    (h : read (write a) = some a) : requiredField fields key read = some a := by
  rw [requiredField, hl, Option.bind_some, h]

theorem optionalField_eq_some (write : α → Json) {value : Option α}
    (hl : fields.lookup key = value.map write)
    (h : ∀ a, value = some a → read (write a) = some a) (hnull : read .null = none) :
    optionalField fields key read = some value := by
  unfold optionalField
  cases value with
  | none => simp [hl]
  | some a =>
    have ha : read (write a) = some a := h a rfl
    rw [hl, Option.map_some]
    split
    · next heq => cases heq
    · -- a reader that refuses null reads nothing that was written as null
      next heq =>
      rw [Option.some.inj heq, hnull] at ha
      cases ha
    · next v _ heq => rw [← Option.some.inj heq, ha, Option.map_some]

theorem fieldOr_list_eq_some (write : α → Json) {l : List α}
    (hl : fields.lookup key = if l = [] then none else some (.array (l.map write)))
    (h : ∀ a ∈ l, read (write a) = some a) : fieldOr fields key [] (asList? read) = some l := by
  by_cases hempty : l = []
  · simp [fieldOr, hl, hempty]
  · simp [fieldOr, hl, hempty, asList?, mapM_map_eq_some h]

theorem fieldOr_map_eq_some (write : α → Json) {m : KeyMap α}
    (hl : fields.lookup key = if m.isEmpty then none else some (m.toJson write))
    (h : ∀ v ∈ m.values, read (write v) = some v) :
    fieldOr fields key {} (KeyMap.ofJson? read) = some m := by
  obtain ⟨entries, sorted⟩ := m
  cases entries with
  | nil =>
    simp only [fieldOr, hl, KeyMap.isEmpty, List.isEmpty_nil, if_true]
    rfl
  | cons e rest => simp [fieldOr, hl, KeyMap.isEmpty, KeyMap.ofJson?_toJson h]

theorem fieldOr_text_eq_some {s : String}
    (hl : fields.lookup key = if s = "" then none else some (.string s)) :
    fieldOr fields key "" asString? = some s := by
  by_cases hempty : s = ""
  · simp [fieldOr, hl, hempty]
  · simp [fieldOr, hl, hempty, asString?]

end Fields

end RouteDoc
