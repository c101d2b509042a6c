import Mathlib.Data.String.Basic
import Mathlib.Order.Bounds.Basic
import RouteDoc.KeyMap

/-! Laws of finite maps. A look-up after an insertion needs no order of the entries; maps are equal when
all look-ups agree, since their keys increase. -/
namespace RouteDoc
variable {α : Type}

private theorem lookup_cons_ite (k k' : String) (v : α) (l : List (String × α)) :
    List.lookup k ((k', v) :: l) = if k = k' then some v else l.lookup k := by
  rw [List.lookup_cons]
  by_cases h : k = k'
  · subst h
    simp
  · have hne : (k == k') = false := by simpa using h
    simp [hne, h]

theorem lookup_insertEntry (key k : String) (value : α) (l : List (String × α)) :
    (insertEntry key value l).lookup k = if k = key then some value else l.lookup k := by
  induction l with
  | nil => exact lookup_cons_ite k key value []
  | cons e rest ih =>
    obtain ⟨k', v⟩ := e
    simp only [insertEntry]
    by_cases hlt : key < k'
    · rw [if_pos hlt, lookup_cons_ite]
    rw [if_neg hlt]
    by_cases heq : key = k'
    · subst heq
      rw [if_pos rfl, lookup_cons_ite, lookup_cons_ite]
      split_ifs <;> rfl
    · rw [if_neg heq, lookup_cons_ite, lookup_cons_ite, ih]
      -- the key of the entry passed over is not the new one
      by_cases hk : k = k'
      · rw [if_pos hk, if_pos hk, if_neg (hk.trans_ne (Ne.symm heq))]
      · rw [if_neg hk, if_neg hk]

theorem mem_of_lookup {l : List (String × α)} {k : String} {v : α} (h : l.lookup k = some v) :
    (k, v) ∈ l := by
  obtain ⟨before, after, hl, -⟩ := List.lookup_eq_some_iff.mp h
  rw [hl]
  exact List.mem_append_right _ List.mem_cons_self

/-- A new entry comes between the others. -/
theorem insertEntry_of_lookup_eq_none {key : String} (value : α) {l : List (String × α)}
    (h : l.lookup key = none) :
    ∃ before after, l = before ++ after ∧
      insertEntry key value l = before ++ (key, value) :: after := by
  induction l with
  | nil => exact ⟨[], [], rfl, rfl⟩
  | cons e rest ih =>
    obtain ⟨k, v⟩ := e
    rw [lookup_cons_ite] at h
    split_ifs at h with hk
    obtain ⟨before, after, hrest, hinsert⟩ := ih h
    unfold insertEntry
    by_cases hlt : key < k
    · exact ⟨[], (k, v) :: rest, rfl, if_pos hlt⟩
    · rw [if_neg hlt, if_neg hk, hinsert]
      exact ⟨(k, v) :: before, after, congrArg _ hrest, rfl⟩

private theorem lookup_map {β : Type} (f : String → α → β) (k : String) (l : List (String × α)) :
    (l.map fun e => (e.1, f e.1 e.2)).lookup k = (l.lookup k).map (f k) := by
  induction l with
  | nil => rfl
  | cons e rest ih =>
    obtain ⟨k', v⟩ := e
    rw [List.map_cons, lookup_cons_ite, lookup_cons_ite, ih]
    by_cases h : k = k'
    · rw [if_pos h, if_pos h, h, Option.map_some]
    · rw [if_neg h, if_neg h]

namespace SortedEntries

theorem mem_iff_lookup {l : List (String × α)} (h : SortedEntries l) (k : String) (v : α) :
    (k, v) ∈ l ↔ l.lookup k = some v := by
  refine ⟨fun hmem => ?_, mem_of_lookup⟩
  induction l with
  | nil => cases hmem
  | cons a rest ih =>
    obtain ⟨k', v'⟩ := a
    obtain ⟨hk, hrest⟩ := List.pairwise_cons.mp h
    rw [lookup_cons_ite]
    rcases List.mem_cons.mp hmem with heq | hmem
    · cases heq
      exact if_pos rfl
    · -- a later key is greater than the first
      rw [if_neg (String.ne_of_lt (hk _ hmem)).symm]
      exact ih hrest hmem

/-- A new value takes the place of the old one. -/
theorem insertEntry_of_lookup_eq_some {key : String} {old : α} (value : α)
    {l : List (String × α)} (hl : SortedEntries l) (h : l.lookup key = some old) :
    ∃ before after, l = before ++ (key, old) :: after ∧
      insertEntry key value l = before ++ (key, value) :: after := by
  induction l with
  | nil => cases h
  | cons e rest ih =>
    obtain ⟨k, v⟩ := e
    obtain ⟨hk, hrest⟩ := List.pairwise_cons.mp hl
    rw [lookup_cons_ite] at h
    unfold insertEntry
    split_ifs at h with heq
    · cases h
      subst heq
      rw [if_neg (String.lt_irrefl key), if_pos rfl]
      exact ⟨[], rest, rfl, rfl⟩
    · -- the key stands later, so it is greater
      obtain ⟨before, after, hsplit, hinsert⟩ := ih hrest h
      have hlt : k < key := hk (key, old) (mem_of_lookup h)
      rw [if_neg (String.lt_asymm hlt), if_neg heq, hinsert]
      exact ⟨(k, v) :: before, after, congrArg _ hsplit, rfl⟩

theorem nodup {l : List (String × α)} (h : SortedEntries l) : l.Nodup := by
  refine List.Pairwise.imp ?_ h
  intro a b hlt heq
  exact String.ne_of_lt hlt (congrArg Prod.fst heq)

end SortedEntries

private theorem insertEntry_eq_append {key : String} (value : α) {l : List (String × α)}
    (h : ∀ e ∈ l, e.1 < key) : insertEntry key value l = l ++ [(key, value)] := by
  induction l with
  | nil => rfl
  | cons e rest ih =>
    have he : e.1 < key := h e List.mem_cons_self
    have hrest := ih fun e' he' => h e' (List.mem_cons_of_mem e he')
    unfold insertEntry
    rw [if_neg (String.lt_asymm he), if_neg (String.ne_of_lt he).symm, hrest, List.cons_append]

namespace KeyMap

theorem get?_insert (m : KeyMap α) (key k : String) (value : α) :
    (m.insert key value).get? k = if k = key then some value else m.get? k :=
  lookup_insertEntry key k value m.entries

theorem get?_insert_or (m : KeyMap α) (key k : String) (value : α) :
    (m.insert key value).get? k = (if k = key then some value else none).or (m.get? k) := by
  rw [get?_insert]
  split_ifs <;> rfl

/-- A look-up inside the values, after one of them was changed or made from an empty one. -/
theorem bind_get?_update {β : Type} (look : α → Option β) {e : α} {f : α → α} {c : Prop}
    [Decidable c] {v : β} (he : look e = none)
    (hf : ∀ x, look (f x) = if c then some v else look x) (m : KeyMap α) (key k : String) :
    ((m.insert key (f ((m.get? key).getD e))).get? k).bind look =
      if k = key ∧ c then some v else (m.get? k).bind look := by
  rw [get?_insert]
  by_cases hk : k = key
  · subst hk
    have hold : look ((m.get? k).getD e) = (m.get? k).bind look := by
      cases m.get? k with
      | none => exact he
      | some x => rfl
    rw [if_pos rfl, Option.bind_some, hf, hold]
    simp only [true_and]
  · rw [if_neg hk, if_neg fun h => hk h.1]

theorem contains_iff_exists (m : KeyMap α) (k : String) :
    m.contains k = true ↔ ∃ v, m.get? k = some v := Option.isSome_iff_exists

@[simp] theorem contains_insert (m : KeyMap α) (key k : String) (value : α) :
    (m.insert key value).contains k = true ↔ k = key ∨ m.contains k = true := by
  unfold contains
  rw [get?_insert]
  by_cases h : k = key <;> simp [h]

theorem mem_entries_iff (m : KeyMap α) (k : String) (v : α) :
    (k, v) ∈ m.entries ↔ m.get? k = some v := m.sorted.mem_iff_lookup k v

theorem mem_values_iff {m : KeyMap α} {v : α} : v ∈ m.values ↔ ∃ k, (k, v) ∈ m.entries := by
  simp [values]

theorem mem_of_mem_insert {m : KeyMap α} {key : String} {value : α} {e : String × α}
    (h : e ∈ (m.insert key value).entries) : e = (key, value) ∨ e ∈ m.entries :=
  mem_of_mem_insertEntry h

theorem mem_of_mem_ofList {l : List (String × α)} {e : String × α}
    (h : e ∈ (ofList l).entries) : e ∈ l := by
  have hfold : ∀ m : KeyMap α, e ∈ (l.foldl (fun m e => m.insert e.1 e.2) m).entries →
      e ∈ m.entries ∨ e ∈ l := by
    clear h
    induction l with
    | nil => exact fun m h => .inl h
    | cons a rest ih =>
      intro m h
      rcases ih _ h with h | h
      · rcases mem_of_mem_insert h with rfl | h
        · exact .inr List.mem_cons_self
        · exact .inl h
      · exact .inr (List.mem_cons_of_mem _ h)
  exact (hfold empty h).resolve_left List.not_mem_nil

theorem contains_ofList {l : List (String × α)} {k : String} :
    (ofList l).contains k = true ↔ k ∈ l.map Prod.fst := by
  have hfold : ∀ m : KeyMap α, (l.foldl (fun m e => m.insert e.1 e.2) m).contains k = true ↔
      k ∈ l.map Prod.fst ∨ m.contains k = true := by
    induction l with
    | nil => simp
    | cons e rest ih =>
      intro m
      rw [List.foldl_cons, ih, contains_insert, List.map_cons, List.mem_cons, or_left_comm, or_assoc]
  exact (hfold empty).trans (or_iff_left (by simp [contains, get?, empty]))

theorem isEmpty_iff {m : KeyMap α} : m.isEmpty = true ↔ ∀ k, m.contains k = false := by
  obtain ⟨entries, sorted⟩ := m
  cases entries with
  | nil => exact ⟨fun _ _ => rfl, fun _ => rfl⟩
  | cons e rest =>
    refine ⟨fun h => (by cases h), fun h => ?_⟩
    have hk : KeyMap.contains ⟨e :: rest, sorted⟩ e.1 = true := by simp [contains, get?]
    rw [h e.1] at hk
    cases hk

theorem get?_insertIfNew (m : KeyMap α) (key k : String) (value : α) :
    (m.insertIfNew key value).get? k = (m.get? k).or (if k = key then some value else none) := by
  unfold insertIfNew contains
  by_cases hk : k = key
  · subst hk
    cases hg : m.get? k with
    | none => simp [get?_insert]
    | some v => simp [hg]
  · rw [if_neg hk, Option.or_none]
    split_ifs
    · rfl
    · rw [get?_insert, if_neg hk]

theorem mem_of_mem_insertIfNew {m : KeyMap α} {key : String} {value : α} {e : String × α}
    (h : e ∈ (m.insertIfNew key value).entries) : e = (key, value) ∨ e ∈ m.entries := by
  unfold insertIfNew at h
  split_ifs at h
  · exact .inr h
  · exact mem_of_mem_insert h

theorem get?_foldl_insertIfNew (m : KeyMap α) (names : List String) (value : α) (k : String) :
    (names.foldl (fun m name => m.insertIfNew name value) m).get? k =
      (m.get? k).or (if k ∈ names then some value else none) := by
  induction names generalizing m with
  | nil => simp
  | cons name rest ih =>
    rw [List.foldl_cons, ih, get?_insertIfNew, Option.or_assoc]
    by_cases hk : k = name
    · simp [hk]
    · simp [hk]

theorem mem_of_mem_foldl_insertIfNew {m : KeyMap α} {names : List String} {value : α}
    {e : String × α}
    (h : e ∈ (names.foldl (fun m name => m.insertIfNew name value) m).entries) :
    e ∈ m.entries ∨ e.2 = value := by
  induction names generalizing m with
  | nil => exact .inl h
  | cons name rest ih =>
    rcases ih h with h | h
    · rcases mem_of_mem_insertIfNew h with rfl | h
      · exact .inr rfl
      · exact .inl h
    · exact .inr h

theorem foldl_insertIfNew_eq_self {m : KeyMap α} {names : List String}
    (h : ∀ name ∈ names, m.contains name = true) (value : α) :
    names.foldl (fun m name => m.insertIfNew name value) m = m := by
  induction names with
  | nil => rfl
  | cons name rest ih =>
    have hname : m.insertIfNew name value = m := if_pos (h name List.mem_cons_self)
    rw [List.foldl_cons, hname]
    exact ih fun k hk => h k (List.mem_cons_of_mem _ hk)

theorem ext_entries {m m' : KeyMap α} (h : m.entries = m'.entries) : m = m' := by
  cases m
  cases m'
  cases h
  rfl

theorem ext_get? {m m' : KeyMap α} (hget : ∀ k, m.get? k = m'.get? k) : m = m' := by
  have hmem : ∀ e, e ∈ m.entries ↔ e ∈ m'.entries := by
    rintro ⟨k, v⟩
    rw [m.mem_entries_iff, m'.mem_entries_iff, hget]
  have hperm : m.entries.Perm m'.entries :=
    (List.perm_ext_iff_of_nodup m.sorted.nodup m'.sorted.nodup).mpr hmem
  exact ext_entries
    (hperm.eq_of_pairwise (fun a b _ _ hab hba => absurd hba (String.lt_asymm hab)) m.sorted m'.sorted)

/-- A search through the keys ends at the least one with an answer. -/
theorem findSome?_keys_cases {β : Type} {m : KeyMap α}
    {f : String → Option β} (hf : ∀ k, (f k).isSome = true → m.contains k = true) :
    (∀ k, f k = none) ∧ m.keys.findSome? f = none ∨
      ∃ k, IsLeast {k | (f k).isSome = true} k ∧ m.keys.findSome? f = f k := by
  have hmem : ∀ k, (f k).isSome = true → k ∈ m.keys := by
    intro k hk
    obtain ⟨v, hv⟩ := (m.contains_iff_exists k).mp (hf k hk)
    exact List.mem_map.mpr ⟨(k, v), mem_of_lookup hv, rfl⟩
  have hkeys : m.keys.Pairwise (· < ·) := List.pairwise_map.mpr m.sorted
  cases hfind : m.keys.findSome? f with
  | none =>
    left
    refine ⟨fun k => ?_, rfl⟩
    by_contra hne
    have hk := hmem k (Option.isSome_iff_ne_none.mpr hne)
    exact hne (List.findSome?_eq_none_iff.mp hfind k hk)
  | some b =>
    right
    obtain ⟨before, k, after, hsplit, hk, hbefore⟩ := List.findSome?_eq_some_iff.mp hfind
    have hsome : (f k).isSome = true := Option.isSome_of_mem hk
    refine ⟨k, ⟨hsome, fun k' hk' => ?_⟩, hk.symm⟩
    -- a smaller key would stand before this one
    have hk'some : (f k').isSome = true := hk'
    have hk'mem := hmem k' hk'some
    rw [hsplit] at hk'mem hkeys
    rcases List.mem_append.mp hk'mem with hin | hin
    · rw [hbefore k' hin] at hk'some
      cases hk'some
    · have htail := (List.pairwise_append.mp hkeys).2.1
      rcases List.mem_cons.mp hin with heq | hin
      · exact heq.ge
      · exact ((List.pairwise_cons.mp htail).1 k' hin).le

theorem findSome?_keys_eq {β : Type} {m m' : KeyMap α}
    {f : String → Option β} (hf : ∀ k, (f k).isSome = true → m.contains k = true)
    (hf' : ∀ k, (f k).isSome = true → m'.contains k = true) :
    m.keys.findSome? f = m'.keys.findSome? f := by
  rcases findSome?_keys_cases hf with ⟨hnone, heq⟩ | ⟨k, hk, heq⟩
  · have heq' : m'.keys.findSome? f = none := List.findSome?_eq_none_iff.mpr fun k _ => hnone k
    rw [heq, heq']
  · rcases findSome?_keys_cases hf' with ⟨hnone, -⟩ | ⟨k', hk', heq'⟩
    · have hsome : (f k).isSome = true := hk.1
      rw [hnone k] at hsome
      cases hsome
    · rw [heq, heq', hk.unique hk']

private theorem entries_foldl_insert {m : KeyMap α} {l : List (String × α)}
    (h : SortedEntries (m.entries ++ l)) :
    (l.foldl (fun m e => m.insert e.1 e.2) m).entries = m.entries ++ l := by
  induction l generalizing m with
  | nil => exact (List.append_nil _).symm
  | cons e rest ih =>
    have hlast : ∀ a ∈ m.entries, a.1 < e.1 := fun a ha =>
      (List.pairwise_append.mp h).2.2 a ha e List.mem_cons_self
    have hinsert : (m.insert e.1 e.2).entries = m.entries ++ [e] := insertEntry_eq_append e.2 hlast
    rw [List.foldl_cons, ih, hinsert, List.append_assoc, List.singleton_append]
    rwa [hinsert, List.append_assoc, List.singleton_append]

theorem entries_ofList {l : List (String × α)} (h : SortedEntries l) : (ofList l).entries = l :=
  entries_foldl_insert h

theorem ofList_entries (m : KeyMap α) : ofList m.entries = m :=
  ext_entries (entries_ofList m.sorted)

/-- A map whose values are changed one by one. -/
theorem get?_ofList_map {β : Type} (m : KeyMap α) (f : String → α → β) (k : String) :
    (ofList (m.entries.map fun e => (e.1, f e.1 e.2))).get? k = (m.get? k).map (f k) := by
  have hsorted : SortedEntries (m.entries.map fun e => (e.1, f e.1 e.2)) :=
    List.pairwise_map.mpr m.sorted
  unfold get?
  rw [entries_ofList hsorted]
  exact lookup_map f k m.entries

end KeyMap

end RouteDoc
