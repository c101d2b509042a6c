import RouteDoc.Proofs.Schema.Growth

/-! Calls for names. The schema of a type or a model depends only on the answers to the calls that are
made for it, and the table that it leaves is the one after these calls, each made over the table that
the one before left. -/
namespace RouteDoc
open Disk Go

/-- A name whose schema is asked for, with its package, the directory of its use and the table at
that moment. -/
structure NameCall where
  package : Option String
  name : String
  dir : Option FilePath
  table : SchemaTable

def NameCall.answer (c : NameCall) (names : NameSchema) : Schema × SchemaTable :=
  names c.package c.name c.dir c.table

/-- The answer to a call leaves in progress what was in progress. -/
def NameCall.KeepsProgress (names : NameSchema) (c : NameCall) : Prop :=
  (c.answer names).2.inProgress = c.table.inProgress

/-- While the schema of a type is made over a table, a name is called. The fields of a struct follow
each other, so that each finds the table that those before it left. -/
inductive Go.TypeExpr.Calls (names : NameSchema) (dir : Option FilePath) :
    TypeExpr → SchemaTable → NameCall → Prop where
  | named {name : String} {t : SchemaTable} (h : Schema.builtin? name = none) :
      Calls names dir (.named name) t ⟨none, name, dir, t⟩
  | qualified {package name : String} {t : SchemaTable}
      (h : Schema.builtin? (package ++ "." ++ name) = none) :
      Calls names dir (.qualified package name) t ⟨some package, name, dir, t⟩
  | pointer {elem : TypeExpr} {t : SchemaTable} {c : NameCall} (h : Calls names dir elem t c) :
      Calls names dir (.pointer elem) t c
  | slice {elem : TypeExpr} {t : SchemaTable} {c : NameCall} (h : Calls names dir elem t c) :
      Calls names dir (.slice elem) t c
  | array {length : String} {elem : TypeExpr} {t : SchemaTable} {c : NameCall}
      (h : Calls names dir elem t c) : Calls names dir (.array length elem) t c
  | map {key value : TypeExpr} {t : SchemaTable} {c : NameCall} (h : Calls names dir value t c) :
      Calls names dir (.map key value) t c
  | base {base : TypeExpr} {t : SchemaTable} {c : NameCall} (h : Calls names dir base t c) :
      Calls names dir (.generic base []) t c
  | argument {base arg : TypeExpr} {rest : List TypeExpr} {t : SchemaTable} {c : NameCall}
      (h : Calls names dir arg t c) : Calls names dir (.generic base (arg :: rest)) t c
  | field {fields : List Field} {before after : List FieldDef} {d : FieldDef} {t : SchemaTable}
      {c : NameCall} (hd : fields.filterMap FieldDef.ofField? = before ++ d :: after)
      (h : Calls names dir d.type (Schema.ofFields names dir before t).2 c) :
      Calls names dir (.struct fields) t c

/-- While the schema of a model is made over a table, a name is called. -/
inductive Model.Calls (names : NameSchema) (m : Model) (t : SchemaTable) : NameCall → Prop where
  | field {before after : List FieldDef} {d : FieldDef} {c : NameCall}
      (hk : m.kind = .struct (before ++ d :: after))
      (h : d.type.Calls names (some m.dir) (Schema.ofFields names (some m.dir) before t).2 c) :
      Calls names m t c
  | synonym {type : TypeExpr} {c : NameCall} (hk : m.kind = .synonym type)
      (hq : ∀ p n, type ≠ .qualified p n) (h : type.Calls names (some m.dir) t c) :
      Calls names m t c

/-- Only names that the type asks for are called. -/
theorem Go.TypeExpr.Calls.asks {names : NameSchema} {dir : Option FilePath} {type : TypeExpr}
    {t : SchemaTable} {c : NameCall} (hc : type.Calls names dir t c) : type.Asks c.name := by
  induction hc with
  | named h => exact .named h
  | qualified h => exact .qualified h
  | pointer _ ih => exact .pointer ih
  | slice _ ih => exact .slice ih
  | array _ ih => exact .array ih
  | map _ ih => exact .map ih
  | base _ ih => exact .base ih
  | argument _ ih => exact asks_argument.mpr ih
  | field hd _ ih => exact asks_struct.mpr ⟨_, hd ▸ by simp, ih⟩

namespace Schema
variable {names names' : NameSchema} {dir : Option FilePath}

/-- Fields are the same for two ways to answer that agree on the calls made for them. -/
private theorem ofFields_congr_of {fields : List FieldDef}
    (htype : ∀ d ∈ fields, ∀ t,
      (∀ c, d.type.Calls names dir t c → c.answer names = c.answer names') →
        ofType names dir false d.type t = ofType names' dir false d.type t)
    {t : SchemaTable}
    (h : ∀ before d after c, fields = before ++ d :: after →
      d.type.Calls names dir (ofFields names dir before t).2 c → c.answer names = c.answer names') :
    ofFields names dir fields t = ofFields names' dir fields t := by
  induction fields generalizing t with
  | nil => rfl
  | cons d rest ih =>
    have hd : ofType names dir false d.type t = ofType names' dir false d.type t :=
      htype d List.mem_cons_self t fun c hc => h [] d rest c rfl hc
    have hrest := ih (fun d' hd' => htype d' (List.mem_cons_of_mem d hd'))
      (t := (ofType names dir false d.type t).2)
      fun before d' after c heq hc => h (d :: before) d' after c (congrArg (d :: ·) heq) hc
    simp only [ofFields, ← hd, hrest]

/-- The schema of a type depends only on the answers to the calls that are made for it. -/
theorem ofType_congr {type : TypeExpr} {t : SchemaTable}
    (h : ∀ c, type.Calls names dir t c → c.answer names = c.answer names') (bare : Bool) :
    ofType names dir bare type t = ofType names' dir bare type t := by
  induction type using TypeExpr.part_induction generalizing bare t with
  | named name =>
    cases hb : builtin? name with
    | none =>
      simp only [ofType, hb]
      exact h _ (.named hb)
    | some s => simp only [ofType, hb]
  | qualified package name =>
    cases hb : builtin? (package ++ "." ++ name) with
    | none =>
      simp only [ofType, hb]
      exact h _ (.qualified hb)
    | some s => simp only [ofType, hb]
  | pointer elem ih =>
    have helem := ih fun c hc => h c (.pointer hc)
    simpa only [ofType] using helem bare
  | slice elem ih =>
    have helem := ih fun c hc => h c (.slice hc)
    simp only [ofType, helem]
  | array length elem ih =>
    have helem := ih fun c hc => h c (.array hc)
    simp only [ofType, helem]
  | map key value ih =>
    have hvalue := ih fun c hc => h c (.map hc)
    simp only [ofType, hvalue]
  | base base ih =>
    have hbase := ih fun c hc => h c (.base hc)
    simpa only [ofType] using hbase false
  | argument base arg rest ih =>
    have harg := ih fun c hc => h c (.argument hc)
    simpa only [ofType] using harg true
  | struct fields ih =>
    have hfields : ofFields names dir (fields.filterMap FieldDef.ofField?) t =
        ofFields names' dir (fields.filterMap FieldDef.ofField?) t := by
      refine ofFields_congr_of ?_ fun before d after c heq hc => h c (.field heq hc)
      intro d hd t' ht'
      obtain ⟨f, hf, hfd⟩ := List.mem_filterMap.mp hd
      rw [FieldDef.type_of_ofField? hfd] at ht' ⊢
      exact ih f hf ht' false
    simp only [ofType, ofInlineFields_eq_ofFields, hfields]
  | _ => simp only [ofType]

/-- A model is made of its fields, of the type that it stands for, or without any name. -/
theorem ofKind_cases (m : Model) :
    (∃ fields, m.kind = .struct fields ∧ ∀ names t, ofKind names m t =
        (ofFieldSchemas (ofFields names (some m.dir) fields t).1,
          (ofFields names (some m.dir) fields t).2)) ∨
      (∃ type, m.kind = .synonym type ∧ (∀ p n, type ≠ .qualified p n) ∧
        ∀ names t, ofKind names m t = ofType names (some m.dir) false type t) ∨
      ∃ s, ∀ names t, ofKind names m t = (s, t) := by
  cases hk : m.kind with
  | struct fields =>
    refine .inl ⟨fields, rfl, fun names t => ?_⟩
    simp only [ofKind, hk]
  | enumeration underlying values =>
    refine .inr (.inr ⟨(ofKind (fixedNames fun _ => object) m {}).1, fun names t => ?_⟩)
    simp only [ofKind, hk]
  | synonym type =>
    by_cases hq : ∃ p n, type = .qualified p n
    · obtain ⟨p, n, rfl⟩ := hq
      refine .inr (.inr ⟨(ofKind (fixedNames fun _ => object) m {}).1, fun names t => ?_⟩)
      simp only [ofKind, hk]
    · have hne : ∀ p n, type ≠ .qualified p n := fun p n he => hq ⟨p, n, he⟩
      exact .inr (.inl ⟨type, rfl, hne, fun names t => ofKind_synonym names hk hne t⟩)

/-- The schema of a model depends only on the answers to the calls that are made for it. -/
theorem ofModel_congr {m : Model} {t : SchemaTable}
    (h : ∀ c, m.Calls names t c → c.answer names = c.answer names') :
    ofModel names m t = ofModel names' m t := by
  have hkind : ofKind names m t = ofKind names' m t := by
    rcases ofKind_cases m with ⟨fields, hk, heq⟩ | ⟨type, hk, hq, heq⟩ | ⟨s, heq⟩
    · have hfields : ofFields names (some m.dir) fields t =
          ofFields names' (some m.dir) fields t := by
        refine ofFields_congr_of (fun d _ t ht => ofType_congr ht false) ?_
        rintro before d after c rfl hc
        exact h c (.field hk hc)
      rw [heq, heq, hfields]
    · rw [heq, heq]
      exact ofType_congr (fun c hc => h c (.synonym hk hq hc)) false
    · rw [heq, heq]
  simp only [ofModel, hkind]

end Schema

/-- Calls one after the other, each over the table that the one before left. -/
inductive Follow (names : NameSchema) : SchemaTable → List NameCall → SchemaTable → Prop where
  | nil {t : SchemaTable} : Follow names t [] t
  | cons {c : NameCall} {calls : List NameCall} {t : SchemaTable}
      (h : Follow names (c.answer names).2 calls t) : Follow names c.table (c :: calls) t

namespace Follow
variable {names : NameSchema} {t t' t'' : SchemaTable} {calls calls' : List NameCall}

theorem append (h : Follow names t calls t') (h' : Follow names t' calls' t'') :
    Follow names t (calls ++ calls') t'' := by
  induction h with
  | nil => exact h'
  | cons _ ih => exact .cons (ih h')

theorem inProgress (h : Follow names t calls t') (hc : ∀ c ∈ calls, c.KeepsProgress names) :
    t'.inProgress = t.inProgress := by
  induction h with
  | nil => rfl
  | @cons c calls t' _ ih =>
    have hrest := ih fun c' hc' => hc c' (List.mem_cons_of_mem c hc')
    exact hrest.trans (hc c List.mem_cons_self)

end Follow

/-- All calls that are made for a type over a table, in a row. -/
structure Go.TypeExpr.IsRun (names : NameSchema) (dir : Option FilePath) (type : TypeExpr)
    (t : SchemaTable) (calls : List NameCall) (t' : SchemaTable) : Prop where
  follow : Follow names t calls t'
  made : ∀ c ∈ calls, type.Calls names dir t c
  asked : ∀ name, type.Asks name → ∃ c ∈ calls, c.name = name

namespace Schema
variable {names : NameSchema} {dir : Option FilePath}

private theorem isRun_none {type : TypeExpr} (h : ∀ name, ¬ type.Asks name) (t : SchemaTable) :
    ∃ calls, type.IsRun names dir t calls t :=
  ⟨[], .nil, by simp, fun name hn => absurd hn (h name)⟩

private theorem isRun_call {type : TypeExpr} {c : NameCall} (hc : type.Calls names dir c.table c)
    (h : ∀ name, type.Asks name → name = c.name) :
    ∃ calls, type.IsRun names dir c.table calls (c.answer names).2 := by
  refine ⟨[c], .cons .nil, ?_, ?_⟩
  · intro c' hc'
    rw [List.mem_singleton.mp hc']
    exact hc
  · intro name hn
    exact ⟨c, List.mem_singleton_self c, (h name hn).symm⟩

private theorem isRun_part {part type : TypeExpr} {t t' : SchemaTable}
    (h : ∃ calls, part.IsRun names dir t calls t')
    (hcalls : ∀ {c}, part.Calls names dir t c → type.Calls names dir t c)
    (hasks : ∀ {name}, type.Asks name → part.Asks name) :
    ∃ calls, type.IsRun names dir t calls t' := by
  obtain ⟨calls, hfollow, hmade, hasked⟩ := h
  exact ⟨calls, hfollow, fun c hc => hcalls (hmade c hc), fun name hn => hasked name (hasks hn)⟩

private theorem exists_follow_ofFields_of {fields : List FieldDef}
    (htype : ∀ d ∈ fields, ∀ t, ∃ calls,
      d.type.IsRun names dir t calls (ofType names dir false d.type t).2) (t : SchemaTable) :
    ∃ calls, Follow names t calls (ofFields names dir fields t).2 ∧
      (∀ c ∈ calls, ∃ before d after, fields = before ++ d :: after ∧
        d.type.Calls names dir (ofFields names dir before t).2 c) ∧
      ∀ d ∈ fields, ∀ name, d.type.Asks name → ∃ c ∈ calls, c.name = name := by
  induction fields generalizing t with
  | nil => exact ⟨[], .nil, by simp, by simp⟩
  | cons d rest ih =>
    obtain ⟨calls, hfollow, hmade, hasked⟩ := htype d List.mem_cons_self t
    obtain ⟨calls', hfollow', hmade', hasked'⟩ :=
      ih (fun d' hd' => htype d' (List.mem_cons_of_mem d hd')) (ofType names dir false d.type t).2
    refine ⟨calls ++ calls', hfollow.append hfollow', ?_, ?_⟩
    · intro c hc
      rcases List.mem_append.mp hc with hc | hc
      · exact ⟨[], d, rest, rfl, hmade c hc⟩
      · obtain ⟨before, d', after, rfl, hcall⟩ := hmade' c hc
        exact ⟨d :: before, d', after, rfl, hcall⟩
    · intro d' hd' name hn
      rcases List.mem_cons.mp hd' with rfl | hd'
      · obtain ⟨c, hc, hname⟩ := hasked name hn
        exact ⟨c, List.mem_append_left calls' hc, hname⟩
      · obtain ⟨c, hc, hname⟩ := hasked' d' hd' name hn
        exact ⟨c, List.mem_append_right calls hc, hname⟩

/-- The table that a type leaves is that after the calls made for it, which are for all the names that
it asks for. -/
theorem exists_isRun (names : NameSchema) (dir : Option FilePath) (bare : Bool) (type : TypeExpr)
    (t : SchemaTable) :
    ∃ calls, type.IsRun names dir t calls (ofType names dir bare type t).2 := by
  induction type using TypeExpr.part_induction generalizing bare t with
  | named name =>
    cases hb : builtin? name with
    | none =>
      simp only [ofType, hb]
      exact isRun_call (c := ⟨none, name, dir, t⟩) (.named hb)
        fun k hk => (TypeExpr.asks_named.mp hk).2
    | some s =>
      simp only [ofType, hb]
      refine isRun_none (fun k hk => ?_) t
      rw [TypeExpr.asks_named, hb] at hk
      cases hk.1
  | qualified package name =>
    cases hb : builtin? (package ++ "." ++ name) with
    | none =>
      simp only [ofType, hb]
      exact isRun_call (c := ⟨some package, name, dir, t⟩) (.qualified hb)
        fun k hk => (TypeExpr.asks_qualified.mp hk).2
    | some s =>
      simp only [ofType, hb]
      refine isRun_none (fun k hk => ?_) t
      rw [TypeExpr.asks_qualified, hb] at hk
      cases hk.1
  | pointer elem ih =>
    simp only [ofType]
    exact isRun_part (ih bare t) .pointer TypeExpr.asks_pointer.mp
  | slice elem ih =>
    have helem := isRun_part (ih bare t) .slice TypeExpr.asks_slice.mp
    cases bare <;> simpa [ofType] using helem
  | array length elem ih =>
    have helem : ∃ calls, (TypeExpr.array length elem).IsRun names dir t calls
        (ofType names dir bare elem t).2 :=
      isRun_part (ih bare t) .array TypeExpr.asks_array.mp
    cases bare <;> simpa [ofType] using helem
  | map key value ih =>
    simp only [ofType]
    exact isRun_part (ih false t) .map TypeExpr.asks_map.mp
  | base base ih =>
    simp only [ofType]
    exact isRun_part (ih false t) .base TypeExpr.asks_base.mp
  | argument base arg rest ih =>
    simp only [ofType]
    exact isRun_part (ih true t) .argument TypeExpr.asks_argument.mp
  | struct fields ih =>
    have hfields : ∀ d ∈ fields.filterMap FieldDef.ofField?, ∀ t, ∃ calls,
        d.type.IsRun names dir t calls (ofType names dir false d.type t).2 := by
      intro d hd t
      obtain ⟨f, hf, hfd⟩ := List.mem_filterMap.mp hd
      rw [FieldDef.type_of_ofField? hfd]
      exact ih f hf false t
    obtain ⟨calls, hfollow, hmade, hasked⟩ := exists_follow_ofFields_of hfields t
    simp only [ofType, ofInlineFields_eq_ofFields]
    refine ⟨calls, hfollow, ?_, ?_⟩
    · intro c hc
      obtain ⟨before, d, after, heq, hcall⟩ := hmade c hc
      exact .field heq hcall
    · intro name hn
      obtain ⟨d, hd, hn⟩ := TypeExpr.asks_struct.mp hn
      exact hasked d hd name hn
  | _ =>
    simp only [ofType]
    exact isRun_none (fun name hn => by cases hn) t

/-- The table that a model leaves is that after the calls made for it. -/
theorem exists_follow_ofModel (names : NameSchema) (m : Model) (t : SchemaTable) :
    ∃ calls, Follow names t calls (ofModel names m t).2 ∧ ∀ c ∈ calls, m.Calls names t c := by
  change ∃ calls, Follow names t calls (ofKind names m t).2 ∧ _
  rcases ofKind_cases m with ⟨fields, hk, heq⟩ | ⟨type, hk, hq, heq⟩ | ⟨s, heq⟩
  · rw [heq]
    obtain ⟨calls, hfollow, hmade, -⟩ := exists_follow_ofFields_of
      (fun d _ t => exists_isRun names (some m.dir) false d.type t) t
    refine ⟨calls, hfollow, fun c hc => ?_⟩
    obtain ⟨before, d, after, rfl, hcall⟩ := hmade c hc
    exact .field hk hcall
  · rw [heq]
    obtain ⟨calls, hfollow, hmade, -⟩ := exists_isRun names (some m.dir) false type t
    exact ⟨calls, hfollow, fun c hc => .synonym hk hq (hmade c hc)⟩
  · rw [heq]
    exact ⟨[], .nil, by simp⟩

theorem ofFields_inProgress {fields : List FieldDef} {t : SchemaTable}
    (h : ∀ before d after c, fields = before ++ d :: after →
      d.type.Calls names dir (ofFields names dir before t).2 c → c.KeepsProgress names) :
    (ofFields names dir fields t).2.inProgress = t.inProgress := by
  obtain ⟨calls, hfollow, hmade, -⟩ := exists_follow_ofFields_of
    (fun d _ t => exists_isRun names dir false d.type t) t
  refine hfollow.inProgress fun c hc => ?_
  obtain ⟨before, d, after, heq, hcall⟩ := hmade c hc
  exact h before d after c heq hcall

theorem ofModel_inProgress {m : Model} {t : SchemaTable}
    (h : ∀ c, m.Calls names t c → c.KeepsProgress names) :
    (ofModel names m t).2.inProgress = t.inProgress := by
  obtain ⟨calls, hfollow, hmade⟩ := exists_follow_ofModel names m t
  exact hfollow.inProgress fun c hc => h c (hmade c hc)

end Schema

section
variable {names : NameSchema} {t : SchemaTable} {c : NameCall}

/-- The fields before a given one leave in progress what was in progress. -/
private theorem inProgress_ofFields_before {dir : Option FilePath} {before after : List FieldDef}
    {d : FieldDef}
    (h : ∀ before' d' after' c, before ++ d :: after = before' ++ d' :: after' →
      d'.type.Calls names dir (Schema.ofFields names dir before' t).2 c → c.KeepsProgress names) :
    (Schema.ofFields names dir before t).2.inProgress = t.inProgress := by
  refine Schema.ofFields_inProgress ?_
  rintro before' d' after' c rfl hc
  exact h before' d' (after' ++ d :: after) c (by simp) hc

/-- Every call that is made for a type finds in progress what was in progress at its start. -/
theorem Go.TypeExpr.Calls.inProgress {dir : Option FilePath} {type : TypeExpr}
    (hc : type.Calls names dir t c) (h : ∀ c, type.Calls names dir t c → c.KeepsProgress names) :
    c.table.inProgress = t.inProgress := by
  induction hc with
  | named => rfl
  | qualified => rfl
  | pointer _ ih => exact ih fun c hc => h c (.pointer hc)
  | slice _ ih => exact ih fun c hc => h c (.slice hc)
  | array _ ih => exact ih fun c hc => h c (.array hc)
  | map _ ih => exact ih fun c hc => h c (.map hc)
  | base _ ih => exact ih fun c hc => h c (.base hc)
  | argument _ ih => exact ih fun c hc => h c (.argument hc)
  | field hd _ ih =>
    have hbefore := inProgress_ofFields_before fun before d after c heq hc =>
      h c (.field (hd.trans heq) hc)
    exact (ih fun c hc => h c (.field hd hc)).trans hbefore

theorem Model.Calls.inProgress {m : Model} (hc : m.Calls names t c)
    (h : ∀ c, m.Calls names t c → c.KeepsProgress names) : c.table.inProgress = t.inProgress := by
  cases hc with
  | field hk hc =>
    have hbefore := inProgress_ofFields_before fun before d after c heq hc =>
      h c (.field (hk.trans (congrArg _ heq)) hc)
    exact (hc.inProgress fun c hc => h c (.field hk hc)).trans hbefore
  | synonym hk hq hc => exact hc.inProgress fun c hc => h c (.synonym hk hq hc)

end

end RouteDoc
