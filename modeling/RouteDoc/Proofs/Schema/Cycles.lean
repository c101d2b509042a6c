import Mathlib.Data.List.Dedup
import Mathlib.Data.List.Perm.Subperm
import RouteDoc.Proofs.Schema.Calls

/-! Recursion through models. Schemas are evaluated by rules that know no bound on the recursion:
every type has exactly one evaluation over every table, however the models lead back to each other,
and the names of the models that are being made inside each other all differ. -/
namespace RouteDoc
open Disk Go

namespace ModelIndex
variable {index : ModelIndex} {c : NameCall} {result : Schema × SchemaTable}

/-- A call begins the making of a model: its name is new, and the model is found for it. -/
structure Starts (index : ModelIndex) (c : NameCall) (m : Model) : Prop where
  new : ¬ c.table.Knows c.name
  notMissing : c.name ∉ c.table.missing
  found : index.find? c.package c.name c.dir = some m

/-- The rules for the answer to a call. A derivation is finite and holds all calls that are made on
the way to the answer. -/
inductive EvaluatesName (index : ModelIndex) : NameCall → Schema × SchemaTable → Prop where
  | known {c : NameCall} (h : c.table.Knows c.name) :
      EvaluatesName index c (.reference c.name, c.table)
  | missing {c : NameCall} (hnew : ¬ c.table.Knows c.name) (h : c.name ∈ c.table.missing) :
      EvaluatesName index c (.object, c.table)
  | undeclared {c : NameCall} (hnew : ¬ c.table.Knows c.name) (hmiss : c.name ∉ c.table.missing)
      (h : index.find? c.package c.name c.dir = none) :
      EvaluatesName index c (.object, c.table.addMissing c.name)
  | declared {c : NameCall} {m : Model} {names : NameSchema} (h : index.Starts c m)
      (hcalls : ∀ c', m.Calls names (c.table.start c.name) c' →
        EvaluatesName index c' (c'.answer names)) :
      EvaluatesName index c (.reference c.name,
        (Schema.ofModel names m (c.table.start c.name)).2.complete c.name
          (Schema.ofModel names m (c.table.start c.name)).1)

theorem EvaluatesName.inProgress (h : index.EvaluatesName c result) :
    result.2.inProgress = c.table.inProgress := by
  induction h with
  | known h => rfl
  | missing hnew h => rfl
  | undeclared hnew hmiss h => rfl
  | @declared c m names h hcalls ih =>
    have hmodel : (Schema.ofModel names m (c.table.start c.name)).2.inProgress =
        c.name :: c.table.inProgress := Schema.ofModel_inProgress ih
    simp [SchemaTable.complete, hmodel]

/-- Calls inside the making of a model have fewer models left to start. -/
theorem Starts.unstarted_lt {m : Model} {names : NameSchema} {c' : NameCall} (h : index.Starts c m)
    (hc : m.Calls names (c.table.start c.name) c')
    (hkeep : ∀ c', m.Calls names (c.table.start c.name) c' → c'.KeepsProgress names) :
    index.unstarted c'.table < index.unstarted c.table := by
  rw [unstarted_congr (hc.inProgress hkeep)]
  exact unstarted_start_lt (mem_named_of_find? h.found) fun hmem => h.new (.inr hmem)

/-! The function with fuel by the same four cases. -/

section
variable {fuel : Nat}

private theorem known_iff :
    (c.table.contains c.name || c.table.inProgress.contains c.name) = true ↔
      c.table.Knows c.name := by
  simp [SchemaTable.Knows]

theorem answer_of_knows (h : c.table.Knows c.name) :
    c.answer (Schema.ofName index (fuel + 1)) = (.reference c.name, c.table) := by
  simp only [NameCall.answer, Schema.ofName]
  rw [if_pos (known_iff.mpr h)]

theorem answer_of_missing (hnew : ¬ c.table.Knows c.name) (h : c.name ∈ c.table.missing) :
    c.answer (Schema.ofName index (fuel + 1)) = (.object, c.table) := by
  simp only [NameCall.answer, Schema.ofName]
  rw [if_neg (mt known_iff.mp hnew),
    if_pos (List.contains_iff_mem.mpr h)]

theorem answer_of_undeclared (hnew : ¬ c.table.Knows c.name) (hmiss : c.name ∉ c.table.missing)
    (h : index.find? c.package c.name c.dir = none) :
    c.answer (Schema.ofName index (fuel + 1)) = (.object, c.table.addMissing c.name) := by
  simp only [NameCall.answer, Schema.ofName]
  rw [if_neg (mt known_iff.mp hnew),
    if_neg (mt List.contains_iff_mem.mp hmiss), h]

theorem Starts.answer_eq {m : Model} (h : index.Starts c m) :
    c.answer (Schema.ofName index (fuel + 1)) =
      (.reference c.name,
        (Schema.ofModel (Schema.ofName index fuel) m (c.table.start c.name)).2.complete c.name
          (Schema.ofModel (Schema.ofName index fuel) m (c.table.start c.name)).1) := by
  simp only [NameCall.answer, Schema.ofName]
  rw [if_neg (mt known_iff.mp h.new),
    if_neg (mt List.contains_iff_mem.mp h.notMissing), h.found]

end

/-- What a call can meet. -/
theorem call_cases (index : ModelIndex) (c : NameCall) :
    c.table.Knows c.name ∨
      (¬ c.table.Knows c.name ∧ c.name ∈ c.table.missing) ∨
      (¬ c.table.Knows c.name ∧ c.name ∉ c.table.missing ∧
        index.find? c.package c.name c.dir = none) ∨
      ∃ m, index.Starts c m := by
  by_cases hknown : c.table.Knows c.name
  · exact .inl hknown
  by_cases hmiss : c.name ∈ c.table.missing
  · exact .inr (.inl ⟨hknown, hmiss⟩)
  cases hf : index.find? c.package c.name c.dir with
  | none => exact .inr (.inr (.inl ⟨hknown, hmiss, rfl⟩))
  | some m => exact .inr (.inr (.inr ⟨m, hknown, hmiss, hf⟩))

/-- With any fuel, what is in progress after a call was in progress before. -/
theorem keepsProgress_ofName (index : ModelIndex) (fuel : Nat) (c : NameCall) :
    c.KeepsProgress (Schema.ofName index fuel) := by
  induction fuel generalizing c with
  | zero => rfl
  | succ fuel ih =>
    unfold NameCall.KeepsProgress
    rcases index.call_cases c with h | ⟨hnew, h⟩ | ⟨hnew, hmiss, h⟩ | ⟨m, h⟩
    · rw [answer_of_knows h]
    · rw [answer_of_missing hnew h]
    · rw [answer_of_undeclared hnew hmiss h]
      rfl
    · have hmodel : (Schema.ofModel (Schema.ofName index fuel) m
          (c.table.start c.name)).2.inProgress = c.name :: c.table.inProgress :=
        Schema.ofModel_inProgress fun c' _ => ih c'
      rw [h.answer_eq]
      simp [SchemaTable.complete, hmodel]

/-- With more fuel than there are models left to start, the function finds an answer by the rules. -/
theorem evaluatesName_ofName {fuel : Nat} (hfuel : index.unstarted c.table < fuel) :
    index.EvaluatesName c (c.answer (Schema.ofName index fuel)) := by
  induction fuel generalizing c with
  | zero => exact absurd hfuel (Nat.not_lt_zero _)
  | succ fuel ih =>
    rcases index.call_cases c with h | ⟨hnew, h⟩ | ⟨hnew, hmiss, h⟩ | ⟨m, h⟩
    · rw [answer_of_knows h]
      exact .known h
    · rw [answer_of_missing hnew h]
      exact .missing hnew h
    · rw [answer_of_undeclared hnew hmiss h]
      exact .undeclared hnew hmiss h
    · rw [h.answer_eq]
      refine .declared h fun c' hc' => ih ?_
      have hlt := h.unstarted_lt hc' fun c _ => index.keepsProgress_ofName fuel c
      omega

/-- There is no other answer by the rules. -/
theorem EvaluatesName.eq_ofName (h : index.EvaluatesName c result) {fuel : Nat}
    (hfuel : index.unstarted c.table < fuel) : result = c.answer (Schema.ofName index fuel) := by
  induction h generalizing fuel with
  | known h =>
    obtain ⟨k, rfl⟩ := Nat.exists_eq_add_of_lt hfuel
    exact (answer_of_knows h).symm
  | missing hnew h =>
    obtain ⟨k, rfl⟩ := Nat.exists_eq_add_of_lt hfuel
    exact (answer_of_missing hnew h).symm
  | undeclared hnew hmiss h =>
    obtain ⟨k, rfl⟩ := Nat.exists_eq_add_of_lt hfuel
    exact (answer_of_undeclared hnew hmiss h).symm
  | @declared c m names h hcalls ih =>
    obtain ⟨k, rfl⟩ := Nat.exists_eq_add_of_lt hfuel
    -- the calls inside have a model less to start, so they agree with a unit of fuel less
    have hmodel : Schema.ofModel names m (c.table.start c.name) =
        Schema.ofModel (Schema.ofName index (index.unstarted c.table + k)) m
          (c.table.start c.name) := by
      refine Schema.ofModel_congr fun c' hc' => ih c' hc' ?_
      have hlt := h.unstarted_lt hc' fun c hc => (hcalls c hc).inProgress
      omega
    rw [h.answer_eq, hmodel]

/-- The rules for types: all names that are called are answered by the rules. -/
def Evaluates (index : ModelIndex) (type : TypeExpr) (dir : Option FilePath) (t : SchemaTable)
    (result : Schema × SchemaTable) : Prop :=
  ∃ names : NameSchema,
    (∀ c, type.Calls names dir t c → index.EvaluatesName c (c.answer names)) ∧
      result = Schema.ofType names dir false type t

theorem evaluatesName_ofName_size (index : ModelIndex) (c : NameCall) :
    index.EvaluatesName c (c.answer (Schema.ofName index (index.size + 1))) :=
  evaluatesName_ofName (Nat.lt_succ_of_le (index.unstarted_le_size c.table))

theorem evaluates_iff {type : TypeExpr} {dir : Option FilePath} {t : SchemaTable} :
    index.Evaluates type dir t result ↔ result = index.schemaOf type dir t := by
  constructor
  · rintro ⟨names, hcalls, rfl⟩
    refine Schema.ofType_congr (fun c hc => (hcalls c hc).eq_ofName ?_) false
    exact Nat.lt_succ_of_le (index.unstarted_le_size c.table)
  · rintro rfl
    exact ⟨_, fun c _ => index.evaluatesName_ofName_size c, rfl⟩

/-- The calls whose models are being made inside each other at some moment while the schema of a type
is made, the innermost first. -/
inductive Nested (index : ModelIndex) (type : TypeExpr) (dir : Option FilePath) (t : SchemaTable) :
    List NameCall → Prop where
  | none : Nested index type dir t []
  | outer {names : NameSchema} {c : NameCall} {m : Model}
      (hcalls : ∀ c, type.Calls names dir t c → index.EvaluatesName c (c.answer names))
      (hc : type.Calls names dir t c) (hm : index.Starts c m) : Nested index type dir t [c]
  | inner {names : NameSchema} {c c' : NameCall} {m m' : Model} {rest : List NameCall}
      (h : Nested index type dir t (c :: rest)) (hm : index.Starts c m)
      (hcalls : ∀ c', m.Calls names (c.table.start c.name) c' →
        index.EvaluatesName c' (c'.answer names))
      (hc : m.Calls names (c.table.start c.name) c') (hm' : index.Starts c' m') :
      Nested index type dir t (c' :: c :: rest)

namespace Nested
variable {type : TypeExpr} {dir : Option FilePath} {t : SchemaTable} {stack rest : List NameCall}

/-- The innermost call finds the names of all calls around it in progress. -/
theorem inProgress (h : index.Nested type dir t (c :: rest)) :
    c.table.inProgress = rest.map NameCall.name ++ t.inProgress := by
  generalize hstack : c :: rest = stack at h
  induction h generalizing c rest with
  | none => cases hstack
  | outer hcalls hc hm =>
    cases hstack
    exact hc.inProgress fun c hc => (hcalls c hc).inProgress
  | inner h hm hcalls hc hm' ih =>
    cases hstack
    have hinner := hc.inProgress fun c hc => (hcalls c hc).inProgress
    rw [hinner, List.map_cons, List.cons_append, ← ih rfl]
    rfl

theorem starts (h : index.Nested type dir t (c :: rest)) : ∃ m, index.Starts c m := by
  cases h with
  | outer hcalls hc hm => exact ⟨_, hm⟩
  | inner h hm hcalls hc hm' => exact ⟨_, hm'⟩

theorem tail (h : index.Nested type dir t (c :: rest)) : index.Nested type dir t rest := by
  cases h with
  | outer hcalls hc hm => exact .none
  | inner h hm hcalls hc hm' => exact h

/-- The name of the innermost call differs from those of the calls around it and from the names that
were in progress from the start. -/
theorem name_notMem (h : index.Nested type dir t (c :: rest)) :
    c.name ∉ rest.map NameCall.name ∧ c.name ∉ t.inProgress := by
  obtain ⟨m, hm⟩ := h.starts
  have hnew : c.name ∉ c.table.inProgress := fun hmem => hm.new (.inr hmem)
  rwa [h.inProgress, List.mem_append, not_or] at hnew

theorem nodup (h : index.Nested type dir t stack) : (stack.map NameCall.name).Nodup := by
  induction stack with
  | nil => exact List.nodup_nil
  | cons c rest ih => exact List.nodup_cons.mpr ⟨h.name_notMem.1, ih h.tail⟩

theorem declared (h : index.Nested type dir t stack) (hc : c ∈ stack) :
    c.name ∈ index.models.map Model.name ∧ c.name ∉ t.inProgress := by
  induction stack with
  | nil => cases hc
  | cons c' rest ih =>
    rcases List.mem_cons.mp hc with rfl | hc
    · obtain ⟨m, hm⟩ := h.starts
      obtain ⟨hmem, hname⟩ := mem_named.mp (mem_named_of_find? hm.found)
      exact ⟨List.mem_map.mpr ⟨m, hmem, hname⟩, h.name_notMem.2⟩
    · exact ih h.tail hc

theorem length_le (h : index.Nested type dir t stack) :
    stack.length ≤ (index.models.map Model.name).dedup.length := by
  have hsub : stack.map NameCall.name ⊆ (index.models.map Model.name).dedup := by
    intro name hname
    obtain ⟨c, hc, rfl⟩ := List.mem_map.mp hname
    exact List.mem_dedup.mpr (h.declared hc).1
  have hle := (h.nodup.subperm hsub).length_le
  rwa [List.length_map] at hle

end Nested

/-- However models lead to themselves, every type has exactly one evaluation over every table, and
that is its schema. The models that are made inside each other on the way have different names, none
of which was in progress, so that they are never more than the names of models. -/
theorem schemaOf_cycle_safe (index : ModelIndex) (type : TypeExpr) (dir : Option FilePath)
    (t : SchemaTable) :
    (∀ result, index.Evaluates type dir t result ↔ result = index.schemaOf type dir t) ∧
      ∀ stack, index.Nested type dir t stack →
        (stack.map NameCall.name).Nodup ∧
          (∀ c ∈ stack, c.name ∈ index.models.map Model.name ∧ c.name ∉ t.inProgress) ∧
          stack.length ≤ (index.models.map Model.name).dedup.length :=
  ⟨fun _ => evaluates_iff, fun _ h => ⟨h.nodup, fun _ hc => h.declared hc, h.length_le⟩⟩

namespace OrderCycle

/-! An order leads back to itself, at once by its parent and by its items through two synonyms. There
is an order in another package, too. -/

def order : Model :=
  ⟨"Order", "orders", "models/orders", none,
    .struct [⟨"items", .slice (.named "Item"), true, none⟩,
      ⟨"parent", .pointer (.named "Order"), false, none⟩]⟩

def item : Model :=
  ⟨"Item", "orders", "models/orders", none, .synonym (.pointer (.named "Line"))⟩

def line : Model := ⟨"Line", "orders", "models/orders", none, .synonym (.named "Order")⟩

def shop : ModelIndex :=
  ⟨"models", [order, item, line,
    ⟨"Order", "legacy", "models/legacy", none, .synonym (.named "Line")⟩]⟩

def orderCall : NameCall := ⟨none, "Order", none, {}⟩

def itemCall : NameCall := ⟨none, "Item", some "models/orders", orderCall.table.start "Order"⟩

def lineCall : NameCall := ⟨none, "Line", some "models/orders", itemCall.table.start "Item"⟩

/-- All names of models are in progress at once. -/
theorem schemaOf_cycle_safe_order :
    shop.Evaluates (.named "Order") none {} (shop.schemaOf (.named "Order") none {}) ∧
      shop.Nested (.named "Order") none {} [lineCall, itemCall, orderCall] ∧
      ([lineCall, itemCall, orderCall].map NameCall.name).Nodup ∧
      [lineCall, itemCall, orderCall].length =
        (shop.models.map Model.name).dedup.length := by
  obtain ⟨heval, hnames⟩ := schemaOf_cycle_safe shop (.named "Order") none {}
  have hdir : FilePath.same "models/orders" "models/orders" = true := beq_self_eq_true _
  have horder : shop.Starts orderCall order :=
    ⟨by decide, by decide, by simp [find?, named, shop, order, item, line, orderCall]⟩
  have hitem : shop.Starts itemCall item :=
    ⟨by decide, by decide, by simp [find?, named, shop, order, item, line, itemCall, hdir]⟩
  have hline : shop.Starts lineCall line :=
    ⟨by decide, by decide, by simp [find?, named, shop, order, item, line, lineCall, hdir]⟩
  have hcalls := shop.evaluatesName_ofName_size
  have houter : shop.Nested (.named "Order") none {} [orderCall] :=
    .outer (fun c _ => hcalls c) (.named (by decide)) horder
  have hinner : shop.Nested (.named "Order") none {} [itemCall, orderCall] :=
    .inner houter horder (fun c _ => hcalls c)
      (.field (show order.kind = .struct ([] ++ _ :: _) from rfl) (.slice (.named (by decide)))) hitem
  have hnested : shop.Nested (.named "Order") none {} [lineCall, itemCall, orderCall] :=
    .inner hinner hitem (fun c _ => hcalls c)
      (.synonym rfl (fun _ _ h => by cases h) (.pointer (.named (by decide)))) hline
  exact ⟨(heval _).mpr rfl, hnested, (hnames _ hnested).1, by decide⟩

end OrderCycle

end ModelIndex

end RouteDoc
