import Mathlib.Data.List.Dedup
import Mathlib.Data.List.Nodup
import RouteDoc.Endpoint.Describe
import RouteDoc.Proofs.Document.Building
import RouteDoc.Proofs.Last

/-! The operations of a document. A slot is a path with a method. A document has exactly one operation
for each slot of the endpoints added, made from the last endpoint of that slot, so endpoints of
different slots may be added in any order. -/
namespace RouteDoc

/-- The operation in a slot. -/
def operationAt? (paths : KeyMap PathItem) (slot : String × Method) : Option Operation :=
  (paths.get? slot.1).bind (·.slot slot.2)

theorem operationAt?_insert (paths : KeyMap PathItem) (op : Operation)
    (slot slot' : String × Method) :
    operationAt?
        (paths.insert slot.1 (((paths.get? slot.1).getD {}).setSlot op slot.2)) slot' =
      if slot' = slot then some op else operationAt? paths slot' := by
  have hempty : ({} : PathItem).slot slot'.2 = none := by cases slot'.2 <;> rfl
  have hupdate := KeyMap.bind_get?_update (·.slot slot'.2) hempty
    (fun item => item.slot_setSlot op slot.2 slot'.2) paths slot.1 slot'.1
  exact hupdate.trans (if_congr Prod.ext_iff.symm rfl rfl)

namespace Draft

theorem operationAt?_addEndpoint (d : Draft) (e : Endpoint) (slot : String × Method) :
    operationAt? (d.addEndpoint e).paths slot =
      if slot = e.slot then some e.toOperation else operationAt? d.paths slot :=
  operationAt?_insert d.paths e.toOperation e.slot slot

/-- Of the endpoints with one slot the last counts. -/
theorem operationAt?_addEndpoints (d : Draft) (es : List Endpoint) (slot : String × Method) :
    operationAt? (es.foldl addEndpoint d).paths slot =
      ((es.reverse.find? fun e => e.slot = slot).map Endpoint.toOperation).or
        (operationAt? d.paths slot) :=
  look_foldl_of_key (fun d : Draft => operationAt? d.paths slot)
    (fun d e => d.operationAt?_addEndpoint e slot) es d

end Draft

theorem Document.mem_operations_iff (d : Document) (path : String) (m : Method) (op : Operation) :
    (path, m, op) ∈ d.operations ↔ operationAt? d.paths (path, m) = some op := by
  unfold operations operationAt?
  rw [List.mem_flatMap, Option.bind_eq_some_iff]
  constructor
  · rintro ⟨⟨path', item⟩, hitem, hop⟩
    obtain ⟨⟨m', op'⟩, hop, heq⟩ := List.mem_map.mp hop
    cases heq
    refine ⟨item, (d.paths.mem_entries_iff path item).mp hitem, ?_⟩
    exact PathItem.slot_eq_some_iff.mpr (PathItem.mem_operations_iff.mp hop)
  · rintro ⟨item, hitem, hop⟩
    refine ⟨(path, item), (d.paths.mem_entries_iff path item).mpr hitem, ?_⟩
    refine List.mem_map.mpr ⟨(m, op), ?_, rfl⟩
    exact PathItem.mem_operations_iff.mpr (PathItem.slot_eq_some_iff.mp hop)

/-- The operation that a document has for a method on a path. -/
def Document.Has (doc : Document) (path : String) (m : Method) (op : Operation) : Prop :=
  ∃ item, doc.paths.get? path = some item ∧ item.Has m op

theorem Document.has_iff {doc : Document} {path : String} {m : Method} {op : Operation} :
    doc.Has path m op ↔ operationAt? doc.paths (path, m) = some op := by
  unfold Has operationAt?
  rw [Option.bind_eq_some_iff]
  simp only [PathItem.slot_eq_some_iff]

/-- An endpoint stands in a list, and none with the same slot after it. -/
def Endpoint.IsLast (es : List Endpoint) (e : Endpoint) : Prop := IsLastBy Endpoint.slot es e

theorem PathItem.nodup_methods_operations (item : PathItem) :
    (item.operations.map Prod.fst).Nodup := by
  have hmethods : item.operations.map Prod.fst =
      Method.all.filter fun m => (item.slot m).isSome := by
    unfold operations
    rw [List.map_filterMap, ← List.filterMap_eq_filter]
    refine List.filterMap_congr fun m _ => ?_
    cases h : item.slot m <;> simp [Option.guard, h]
  rw [hmethods]
  exact List.Nodup.filter _ (by decide)

/-- No two operations of a document share their path and method. -/
theorem Document.nodup_slots_operations (doc : Document) :
    (doc.operations.map fun o => (o.1, o.2.1)).Nodup := by
  unfold operations
  rw [List.map_flatMap, List.nodup_flatMap]
  constructor
  · intro entry _
    have hslots : (entry.2.operations.map fun o => (entry.1, o.1, o.2)).map
        (fun o => (o.1, o.2.1)) = (entry.2.operations.map Prod.fst).map fun m => (entry.1, m) := by
      simp
    exact hslots ▸ entry.2.nodup_methods_operations.map fun m m' heq => congrArg Prod.snd heq
  · refine List.Pairwise.imp ?_ doc.paths.sorted
    intro a b hlt
    -- operations on different paths have different slots
    refine List.disjoint_left.mpr fun slot ha hb => ?_
    simp only [List.map_map, List.mem_map, Function.comp] at ha hb
    obtain ⟨o, -, rfl⟩ := ha
    obtain ⟨o', -, heq⟩ := hb
    exact String.ne_of_lt hlt (congrArg Prod.fst heq).symm

theorem PathItem.setSlot_comm (item : PathItem) (op op' : Operation) {m m' : Method} (h : m ≠ m') :
    (item.setSlot op m).setSlot op' m' = (item.setSlot op' m').setSlot op m := by
  cases m <;> cases m' <;> first | rfl | exact absurd rfl h

namespace Draft

theorem paths_addEndpoints (d : Draft) (es : List Endpoint) :
    (es.foldl addEndpoint d).paths = es.foldl addOperation d.paths := by
  induction es generalizing d with
  | nil => rfl
  | cons e es ih => exact ih (d.addEndpoint e)

theorem addOperation_comm (paths : KeyMap PathItem) {e e' : Endpoint}
    (hne : e.slot ≠ e'.slot) :
    addOperation (addOperation paths e) e' = addOperation (addOperation paths e') e := by
  refine KeyMap.ext_get? fun path => ?_
  unfold addOperation
  simp only [KeyMap.get?_insert]
  by_cases hpath : e.slot.1 = e'.slot.1
  · have hm : e.slot.2 ≠ e'.slot.2 := fun hm => hne (Prod.ext hpath hm)
    simp only [hpath, if_true, Option.getD_some, PathItem.setSlot_comm _ _ _ hm]
    split_ifs <;> rfl
  · simp only [hpath, Ne.symm hpath, if_false]
    split_ifs with h' h
    · exact absurd (h.symm.trans h') hpath
    · rfl
    · rfl
    · rfl

/-- The draft of some endpoints. -/
def ofEndpoints (es : List Endpoint) : Draft := es.foldl addEndpoint start

theorem operationAt?_ofEndpoints (es : List Endpoint) (slot : String × Method) :
    operationAt? (ofEndpoints es).paths slot =
      (es.reverse.find? fun e => e.slot = slot).map Endpoint.toOperation :=
  (operationAt?_addEndpoints start es slot).trans Option.or_none

theorem exists_operationAt?_iff (es : List Endpoint) (slot : String × Method) :
    (∃ op, operationAt? (ofEndpoints es).paths slot = some op) ↔ slot ∈ es.map Endpoint.slot := by
  rw [operationAt?_ofEndpoints, ← Option.isSome_iff_exists]
  simp

/-- The slots of the operations are those of the endpoints, each once. -/
theorem operationCount_finish (es : List Endpoint) (t : SchemaTable) :
    ((ofEndpoints es).finish t).operationCount = (es.map Endpoint.slot).dedup.length := by
  have hmem := ((ofEndpoints es).finish t).mem_operations_iff
  have hperm : (((ofEndpoints es).finish t).operations.map fun o => (o.1, o.2.1)).Perm
      (es.map Endpoint.slot).dedup := by
    refine (List.perm_ext_iff_of_nodup (Document.nodup_slots_operations _)
      (List.nodup_dedup _)).mpr ?_
    rintro ⟨path, m⟩
    rw [List.mem_dedup, ← exists_operationAt?_iff, List.mem_map]
    constructor
    · rintro ⟨⟨path', m', op⟩, ho, heq⟩
      cases heq
      exact ⟨op, (hmem _ _ op).mp ho⟩
    · rintro ⟨op, ho⟩
      exact ⟨(path, m, op), (hmem path m op).mpr ho, rfl⟩
  rw [Document.operationCount, ← hperm.length_eq, List.length_map]

theorem paths_ofEndpoints_swap (before after : List Endpoint) {e e' : Endpoint}
    (hne : e.slot ≠ e'.slot) :
    (ofEndpoints (before ++ e' :: e :: after)).paths =
      (ofEndpoints (before ++ e :: e' :: after)).paths := by
  unfold ofEndpoints
  rw [paths_addEndpoints, paths_addEndpoints, List.foldl_append, List.foldl_append]
  simp only [List.foldl_cons, addOperation_comm _ hne]

/-- A document has an operation exactly for the slots of the endpoints added, and it is that of the last
endpoint of the slot. There are as many as there are different slots. Neighbours with different slots
may change places. -/
theorem operations_exact (es : List Endpoint) (t : SchemaTable) :
    (∀ path m op, ((ofEndpoints es).finish t).Has path m op ↔
      ∃ e : Endpoint, e.IsLast es ∧ Path.template e.path = path ∧ e.method = m ∧
        op = e.toOperation) ∧
    (∀ path m, (∃ op, ((ofEndpoints es).finish t).Has path m op) ↔
      ∃ e ∈ es, Path.template e.path = path ∧ e.method = m) ∧
    (∀ path m op, (path, m, op) ∈ ((ofEndpoints es).finish t).operations ↔
      ((ofEndpoints es).finish t).Has path m op) ∧
    ((ofEndpoints es).finish t).operationCount =
      (es.map fun e => (Path.template e.path, e.method)).dedup.length ∧
    ∀ before e e' after, es = before ++ e :: e' :: after →
      (Path.template e.path, e.method) ≠ (Path.template e'.path, e'.method) →
        ((ofEndpoints (before ++ e' :: e :: after)).finish t).paths =
          ((ofEndpoints es).finish t).paths := by
  refine ⟨?_, ?_, ?_, operationCount_finish es t, ?_⟩
  · intro path m op
    rw [Document.has_iff]
    change operationAt? (ofEndpoints es).paths (path, m) = some op ↔ _
    rw [operationAt?_ofEndpoints, Option.map_eq_some_iff]
    simp only [find?_reverse_eq_some_iff]
    constructor
    · rintro ⟨e, ⟨hslot, he⟩, hop⟩
      cases hslot
      exact ⟨e, he, rfl, rfl, hop.symm⟩
    · rintro ⟨e, he, rfl, rfl, hop⟩
      exact ⟨e, ⟨rfl, he⟩, hop.symm⟩
  · intro path m
    simp only [Document.has_iff]
    refine (exists_operationAt?_iff es (path, m)).trans ?_
    rw [List.mem_map]
    simp only [Endpoint.slot, Prod.mk.injEq]
  · intro path m op
    rw [Document.has_iff]
    exact Document.mem_operations_iff _ path m op
  · rintro before e e' after rfl hne
    exact paths_ofEndpoints_swap before after hne

end Draft

/-- An endpoint of whose handler nothing is known. -/
def orderEndpoint (m : Method) (handler : String) (middleware : List String) : Endpoint :=
  ((Context.mk {} {} ⟨"models", []⟩).describe
    ⟨"/orders/:id", m, handler, "ms_orders", middleware⟩ {}).1

/-- The second endpoint for a slot replaces the first, also when they are not neighbours. -/
theorem Draft.operations_exact_orders :
    ((ofEndpoints [orderEndpoint .get "GetOrder" [], orderEndpoint .put "PutOrder" [],
        orderEndpoint .get "ReadOrder" []]).finish {}).Has "/orders/{id}" .get
      (orderEndpoint .get "ReadOrder" []).toOperation ∧
    ((ofEndpoints [orderEndpoint .put "PutOrder" [], orderEndpoint .get "GetOrder" [],
        orderEndpoint .get "ReadOrder" []]).finish {}).paths =
      ((ofEndpoints [orderEndpoint .get "GetOrder" [], orderEndpoint .put "PutOrder" [],
        orderEndpoint .get "ReadOrder" []]).finish {}).paths := by
  obtain ⟨hhas, -, -, -, hswap⟩ := operations_exact
    [orderEndpoint .get "GetOrder" [], orderEndpoint .put "PutOrder" [],
      orderEndpoint .get "ReadOrder" []] {}
  refine ⟨?_, hswap [] _ _ _ rfl (by decide +kernel)⟩
  have htemplate : Path.template "/orders/:id" = "/orders/{id}" := by decide +kernel
  refine (hhas _ _ _).mpr ⟨_, ⟨[_, _], [], rfl, by simp⟩, htemplate, rfl, rfl⟩

end RouteDoc
