import RouteDoc.Project
import RouteDoc.Proofs.Document.Operations

/-! The inventory and the document of a project. Both come from the routes found, which the one
sorts and the other describes file by file. -/
namespace RouteDoc

theorem flatMap_filter {α β : Type} (q : α → Bool) (f : α → List β) (l : List α) :
    (l.filter q).flatMap f = l.flatMap fun a => if q a then f a else [] := by
  induction l with
  | nil => rfl
  | cons a l ih =>
    rw [List.filter_cons, List.flatMap_cons, ← ih]
    cases q a <;> rfl

/-- Where the operation of a route belongs. -/
def Route.slot (r : Route) : String × Method := (r.template, r.method)

/-- Whatever is known of its handler, a route is described in its own slot. -/
theorem Context.slot_describe (ctx : Context) (r : Route) (t : SchemaTable) :
    (ctx.describe r t).1.slot = r.slot := rfl

theorem Context.map_slot_describeAll (ctx : Context) (routes : List Route) (t : SchemaTable) :
    (ctx.describeAll routes t).1.map Endpoint.slot = routes.map Route.slot := by
  induction routes generalizing t with
  | nil => rfl
  | cons r routes ih =>
    change (ctx.describe r t).1.slot ::
      (ctx.describeAll routes (ctx.describe r t).2).1.map Endpoint.slot = _
    rw [ctx.slot_describe, ih, List.map_cons]

namespace Project
variable (p : Project)

/-- Some endpoints are added one by one, and their slots are those of the routes in the files. -/
theorem exists_endpoints_addFiles (layers : Layers) (models : ModelIndex)
    (files : List (Disk.FilePath × List Route)) (s : Draft × SchemaTable) :
    ∃ es : List Endpoint,
      (files.foldl (p.addFile layers models) s).1 = es.foldl Draft.addEndpoint s.1 ∧
      es.map Endpoint.slot = (files.flatMap (·.2)).map Route.slot := by
  induction files generalizing s with
  | nil => exact ⟨[], rfl, rfl⟩
  | cons file files ih =>
    obtain ⟨es, hadd, hslots⟩ := ih (p.addFile layers models s file)
    have hfile := (p.contextOf layers models file.1).map_slot_describeAll file.2 s.2
    refine ⟨((p.contextOf layers models file.1).describeAll file.2 s.2).1 ++ es, ?_, ?_⟩
    · rw [List.foldl_cons, hadd, List.foldl_append]
      rfl
    · rw [List.map_append, hfile, hslots, List.flatMap_cons, List.map_append]

theorem exists_endpoints_document (o : Options) :
    ∃ es : List Endpoint, (p.document o).paths = (es.foldl Draft.addEndpoint (p.draft o)).paths ∧
      es.map Endpoint.slot = (p.scanned o.filters).map Route.slot := by
  obtain ⟨es, hadd, hslots⟩ :=
    p.exists_endpoints_addFiles p.layers p.models (p.foundRoutes o.filters) (p.draft o, {})
  refine ⟨es, ?_, hslots⟩
  rw [← hadd]
  exact Draft.paths_addPermissions _ _ _

theorem mem_inventory_iff (filters : List String) (r : Route) :
    r ∈ p.inventory filters ↔ r ∈ p.scanned filters :=
  (List.mergeSort_perm _ _).mem_iff

/-- Whatever the parser makes of the files, the document has an operation for a method on a path exactly
if the inventory has a route for them. -/
theorem exists_operation_iff_exists_route (o : Options) (path : String) (m : Method) :
    (∃ op, (path, m, op) ∈ (p.document o).operations) ↔
      ∃ r ∈ p.inventory o.filters, r.template = path ∧ r.method = m := by
  obtain ⟨es, hpaths, hslots⟩ := p.exists_endpoints_document o
  have hlast : operationAt? (p.document o).paths (path, m) =
      (es.reverse.find? fun e => e.slot = (path, m)).map Endpoint.toOperation := by
    rw [hpaths, Draft.operationAt?_addEndpoints]
    exact Option.or_none
  calc (∃ op, (path, m, op) ∈ (p.document o).operations)
      ↔ ∃ op, operationAt? (p.document o).paths (path, m) = some op :=
        exists_congr fun op => (p.document o).mem_operations_iff path m op
    _ ↔ (path, m) ∈ es.map Endpoint.slot := by
        rw [hlast, ← Option.isSome_iff_exists]
        simp
    _ ↔ ∃ r ∈ p.inventory o.filters, r.template = path ∧ r.method = m := by
        rw [hslots, List.mem_map]
        simp only [mem_inventory_iff, Route.slot, Prod.mk.injEq]

end Project

end RouteDoc
