import RouteDoc.Document.Draft
import RouteDoc.Proofs.KeyMap

/-! Drafts step by step. Every operation of a draft was made from an endpoint that was added. -/
namespace RouteDoc

namespace PathItem

/-- The operation in the slot of a method. -/
inductive Has (item : PathItem) : Method → Operation → Prop where
  | get {op : Operation} (h : item.get = some op) : Has item .get op
  | post {op : Operation} (h : item.post = some op) : Has item .post op
  | put {op : Operation} (h : item.put = some op) : Has item .put op
  | delete {op : Operation} (h : item.delete = some op) : Has item .delete op
  | patch {op : Operation} (h : item.patch = some op) : Has item .patch op
  | options {op : Operation} (h : item.options = some op) : Has item .options op
  | head {op : Operation} (h : item.head = some op) : Has item .head op

variable {item : PathItem} {m : Method} {op : Operation}

theorem slot_eq_some_iff : item.slot m = some op ↔ item.Has m op := by
  constructor
  · intro h
    cases m with
    | get => exact .get h
    | post => exact .post h
    | put => exact .put h
    | delete => exact .delete h
    | patch => exact .patch h
    | options => exact .options h
    | head => exact .head h
  · intro h
    cases h <;> assumption

theorem mem_operations_iff : (m, op) ∈ item.operations ↔ item.Has m op := by
  have hall : m ∈ Method.all := by cases m <;> decide
  rw [← slot_eq_some_iff]
  unfold operations
  rw [List.mem_filterMap]
  constructor
  · rintro ⟨m', -, h⟩
    obtain ⟨op', hs, heq⟩ := Option.map_eq_some_iff.mp h
    cases heq
    exact hs
  · intro h
    exact ⟨m, hall, by rw [h]; rfl⟩

theorem slot_setSlot (item : PathItem) (op : Operation) (m m' : Method) :
    (item.setSlot op m).slot m' = if m' = m then some op else item.slot m' := by
  cases m <;> cases m' <;> rfl

end PathItem

/-- An operation stands on some path. -/
def Operation.OccursIn (op : Operation) (paths : KeyMap PathItem) : Prop :=
  ∃ path item m, (path, item) ∈ paths.entries ∧ PathItem.Has item m op

namespace Draft

inductive Step where
  | info (info : Info)
  | servers (servers : List String)
  | endpoint (e : Endpoint)
  | permissions (authorizationUrl tokenUrl : String)

def step (d : Draft) : Step → Draft
  | .info info => { d with info }
  | .servers servers => { d with servers }
  | .endpoint e => d.addEndpoint e
  | .permissions authorizationUrl tokenUrl => d.addPermissions authorizationUrl tokenUrl

/-- A draft made from nothing. -/
def build (steps : List Step) : Draft := steps.foldl step start

theorem paths_addPermissions (d : Draft) (authorizationUrl tokenUrl : String) :
    (d.addPermissions authorizationUrl tokenUrl).paths = d.paths := by
  unfold addPermissions
  split_ifs <;> rfl

theorem occursIn_addEndpoint {d : Draft} {e : Endpoint} {op : Operation}
    (h : op.OccursIn (d.addEndpoint e).paths) : op = e.toOperation ∨ op.OccursIn d.paths := by
  obtain ⟨path, item, m, hmem, hop⟩ := h
  rcases KeyMap.mem_of_mem_insert hmem with heq | hmem
  · cases heq
    rw [← PathItem.slot_eq_some_iff, PathItem.slot_setSlot] at hop
    split_ifs at hop with hm
    · cases hop
      exact .inl rfl
    · -- the other slots are those of the item that was on the path, if there was one
      cases hitem : d.paths.get? e.slot.1 with
      | none =>
        rw [hitem] at hop
        cases m <;> cases hop
      | some item =>
        rw [hitem] at hop
        exact .inr ⟨_, item, m, mem_of_lookup hitem, PathItem.slot_eq_some_iff.mp hop⟩
  · exact .inr ⟨path, item, m, hmem, hop⟩

theorem occursIn_step {d : Draft} {s : Step} {op : Operation}
    (h : op.OccursIn (d.step s).paths) :
    op.OccursIn d.paths ∨ ∃ e, s = .endpoint e ∧ op = e.toOperation := by
  cases s with
  | info info => exact .inl h
  | servers servers => exact .inl h
  | endpoint e =>
    rcases occursIn_addEndpoint h with hop | h
    · exact .inr ⟨e, rfl, hop⟩
    · exact .inl h
  | permissions authorizationUrl tokenUrl =>
    rw [step, paths_addPermissions] at h
    exact .inl h

theorem exists_endpoint_of_occursIn_build {steps : List Step} {op : Operation}
    (h : op.OccursIn (build steps).paths) : ∃ e, .endpoint e ∈ steps ∧ op = e.toOperation := by
  have hrun : ∀ d : Draft, op.OccursIn (steps.foldl step d).paths →
      op.OccursIn d.paths ∨ ∃ e, .endpoint e ∈ steps ∧ op = e.toOperation := by
    clear h
    induction steps with
    | nil => exact fun d h => .inl h
    | cons s rest ih =>
      intro d h
      rcases ih (d.step s) h with h | ⟨e, he, hop⟩
      · rcases occursIn_step h with h | ⟨e, rfl, hop⟩
        · exact .inl h
        · exact .inr ⟨e, List.mem_cons_self, hop⟩
      · exact .inr ⟨e, List.mem_cons_of_mem _ he, hop⟩
  rcases hrun start h with ⟨path, item, m, hmem, -⟩ | h
  · cases hmem
  · exact h

end Draft

end RouteDoc
