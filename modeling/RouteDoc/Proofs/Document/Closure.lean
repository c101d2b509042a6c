import RouteDoc.Proofs.Document.Building
import RouteDoc.Proofs.Requests

/-! References in documents. A finished document has a schema for every name that it refers to, and
beside those of the table no others. After any requests for endpoints the table alone has them all. -/
namespace RouteDoc
open Schema (refsSatisfy_properties refsSatisfy_errorObject)

/-- The schemas of the parameters, the body and the responses of an operation. -/
inductive Operation.Holds (op : Operation) : Schema → Prop where
  | parameter {p : Parameter} (h : p ∈ op.parameters) : Holds op p.schema
  | body {b : RequestBody} {type : String} {s : Schema} (hb : op.requestBody = some b)
      (hs : (type, s) ∈ b.content.entries) : Holds op s
  | response {status type : String} {r : Response} {content : Content} {s : Schema}
      (hr : (status, r) ∈ op.responses.entries) (hc : r.content = some content)
      (hs : (type, s) ∈ content.entries) : Holds op s

/-- The schemas of the operations on some paths, and those of a map. -/
inductive UsedSchema (paths : KeyMap PathItem) (schemas : KeyMap Schema) : Schema → Prop where
  | operation {op : Operation} {s : Schema} (hop : op.OccursIn paths) (hs : op.Holds s) :
      UsedSchema paths schemas s
  | entry {name : String} {s : Schema} (h : (name, s) ∈ schemas.entries) :
      UsedSchema paths schemas s

def Document.Holds (doc : Document) : Schema → Prop := UsedSchema doc.paths doc.schemas

theorem Operation.mem_schemas_iff {op : Operation} {s : Schema} : s ∈ op.schemas ↔ op.Holds s := by
  unfold Operation.schemas
  rw [List.mem_append, List.mem_append, List.mem_map, List.mem_flatMap]
  constructor
  · rintro ((⟨p, hp, rfl⟩ | hs) | ⟨r, hr, hs⟩)
    · exact .parameter hp
    · cases hb : op.requestBody with
      | none =>
        rw [hb] at hs
        cases hs
      | some b =>
        rw [hb] at hs
        obtain ⟨type, hs⟩ := KeyMap.mem_values_iff.mp hs
        exact .body hb hs
    · obtain ⟨status, hr⟩ := KeyMap.mem_values_iff.mp hr
      cases hc : r.content with
      | none =>
        rw [hc] at hs
        cases hs
      | some content =>
        rw [hc] at hs
        obtain ⟨type, hs⟩ := KeyMap.mem_values_iff.mp hs
        exact .response hr hc hs
  · intro h
    cases h with
    | parameter hp => exact .inl (.inl ⟨_, hp, rfl⟩)
    | body hb hs =>
      rw [hb]
      exact .inl (.inr (KeyMap.mem_values_iff.mpr ⟨_, hs⟩))
    | response hr hc hs =>
      refine .inr ⟨_, KeyMap.mem_values_iff.mpr ⟨_, hr⟩, ?_⟩
      rw [hc]
      exact KeyMap.mem_values_iff.mpr ⟨_, hs⟩

namespace Draft
variable {d : Draft} {t : SchemaTable}

/-- The collected names are those that an operation or an entry of the table mentions. -/
theorem mem_refs_iff {name : String} :
    name ∈ d.refs t ↔ ∃ s, UsedSchema d.paths t.toKeyMap s ∧ s.Mentions name := by
  unfold refs
  rw [List.mem_append, List.mem_flatMap, List.mem_flatMap]
  simp only [List.mem_flatMap, Operation.mem_schemas_iff, Schema.mem_refs_iff, KeyMap.mem_values_iff]
  constructor
  · rintro (⟨item, ⟨path, hpath⟩, ⟨m, op⟩, hop, s, hs, hn⟩ | ⟨s, ⟨k, hk⟩, hn⟩)
    · have hop := PathItem.mem_operations_iff.mp hop
      exact ⟨s, .operation ⟨path, item, m, hpath, hop⟩ hs, hn⟩
    · exact ⟨s, .entry hk, hn⟩
  · rintro ⟨s, hs, hn⟩
    cases hs with
    | operation hop hs =>
      obtain ⟨path, item, m, hpath, hop⟩ := hop
      exact .inl ⟨item, ⟨path, hpath⟩, (m, _), PathItem.mem_operations_iff.mpr hop, s, hs, hn⟩
    | entry hk => exact .inr ⟨s, ⟨_, hk⟩, hn⟩

theorem get?_schemas_finish (name : String) :
    (d.finish t).schemas.get? name =
      (t.get? name).or (if name ∈ d.refs t then some .object else none) :=
  KeyMap.get?_foldl_insertIfNew t.toKeyMap (d.refs t) .object name

theorem contains_schemas_finish {name : String} (h : name ∈ d.refs t) :
    (d.finish t).schemas.contains name = true := by
  unfold KeyMap.contains
  rw [get?_schemas_finish, if_pos h, Option.isSome_or]
  exact Bool.or_true _

/-- What a finished document holds was there before, or is the open object. -/
theorem holds_finish {s : Schema} (h : (d.finish t).Holds s) :
    UsedSchema d.paths t.toKeyMap s ∨ s = .object := by
  cases h with
  | operation hop hs => exact .inl (.operation hop hs)
  | entry hk => exact (KeyMap.mem_of_mem_foldl_insertIfNew hk).imp_left .entry

/-- Every name that a finished document refers to has a schema there. The schemas of the table are kept,
and the others are open objects for names that are referred to. -/
theorem finish_closed_minimal (d : Draft) (t : SchemaTable) :
    (∀ s name, (d.finish t).Holds s → s.Mentions name →
      (d.finish t).schemas.contains name = true) ∧
    ∀ name s, (d.finish t).schemas.get? name = some s ↔
      t.get? name = some s ∨
        t.get? name = none ∧ s = .object ∧
          ∃ s', UsedSchema (d.finish t).paths t.toKeyMap s' ∧ s'.Mentions name := by
  constructor
  · intro s name hs hn
    rcases holds_finish hs with hs | rfl
    · exact contains_schemas_finish (mem_refs_iff.mpr ⟨s, hs, hn⟩)
    · -- the open object refers to nothing
      have hnone : Schema.object.RefsSatisfy fun _ => False := Schema.refsSatisfy_object
      exact (hnone.of_mentions hn).elim
  · intro name s
    rw [get?_schemas_finish, Option.or_eq_some_iff]
    have hrefs : (if name ∈ d.refs t then some Schema.object else none) = some s ↔
        s = .object ∧ name ∈ d.refs t := by
      split_ifs with h
      · simp [h, eq_comm]
      · simp [h]
    rw [hrefs, mem_refs_iff]
    rfl

end Draft

theorem Schema.RefsSatisfy.wrapResponse {P : String → Prop} {s : Schema} (h : s.RefsSatisfy P)
    (status : String) : (wrapResponse s status).RefsSatisfy P := by
  unfold RouteDoc.wrapResponse
  split
  · exact h
  · exact h
  · refine refsSatisfy_properties.mpr ?_
    intro name p hp
    cases List.mem_singleton.mp hp
    exact h

theorem Reply.exists_schema_of_toResponse {r : Reply} {status type : String} {content : Content}
    {s : Schema} (hc : (r.toResponse status).content = some content)
    (hs : (type, s) ∈ content.entries) : ∃ s', r.schema = some s' ∧ s = wrapResponse s' status := by
  obtain ⟨description, contentType, schema⟩ := r
  cases contentType with
  | none => cases hc
  | some contentType =>
    cases schema with
    | none => cases hc
    | some schema =>
      cases hc
      cases List.mem_singleton.mp hs
      exact ⟨schema, rfl, rfl⟩

/-- An operation refers to nothing that its endpoint does not refer to. -/
theorem Endpoint.refsSatisfy_toOperation {P : String → Prop} {e : Endpoint}
    (h : ∀ s, e.Holds s → s.RefsSatisfy P) {s : Schema} (hs : e.toOperation.Holds s) :
    s.RefsSatisfy P := by
  cases hs with
  | parameter hparam =>
    obtain ⟨p, hp, rfl⟩ := List.mem_map.mp hparam
    exact h _ (.param hp)
  | body hbody hs =>
    obtain ⟨b, hb, rfl⟩ := Option.map_eq_some_iff.mp hbody
    cases List.mem_singleton.mp hs
    exact h _ (.body hb)
  | response hresponse hc hs =>
    rcases KeyMap.mem_of_mem_insertIfNew hresponse with heq | hdescribed
    · cases heq
      cases hc
      cases List.mem_singleton.mp hs
      exact refsSatisfy_errorObject
    · obtain ⟨⟨status, r⟩, hr, heq⟩ := List.mem_map.mp (KeyMap.mem_of_mem_ofList hdescribed)
      cases heq
      obtain ⟨s', hs', rfl⟩ := Reply.exists_schema_of_toResponse hc hs
      exact (h s' (.reply hr hs')).wrapResponse _

theorem Draft.schemas_finish_eq {d : Draft} {t : SchemaTable}
    (h : ∀ s, UsedSchema d.paths t.toKeyMap s → s.RefsSatisfy fun name => t.contains name = true) :
    (d.finish t).schemas = t.toKeyMap := by
  refine KeyMap.foldl_insertIfNew_eq_self ?_ Schema.object
  intro name hn
  obtain ⟨s, hs, hm⟩ := mem_refs_iff.mp hn
  exact (h s hs).of_mentions hm

/-- All schemas so far: in the table, answered, and in the endpoints. -/
inductive History.Holds (h : History) : Schema → Prop where
  | entry {name : String} {s : Schema} (hs : (name, s) ∈ h.table.entries) : Holds h s
  | answer {s : Schema} (hs : s ∈ h.schemas) : Holds h s
  | endpoint {e : Endpoint} {s : Schema} (he : e ∈ h.endpoints) (hs : e.Holds s) : Holds h s

theorem History.Closed.refsSatisfy {index : ModelIndex} {h : History} (hc : h.Closed index)
    {s : Schema} (hs : h.Holds s) : s.RefsSatisfy fun name => h.table.contains name = true := by
  cases hs with
  | entry hs =>
    exact hc.sound.refsSatisfy_entry hc.idle ((KeyMap.mem_entries_iff _ _ _).mp hs)
  | answer hs => exact hc.schemas _ hs
  | endpoint he hs => exact hc.endpoints _ he _ hs

/-- After any requests nothing is in progress, every reference met so far leads to an entry of the
table, and a document of the endpoints has the schemas of the table and no others. -/
theorem ModelIndex.serve_refs_closed (index : ModelIndex) (requests : List Request) :
    (index.serve requests).table.inProgress = [] ∧
    (∀ s, (index.serve requests).Holds s →
      s.RefsSatisfy fun name => (index.serve requests).table.contains name = true) ∧
    ∀ steps : List Draft.Step,
      (∀ e, .endpoint e ∈ steps → e ∈ (index.serve requests).endpoints) →
        ((Draft.build steps).finish (index.serve requests).table).schemas =
          (index.serve requests).table.toKeyMap := by
  have hclosed := index.serve_closed requests
  refine ⟨hclosed.idle, fun s hs => hclosed.refsSatisfy hs, ?_⟩
  intro steps hsteps
  refine Draft.schemas_finish_eq ?_
  intro s hs
  cases hs with
  | operation hop hs =>
    obtain ⟨e, he, rfl⟩ := Draft.exists_endpoint_of_occursIn_build hop
    refine Endpoint.refsSatisfy_toOperation ?_ hs
    intro s' hs'
    exact hclosed.refsSatisfy (.endpoint (hsteps e he) hs')
  | entry hk => exact hclosed.refsSatisfy (.entry hk)

end RouteDoc
