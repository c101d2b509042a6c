import RouteDoc.Proofs.Document.Operations
import RouteDoc.Proofs.Endpoint.Security

/-! Declarations that a document makes for its operations. The schemes and scopes that operations
require are declared, and the tags are those of the endpoints in the order of their first use. -/
namespace RouteDoc

/-- A scope that an endpoint requires. -/
def Endpoint.Needs (e : Endpoint) (scope : String) : Prop := ∃ r ∈ e.security, scope ∈ r.scopes

namespace Draft

theorem contains_addScopes (scopes : KeyMap String) (new : List String) (k : String) :
    (new.foldl addScope scopes).contains k = true ↔ k ∈ new ∨ scopes.contains k = true := by
  induction new generalizing scopes with
  | nil => simp
  | cons s new ih =>
    rw [List.foldl_cons, ih, addScope, KeyMap.contains_insert, List.mem_cons]
    tauto

theorem contains_scopes_addEndpoint (d : Draft) (e : Endpoint) (k : String) :
    (d.addEndpoint e).scopes.contains k = true ↔ e.Needs k ∨ d.scopes.contains k = true := by
  refine (contains_addScopes d.scopes _ k).trans ?_
  rw [List.mem_flatMap]
  rfl

theorem contains_scopes_addEndpoints (d : Draft) (es : List Endpoint) (k : String) :
    (es.foldl addEndpoint d).scopes.contains k = true ↔
      (∃ e ∈ es, e.Needs k) ∨ d.scopes.contains k = true := by
  induction es generalizing d with
  | nil => simp
  | cons e es ih =>
    rw [List.foldl_cons, ih, contains_scopes_addEndpoint, List.exists_mem_cons_iff, or_left_comm,
      or_assoc]

theorem contains_scopes_ofEndpoints (es : List Endpoint) (k : String) :
    (ofEndpoints es).scopes.contains k = true ↔ ∃ e ∈ es, e.Needs k := by
  refine (contains_scopes_addEndpoints start es k).trans (or_iff_left ?_)
  exact Bool.false_ne_true

theorem isEmpty_scopes_ofEndpoints (es : List Endpoint) :
    (ofEndpoints es).scopes.isEmpty = false ↔ ∃ e ∈ es, ∃ s, e.Needs s := by
  rw [← Bool.not_eq_true, KeyMap.isEmpty_iff]
  simp only [← Bool.not_eq_true, contains_scopes_ofEndpoints]
  push Not
  exact ⟨fun ⟨s, e, he, hs⟩ => ⟨e, he, s, hs⟩, fun ⟨e, he, s, hs⟩ => ⟨s, e, he, hs⟩⟩

theorem securitySchemes_addEndpoints (d : Draft) (es : List Endpoint) :
    (es.foldl addEndpoint d).securitySchemes = d.securitySchemes := by
  induction es generalizing d with
  | nil => rfl
  | cons e es ih => exact ih (d.addEndpoint e)

theorem get?_securitySchemes_addPermissions (d : Draft) (authorizationUrl tokenUrl name : String) :
    (d.addPermissions authorizationUrl tokenUrl).securitySchemes.get? name =
      if d.scopes.isEmpty = false ∧ name = permissionsScheme then
        some (permissions d.scopes authorizationUrl tokenUrl)
      else d.securitySchemes.get? name := by
  unfold addPermissions
  cases d.scopes.isEmpty with
  | true => simp
  | false =>
    simp only [Bool.false_eq_true, if_false, true_and]
    exact KeyMap.get?_insert _ _ _ _

theorem map_name_addTag (tags : List Tag) (name : String) :
    (addTag tags name).map Tag.name = addNew (tags.map Tag.name) name := by
  have hany : (tags.any fun t => t.name == name) = (tags.map Tag.name).contains name := by
    rw [Bool.eq_iff_iff]
    simp
  unfold addTag addNew
  rw [hany]
  split_ifs
  · rfl
  · exact List.map_append

theorem map_name_addTags (tags : List Tag) (names : List String) :
    (names.foldl addTag tags).map Tag.name = names.foldl addNew (tags.map Tag.name) := by
  induction names generalizing tags with
  | nil => rfl
  | cons name names ih => rw [List.foldl_cons, ih, map_name_addTag, List.foldl_cons]

theorem map_name_tags_addEndpoints (d : Draft) (es : List Endpoint) :
    (es.foldl addEndpoint d).tags.map Tag.name =
      (es.flatMap Endpoint.tags).foldl addNew (d.tags.map Tag.name) := by
  induction es generalizing d with
  | nil => rfl
  | cons e es ih =>
    have htags : (d.addEndpoint e).tags.map Tag.name = e.tags.foldl addNew (d.tags.map Tag.name) :=
      map_name_addTags d.tags e.tags
    rw [List.foldl_cons, ih, htags, List.flatMap_cons, List.foldl_append]

theorem tags_addPermissions (d : Draft) (authorizationUrl tokenUrl : String) :
    (d.addPermissions authorizationUrl tokenUrl).tags = d.tags := by
  unfold addPermissions
  split_ifs <;> rfl

theorem firsts_tags_ofEndpoints (es : List Endpoint) :
    Firsts (es.flatMap Endpoint.tags) ((ofEndpoints es).tags.map Tag.name) := by
  have hfirsts := firsts_nil.addAll (es.flatMap Endpoint.tags)
  have htags := map_name_tags_addEndpoints start es
  exact htags ▸ hfirsts

end Draft

namespace Document

/-- The document of some endpoints, with the scheme for their scopes. -/
def ofEndpoints (es : List Endpoint) (authorizationUrl tokenUrl : String) (t : SchemaTable) :
    Document :=
  ((Draft.ofEndpoints es).addPermissions authorizationUrl tokenUrl).finish t

section
variable {es : List Endpoint} {authorizationUrl tokenUrl : String} {t : SchemaTable}

theorem get?_securitySchemes_ofEndpoints (name : String) :
    (ofEndpoints es authorizationUrl tokenUrl t).securitySchemes.get? name =
      if (Draft.ofEndpoints es).scopes.isEmpty = false ∧ name = permissionsScheme then
        some (Draft.permissions (Draft.ofEndpoints es).scopes authorizationUrl tokenUrl)
      else (KeyMap.singleton bearerScheme Draft.bearer).get? name := by
  have hschemes : (Draft.ofEndpoints es).securitySchemes = .singleton bearerScheme Draft.bearer :=
    Draft.securitySchemes_addEndpoints Draft.start es
  rw [← hschemes]
  exact Draft.get?_securitySchemes_addPermissions _ authorizationUrl tokenUrl name

theorem get?_permissionsScheme_of_needs (h : ∃ e ∈ es, ∃ s, e.Needs s) :
    (ofEndpoints es authorizationUrl tokenUrl t).securitySchemes.get? permissionsScheme =
      some (Draft.permissions (Draft.ofEndpoints es).scopes authorizationUrl tokenUrl) := by
  rw [get?_securitySchemes_ofEndpoints,
    if_pos ⟨(Draft.isEmpty_scopes_ofEndpoints es).mpr h, rfl⟩]

theorem get?_permissionsScheme_eq_none (h : ¬ ∃ e ∈ es, ∃ s, e.Needs s) :
    (ofEndpoints es authorizationUrl tokenUrl t).securitySchemes.get? permissionsScheme = none := by
  rw [get?_securitySchemes_ofEndpoints,
    if_neg fun hscopes => h ((Draft.isEmpty_scopes_ofEndpoints es).mp hscopes.1)]
  rfl

theorem get?_bearerScheme :
    (ofEndpoints es authorizationUrl tokenUrl t).securitySchemes.get? bearerScheme =
      some Draft.bearer := by
  rw [get?_securitySchemes_ofEndpoints, if_neg fun h => absurd h.2 (by decide)]
  rfl

theorem exists_endpoint_of_has {path : String} {m : Method} {op : Operation}
    (h : (ofEndpoints es authorizationUrl tokenUrl t).Has path m op) :
    ∃ e ∈ es, op = e.toOperation := by
  have hpaths : (ofEndpoints es authorizationUrl tokenUrl t).paths = (Draft.ofEndpoints es).paths :=
    Draft.paths_addPermissions _ _ _
  rw [has_iff, hpaths, Draft.operationAt?_ofEndpoints, Option.map_eq_some_iff] at h
  obtain ⟨e, he, rfl⟩ := h
  exact ⟨e, List.mem_reverse.mp (List.mem_of_find?_eq_some he), rfl⟩

end

/-- If the endpoints demand what middleware may demand, every scheme that an operation requires is
declared, with the scopes that it requires of it. The scheme for scopes is there exactly if an endpoint
needs one, and offers the scopes of all endpoints. The tags are those of the endpoints, each once and
in the order of first use. -/
theorem ofEndpoints_declares (es : List Endpoint) (authorizationUrl tokenUrl : String)
    (t : SchemaTable) (hsecurity : ∀ e ∈ es, ∃ middleware, e.security = security middleware) :
    (∀ path m op, (ofEndpoints es authorizationUrl tokenUrl t).Has path m op →
      ∀ requirement ∈ op.security, ∀ name scopes, (name, scopes) ∈ requirement.entries →
        ∃ scheme,
          (ofEndpoints es authorizationUrl tokenUrl t).securitySchemes.get? name = some scheme ∧
          (name = permissionsScheme → ∃ flow, scheme.flow = some flow ∧
            ∀ s ∈ scopes, flow.scopes.contains s = true)) ∧
    ((ofEndpoints es authorizationUrl tokenUrl t).securitySchemes.contains permissionsScheme = true ↔
      ∃ e ∈ es, ∃ s, e.Needs s) ∧
    (∀ scheme, (ofEndpoints es authorizationUrl tokenUrl t).securitySchemes.get? permissionsScheme =
        some scheme →
      ∃ flow, scheme.flow = some flow ∧
        ∀ s, flow.scopes.contains s = true ↔ ∃ e ∈ es, e.Needs s) ∧
    Firsts (es.flatMap Endpoint.tags)
      ((ofEndpoints es authorizationUrl tokenUrl t).tags.map Tag.name) := by
  refine ⟨?_, ?_, ?_, ?_⟩
  · intro path m op hop requirement hrequirement name scopes hentry
    obtain ⟨e, he, rfl⟩ := exists_endpoint_of_has hop
    obtain ⟨r, hr, rfl⟩ := List.mem_map.mp hrequirement
    cases List.mem_singleton.mp hentry
    obtain ⟨middleware, hmiddleware⟩ := hsecurity e he
    rcases mem_security (hmiddleware ▸ hr) with rfl | ⟨hname, hscopes⟩
    · refine ⟨_, get?_bearerScheme, fun hname => ?_⟩
      exact absurd hname (by decide)
    · have hneeds : ∀ s ∈ r.scopes, e.Needs s := fun s hs => ⟨r, hr, hs⟩
      obtain ⟨s, hs⟩ := List.exists_mem_of_ne_nil _ hscopes
      rw [hname]
      refine ⟨_, get?_permissionsScheme_of_needs ⟨e, he, s, hneeds s hs⟩, fun _ => ⟨_, rfl, ?_⟩⟩
      intro s hs
      exact (Draft.contains_scopes_ofEndpoints es s).mpr ⟨e, he, hneeds s hs⟩
  · by_cases h : ∃ e ∈ es, ∃ s, e.Needs s
    · simp only [KeyMap.contains, get?_permissionsScheme_of_needs h, h, Option.isSome_some]
    · simp only [KeyMap.contains, get?_permissionsScheme_eq_none h, h, Option.isSome_none,
        Bool.false_eq_true]
  · intro scheme hscheme
    by_cases h : ∃ e ∈ es, ∃ s, e.Needs s
    · rw [get?_permissionsScheme_of_needs h] at hscheme
      cases hscheme
      exact ⟨_, rfl, Draft.contains_scopes_ofEndpoints es⟩
    · rw [get?_permissionsScheme_eq_none h] at hscheme
      cases hscheme
  · have htags : (ofEndpoints es authorizationUrl tokenUrl t).tags = (Draft.ofEndpoints es).tags :=
      Draft.tags_addPermissions _ _ _
    rw [htags]
    exact Draft.firsts_tags_ofEndpoints es

/-- An endpoint that needs a scope, and an open one that replaces it. -/
def openedOrder : List Endpoint :=
  [orderEndpoint .get "GetOrder" ["Authenticated", "AllFeaturesOf(\"read\")"],
    orderEndpoint .get "ReadOrder" []]

/-- The scope stays declared. -/
theorem ofEndpoints_declares_openedOrder :
    (∀ e ∈ openedOrder, ∃ middleware, e.security = security middleware) ∧
      (ofEndpoints openedOrder "" "" {}).securitySchemes.contains permissionsScheme = true := by
  have hsecurity : ∀ e ∈ openedOrder, ∃ middleware, e.security = security middleware := by
    refine List.forall_mem_cons.mpr ⟨⟨["Authenticated", "AllFeaturesOf(\"read\")"], rfl⟩, ?_⟩
    exact List.forall_mem_singleton.mpr ⟨[], rfl⟩
  have hscope : (orderEndpoint .get "GetOrder" ["Authenticated", "AllFeaturesOf(\"read\")"]).security =
      [⟨permissionsScheme, ["read"]⟩] := by decide +kernel
  obtain ⟨-, hscheme, -, -⟩ := ofEndpoints_declares openedOrder "" "" {} hsecurity
  refine ⟨hsecurity, hscheme.mpr ⟨_, List.mem_cons_self, "read", ?_⟩⟩
  exact ⟨⟨permissionsScheme, ["read"]⟩, hscope ▸ List.mem_cons_self, List.mem_cons_self⟩

end Document

end RouteDoc
