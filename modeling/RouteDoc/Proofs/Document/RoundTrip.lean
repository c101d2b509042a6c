import RouteDoc.Proofs.Schema.RoundTrip
import RouteDoc.Route.Basic

/-! Documents and routes written as JSON and read back. Parts that are left out when they are absent
or empty read as absent or empty again, and no other part does. -/
namespace RouteDoc
open Json (asString? asBool? asRecord? asList?)

def Content.Ordered (c : Content) : Prop := ∀ s ∈ c.values, s.Ordered

def Response.Ordered (r : Response) : Prop := ∀ c, r.content = some c → c.Ordered

structure Operation.Ordered (op : Operation) : Prop where
  parameters : ∀ p ∈ op.parameters, p.schema.Ordered
  requestBody : ∀ b, op.requestBody = some b → b.content.Ordered
  responses : ∀ r ∈ op.responses.values, r.Ordered

def PathItem.Ordered (item : PathItem) : Prop := ∀ m op, item.slot m = some op → op.Ordered

/-- All schemas in a document have their properties in order. -/
structure Document.Ordered (d : Document) : Prop where
  paths : ∀ item ∈ d.paths.values, item.Ordered
  schemas : ∀ s ∈ d.schemas.values, s.Ordered

theorem Parameter.ofJson?_toJson {p : Parameter} (h : p.schema.Ordered) :
    Parameter.ofJson? p.toJson = some p := by
  unfold Parameter.toJson
  rw [record_eq]
  generalize hfields : written _ = fields
  have hname : requiredField fields "name" asString? = some p.name :=
    requiredField_eq_some .string (by simp [← hfields]) rfl
  have hlocation : requiredField fields "in" asString? = some p.location :=
    requiredField_eq_some .string (by simp [← hfields]) rfl
  have hdescription : optionalField fields "description" asString? = some p.description :=
    optionalField_eq_some .string (by simp [← hfields]) (fun _ _ => rfl) rfl
  have hrequired : requiredField fields "required" asBool? = some p.required :=
    requiredField_eq_some .bool (by simp [← hfields]) rfl
  have hschema : requiredField fields "schema" Schema.ofJson? = some p.schema :=
    requiredField_eq_some Schema.toJson (by simp [← hfields]) (Schema.ofJson?_toJson h)
  simp [Parameter.ofJson?, asRecord?, hname, hlocation, hdescription, hrequired, hschema]

theorem media?_mediaJson {s : Schema} (h : s.Ordered) : media? (mediaJson s) = some s := by
  simp [media?, mediaJson, asRecord?, requiredField, Schema.ofJson?_toJson h]

theorem Content.Ordered.ofJson?_toJson {c : Content} (h : c.Ordered) :
    KeyMap.ofJson? media? (c.toJson mediaJson) = some c :=
  KeyMap.ofJson?_toJson fun s hs => media?_mediaJson (h s hs)

theorem RequestBody.ofJson?_toJson {b : RequestBody} (h : b.content.Ordered) :
    RequestBody.ofJson? b.toJson = some b := by
  unfold RequestBody.toJson
  rw [record_eq]
  generalize hfields : written _ = fields
  have hdescription : optionalField fields "description" asString? = some b.description :=
    optionalField_eq_some .string (by simp [← hfields]) (fun _ _ => rfl) rfl
  have hrequired : requiredField fields "required" asBool? = some b.required :=
    requiredField_eq_some .bool (by simp [← hfields]) rfl
  have hcontent : requiredField fields "content" (KeyMap.ofJson? media?) = some b.content :=
    requiredField_eq_some (KeyMap.toJson mediaJson) (by simp [← hfields]) h.ofJson?_toJson
  simp [RequestBody.ofJson?, asRecord?, hdescription, hrequired, hcontent]

theorem Response.ofJson?_toJson {r : Response} (h : r.Ordered) :
    Response.ofJson? r.toJson = some r := by
  unfold Response.toJson
  rw [record_eq]
  generalize hfields : written _ = fields
  have hdescription : requiredField fields "description" asString? = some r.description :=
    requiredField_eq_some .string (by simp [← hfields]) rfl
  have hcontent : optionalField fields "content" (KeyMap.ofJson? media?) = some r.content :=
    optionalField_eq_some (KeyMap.toJson mediaJson) (by simp [← hfields])
      (fun c hc => (h c hc).ofJson?_toJson) rfl
  simp [Response.ofJson?, asRecord?, hdescription, hcontent]

theorem strings?_strings (l : List String) : strings? (.strings l) = some l :=
  mapM_map_eq_some fun _ _ => rfl

theorem Operation.ofJson?_toJson {op : Operation} (h : op.Ordered) :
    Operation.ofJson? op.toJson = some op := by
  unfold Operation.toJson
  rw [record_eq]
  generalize hfields : written _ = fields
  have htags : fieldOr fields "tags" [] strings? = some op.tags :=
    fieldOr_list_eq_some .string (by simp [← hfields]) fun _ _ => rfl
  have hsummary : optionalField fields "summary" asString? = some op.summary :=
    optionalField_eq_some .string (by simp [← hfields]) (fun _ _ => rfl) rfl
  have hdescription : optionalField fields "description" asString? = some op.description :=
    optionalField_eq_some .string (by simp [← hfields]) (fun _ _ => rfl) rfl
  have hid : requiredField fields "operationId" asString? = some op.operationId :=
    requiredField_eq_some .string (by simp [← hfields]) rfl
  have hparameters : fieldOr fields "parameters" [] (asList? Parameter.ofJson?) =
      some op.parameters :=
    fieldOr_list_eq_some Parameter.toJson (by simp [← hfields]) fun p hp =>
      Parameter.ofJson?_toJson (h.parameters p hp)
  have hbody : optionalField fields "requestBody" RequestBody.ofJson? = some op.requestBody :=
    optionalField_eq_some RequestBody.toJson (by simp [← hfields])
      (fun b hb => RequestBody.ofJson?_toJson (h.requestBody b hb)) rfl
  have hresponses : requiredField fields "responses" (KeyMap.ofJson? Response.ofJson?) =
      some op.responses :=
    requiredField_eq_some (KeyMap.toJson Response.toJson) (by simp [← hfields])
      (KeyMap.ofJson?_toJson fun r hr => Response.ofJson?_toJson (h.responses r hr))
  have hsecurity : fieldOr fields "security" [] (asList? (KeyMap.ofJson? strings?)) =
      some op.security :=
    fieldOr_list_eq_some (KeyMap.toJson .strings) (by simp [← hfields]) fun m _ =>
      KeyMap.ofJson?_toJson fun l _ => strings?_strings l
  simp [Operation.ofJson?, asRecord?, htags, hsummary, hdescription, hid, hparameters, hbody,
    hresponses, hsecurity]

theorem PathItem.ofJson?_toJson {item : PathItem} (h : item.Ordered) :
    PathItem.ofJson? item.toJson = some item := by
  unfold PathItem.toJson
  rw [record_eq]
  generalize hfields : written _ = fields
  have hslot : ∀ (m : Method) (key : String),
      fields.lookup key = (item.slot m).map Operation.toJson →
      optionalField fields key Operation.ofJson? = some (item.slot m) := by
    intro m key hl
    exact optionalField_eq_some Operation.toJson hl
      (fun op hop => Operation.ofJson?_toJson (h m op hop)) rfl
  have hget := hslot .get "get" (by simp [← hfields, slot])
  have hpost := hslot .post "post" (by simp [← hfields, slot])
  have hput := hslot .put "put" (by simp [← hfields, slot])
  have hdelete := hslot .delete "delete" (by simp [← hfields, slot])
  have hpatch := hslot .patch "patch" (by simp [← hfields, slot])
  have hoptions := hslot .options "options" (by simp [← hfields, slot])
  have hhead := hslot .head "head" (by simp [← hfields, slot])
  simp [PathItem.ofJson?, asRecord?, hget, hpost, hput, hdelete, hpatch, hoptions, hhead, slot]

theorem Info.ofJson?_toJson (i : Info) : Info.ofJson? i.toJson = some i := by
  unfold Info.toJson
  rw [record_eq]
  generalize hfields : written _ = fields
  have htitle : requiredField fields "title" asString? = some i.title :=
    requiredField_eq_some .string (by simp [← hfields]) rfl
  have hdescription : optionalField fields "description" asString? = some i.description :=
    optionalField_eq_some .string (by simp [← hfields]) (fun _ _ => rfl) rfl
  have hversion : requiredField fields "version" asString? = some i.version :=
    requiredField_eq_some .string (by simp [← hfields]) rfl
  simp [Info.ofJson?, asRecord?, htitle, hdescription, hversion]

theorem OAuthFlow.ofJson?_toJson (f : OAuthFlow) : OAuthFlow.ofJson? f.toJson = some f := by
  unfold OAuthFlow.toJson
  rw [record_eq]
  generalize hfields : written _ = fields
  have hauthorization : fieldOr fields "authorizationUrl" "" asString? = some f.authorizationUrl :=
    fieldOr_text_eq_some (by simp [← hfields])
  have htoken : fieldOr fields "tokenUrl" "" asString? = some f.tokenUrl :=
    fieldOr_text_eq_some (by simp [← hfields])
  have hscopes : requiredField fields "scopes" (KeyMap.ofJson? asString?) = some f.scopes :=
    requiredField_eq_some (KeyMap.toJson .string) (by simp [← hfields])
      (KeyMap.ofJson?_toJson fun _ _ => rfl)
  simp [OAuthFlow.ofJson?, asRecord?, hauthorization, htoken, hscopes]

theorem SecurityScheme.ofJson?_toJson (s : SecurityScheme) :
    SecurityScheme.ofJson? s.toJson = some s := by
  unfold SecurityScheme.toJson
  rw [record_eq]
  generalize hfields : written _ = fields
  have htype : requiredField fields "type" asString? = some s.type :=
    requiredField_eq_some .string (by simp [← hfields]) rfl
  have hdescription : optionalField fields "description" asString? = some s.description :=
    optionalField_eq_some .string (by simp [← hfields]) (fun _ _ => rfl) rfl
  have hscheme : optionalField fields "scheme" asString? = some s.scheme :=
    optionalField_eq_some .string (by simp [← hfields]) (fun _ _ => rfl) rfl
  have hformat : optionalField fields "bearerFormat" asString? = some s.bearerFormat :=
    optionalField_eq_some .string (by simp [← hfields]) (fun _ _ => rfl) rfl
  have hflow : optionalField fields "flows" OAuthFlow.ofFlows? = some s.flow := by
    refine optionalField_eq_some (fun f => .object [("authorizationCode", f.toJson)])
      (by simp [← hfields]) ?_ rfl
    intro f hf
    simp [OAuthFlow.ofFlows?, asRecord?, requiredField, f.ofJson?_toJson]
  simp [SecurityScheme.ofJson?, asRecord?, htype, hdescription, hscheme, hformat, hflow]

theorem Tag.ofJson?_toJson (t : Tag) : Tag.ofJson? t.toJson = some t := by
  unfold Tag.toJson
  rw [record_eq]
  generalize hfields : written _ = fields
  have hname : requiredField fields "name" asString? = some t.name :=
    requiredField_eq_some .string (by simp [← hfields]) rfl
  have hdescription : optionalField fields "description" asString? = some t.description :=
    optionalField_eq_some .string (by simp [← hfields]) (fun _ _ => rfl) rfl
  simp [Tag.ofJson?, asRecord?, hname, hdescription]

theorem Document.ofJson?_toJson {d : Document} (h : d.Ordered) :
    Document.ofJson? d.toJson = some d := by
  unfold Document.toJson
  rw [record_eq, record_eq]
  generalize hcomponents : written [fieldIfFull "schemas" _ _, _] = components
  generalize hfields : written _ = fields
  have hopenapi : requiredField fields "openapi" asString? = some d.openapi :=
    requiredField_eq_some .string (by simp [← hfields]) rfl
  have hinfo : requiredField fields "info" Info.ofJson? = some d.info :=
    requiredField_eq_some Info.toJson (by simp [← hfields]) d.info.ofJson?_toJson
  have hservers : fieldOr fields "servers" [] (asList? serverUrl?) = some d.servers :=
    fieldOr_list_eq_some (fun url => .object [("url", .string url)]) (by simp [← hfields])
      fun _ _ => rfl
  have hpaths : requiredField fields "paths" (KeyMap.ofJson? PathItem.ofJson?) = some d.paths :=
    requiredField_eq_some (KeyMap.toJson PathItem.toJson) (by simp [← hfields])
      (KeyMap.ofJson?_toJson fun item hitem => PathItem.ofJson?_toJson (h.paths item hitem))
  have hrecord : requiredField fields "components"
      (asRecord? ["schemas", "securitySchemes"] ["schemas", "securitySchemes"]) =
        some components :=
    requiredField_eq_some .object (by simp [← hfields]) rfl
  have hschemas : fieldOr components "schemas" {} (KeyMap.ofJson? Schema.ofJson?) =
      some d.schemas :=
    fieldOr_map_eq_some Schema.toJson (by simp [← hcomponents]) fun s hs =>
      Schema.ofJson?_toJson (h.schemas s hs)
  have hschemes : fieldOr components "securitySchemes" {} (KeyMap.ofJson? SecurityScheme.ofJson?) =
      some d.securitySchemes :=
    fieldOr_map_eq_some SecurityScheme.toJson (by simp [← hcomponents]) fun s _ => s.ofJson?_toJson
  have htags : fieldOr fields "tags" [] (asList? Tag.ofJson?) = some d.tags :=
    fieldOr_list_eq_some Tag.toJson (by simp [← hfields]) fun t _ => t.ofJson?_toJson
  simp [Document.ofJson?, asRecord?, hopenapi, hinfo, hservers, hpaths, hrecord, hschemas, hschemes,
    htags]

theorem Method.ofName?_name (m : Method) : Method.ofName? m.name = some m := by
  cases m <;> rfl

theorem Route.ofJson?_toJson (r : Route) : Route.ofJson? r.toJson = some r := by
  unfold Route.toJson
  rw [record_eq]
  generalize hfields : written _ = fields
  have hpath : requiredField fields "path" asString? = some r.path :=
    requiredField_eq_some .string (by simp [← hfields]) rfl
  have hmethod : requiredField fields "method" Method.ofJson? = some r.method :=
    requiredField_eq_some (fun m : Method => .string m.name) (by simp [← hfields]) r.method.ofName?_name
  have hhandler : requiredField fields "handler" asString? = some r.handler :=
    requiredField_eq_some .string (by simp [← hfields]) rfl
  have hservice : requiredField fields "microservice" asString? = some r.microservice :=
    requiredField_eq_some .string (by simp [← hfields]) rfl
  have hmiddleware : fieldOr fields "middleware" [] (asList? asString?) = some r.middleware :=
    fieldOr_list_eq_some .string (by simp [← hfields]) fun _ _ => rfl
  simp [Route.ofJson?, asRecord?, hpath, hmethod, hhandler, hservice, hmiddleware]

/-- Every document, whatever parts it lacks or leaves empty, and every route is read back from the JSON
that is written for it. -/
theorem documents_and_routes_read_back :
    (∀ d : Document, d.Ordered → Document.ofJson? d.toJson = some d) ∧
      ∀ r : Route, Route.ofJson? r.toJson = some r :=
  ⟨fun _ => Document.ofJson?_toJson, Route.ofJson?_toJson⟩

/-- An order with lines, of which some values are enumerated. -/
def orderSchema : Schema :=
  { type := some "object"
    description := some ""
    properties := some [
      ("lines", .array { properties := some [], enumValues := some [.null, .int 1, .object []] }),
      ("status", { type := some "string", enumValues := some [] })]
    required := some []
    additional := some {} }

theorem ordered_orderSchema : orderSchema.Ordered := by
  have hplain : ∀ s : Schema, s.properties = none → s.items = none → s.additional = none →
      s.Ordered := by
    intro s hp hi ha
    exact Schema.ordered_iff.mpr (by simp [hp, hi, ha])
  have hlines : (Schema.array
      { properties := some [], enumValues := some [.null, .int 1, .object []] }).Ordered := by
    refine Schema.ordered_iff.mpr ⟨by simp [Schema.array], ?_, by simp [Schema.array]⟩
    rintro i ⟨⟩
    refine Schema.ordered_iff.mpr ⟨?_, by simp, by simp⟩
    rintro m ⟨⟩
    exact ⟨List.Pairwise.nil, fun name p hp => absurd hp List.not_mem_nil⟩
  refine Schema.ordered_iff.mpr ⟨?_, by simp [orderSchema], ?_⟩
  · rintro m ⟨⟩
    refine ⟨by decide, ?_⟩
    intro name p hp
    simp only [List.mem_cons, Prod.mk.injEq, List.not_mem_nil, or_false] at hp
    rcases hp with ⟨-, rfl⟩ | ⟨-, rfl⟩
    · exact hlines
    · exact hplain _ rfl rfl rfl
  · rintro a ⟨⟩
    exact hplain {} rfl rfl rfl

/-- Orders are posted. Parts are absent or empty wherever they can be. -/
def postOrder : Operation :=
  { tags := []
    summary := some ""
    description := none
    operationId := "postOrders"
    parameters := [⟨"id", "path", none, true, orderSchema⟩]
    requestBody := some ⟨none, false, .singleton "application/json" orderSchema⟩
    responses := ⟨[("201", ⟨"", some {}⟩), ("204", ⟨"No content", none⟩)], by decide⟩
    security := [{}, ⟨[("bearerAuth", []), ("permissions", ["orders:write"])], by decide⟩] }

theorem ordered_postOrder : postOrder.Ordered where
  parameters := by
    intro p hp
    cases List.mem_singleton.mp hp
    exact ordered_orderSchema
  requestBody := by
    rintro b ⟨⟩ s hs
    cases List.mem_singleton.mp hs
    exact ordered_orderSchema
  responses := by
    intro r hr
    simp only [postOrder, KeyMap.values, List.map_cons, List.map_nil, List.mem_cons,
      List.not_mem_nil, or_false] at hr
    rcases hr with rfl | rfl
    · rintro c ⟨⟩ s hs
      exact absurd hs List.not_mem_nil
    · rintro c ⟨⟩

def orderDocument : Document :=
  { openapi := "3.0.0"
    info := ⟨"", none, "1.0.0"⟩
    servers := []
    paths := .singleton "/orders" { post := some postOrder }
    schemas := {}
    securitySchemes := .singleton "permissions" ⟨"oauth2", none, none, none, some ⟨"", "", {}⟩⟩
    tags := [⟨"Orders", none⟩] }

theorem documents_and_routes_read_back_orders :
    orderDocument.Ordered ∧ Document.ofJson? orderDocument.toJson = some orderDocument := by
  have h : orderDocument.Ordered := by
    refine ⟨?_, ?_⟩
    · intro item hitem m op hop
      cases List.mem_singleton.mp hitem
      cases m <;> cases hop
      exact ordered_postOrder
    · intro s hs
      exact absurd hs List.not_mem_nil
  exact ⟨h, documents_and_routes_read_back.1 orderDocument h⟩

end RouteDoc
