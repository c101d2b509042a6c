import Mathlib.Data.List.Induction
import RouteDoc.Proofs.Requests
import RouteDoc.Proofs.Schema.Reachable

/-! Descriptions of routes do not depend on what was asked for before. Two runs through a handler,
each over a table of its own, note the same facts; where every name has at most one model, the table
in the end depends only on what was asked for and not on the order. -/
namespace RouteDoc
open Disk Go

namespace HandlerFacts

/-- The same was noted, over two tables that keep the invariant. -/
structure Agree (index : ModelIndex) (facts facts' : HandlerFacts) : Prop where
  parameters : facts.parameters = facts'.parameters
  requestBody : facts.requestBody = facts'.requestBody
  responses : facts.responses = facts'.responses
  sound : index.Sound facts.table
  sound' : index.Sound facts'.table

namespace Agree
variable {index : ModelIndex} {facts facts' : HandlerFacts}

theorem start {t t' : SchemaTable} (ht : index.Sound t) (ht' : index.Sound t') :
    Agree index { table := t } { table := t' } :=
  ⟨rfl, rfl, rfl, ht, ht'⟩

theorem addReply (h : Agree index facts facts') (status : String) (reply : Reply) :
    Agree index (facts.addReply status reply) (facts'.addReply status reply) :=
  { h with responses := congrArg (·.insert status reply) h.responses }

theorem addParam (h : Agree index facts facts') (p : Param) :
    Agree index { facts with parameters := RouteDoc.addParam facts.parameters p }
      { facts' with parameters := RouteDoc.addParam facts'.parameters p } :=
  { h with parameters := congrArg (RouteDoc.addParam · p) h.parameters }

theorem addPathParam (h : Agree index facts facts') (name : Option String) (schema : Schema) :
    Agree index (facts.addPathParam name schema) (facts'.addPathParam name schema) := by
  cases name with
  | none => exact h
  | some name => exact h.addParam (pathParam name schema)

theorem setBody (h : Agree index facts facts') (b : Body) :
    Agree index { facts with requestBody := some b } { facts' with requestBody := some b } :=
  { h with requestBody := rfl }

/-- Both tables give a type the same schema, though they may grow by different entries. -/
theorem schemaOf (h : Agree index facts facts') (type : Option String) :
    (facts.schemaOf index type).1 = (facts'.schemaOf index type).1 ∧
      Agree index (facts.schemaOf index type).2 (facts'.schemaOf index type).2 := by
  cases type with
  | none => exact ⟨rfl, h⟩
  | some text =>
    obtain ⟨hshape, hgrow⟩ := ModelIndex.schemaOf_answers h.sound (TypeExpr.ofText text) none
    obtain ⟨hshape', hgrow'⟩ := ModelIndex.schemaOf_answers h.sound' (TypeExpr.ofText text) none
    simp only [HandlerFacts.schemaOf, ModelIndex.schemaOfText]
    exact ⟨hshape.trans hshape'.symm, { h with sound := hgrow.sound, sound' := hgrow'.sound }⟩

end Agree

end HandlerFacts

namespace Context
open HandlerFacts (Agree)
variable {ctx : Context} {receiver : String} {vars : KeyMap String} {facts facts' : HandlerFacts}

theorem noteBody_agree (h : Agree ctx.models facts facts') (target : Option Expr) :
    Agree ctx.models (ctx.noteBody vars facts target) (ctx.noteBody vars facts' target) := by
  unfold noteBody
  split
  · extract_lets type
    obtain ⟨hschema, hfacts⟩ := h.schemaOf type
    simp only [hschema]
    exact hfacts.setBody _
  · exact h

theorem noteResponse_agree (h : Agree ctx.models facts facts') (args : List Expr) :
    Agree ctx.models (ctx.noteResponse receiver vars facts args)
      (ctx.noteResponse receiver vars facts' args) := by
  unfold noteResponse
  split
  · split
    · exact h.addReply _ _
    · generalize responseParts _ _ _ = parts
      by_cases he : isErrorValue parts.2 = true
      · simp only [he, if_true]
        exact h.addReply _ _
      · simp only [he]
        obtain ⟨hschema, hfacts⟩ := h.schemaOf (ctx.infer receiver vars parts.2).2
        simp only [hschema]
        exact hfacts.addReply _ _
  · exact h.addReply _ _

theorem noteCall_agree (h : Agree ctx.models facts facts') (method : String) (args : List Expr) :
    Agree ctx.models (ctx.noteCall receiver vars facts method args)
      (ctx.noteCall receiver vars facts' method args) := by
  unfold noteCall
  split
  · exact h.addPathParam _ _
  · exact h.addPathParam _ _
  · exact h.addPathParam _ _
  · exact h.addPathParam _ _
  · exact noteBody_agree h _
  · exact noteBody_agree h _
  · exact noteResponse_agree h args
  · exact h.addParam queryParam
  · -- a first error is noted in both runs or in none
    rw [h.responses]
    split_ifs
    · exact h
    · exact h.addReply _ _
  · exact h

theorem noteNode_agree (h : Agree ctx.models facts facts') (node : Go.Node) :
    Agree ctx.models (ctx.noteNode receiver vars facts node)
      (ctx.noteNode receiver vars facts' node) := by
  unfold noteNode
  split
  · exact noteCall_agree h _ _
  · exact h

theorem noteNodes_agree (h : Agree ctx.models facts facts') (nodes : List Go.Node) :
    Agree ctx.models (nodes.foldl (ctx.noteNode receiver vars) facts)
      (nodes.foldl (ctx.noteNode receiver vars) facts') := by
  induction nodes generalizing facts facts' with
  | nil => exact h
  | cons node rest ih => exact ih (noteNode_agree h node)

variable (ctx) {t t' : SchemaTable}

theorem routeFacts_agree (ht : ctx.models.Sound t) (ht' : ctx.models.Sound t') (r : Route) :
    Agree ctx.models (ctx.routeFacts r t) (ctx.routeFacts r t') := by
  unfold routeFacts
  cases ctx.handler? r with
  | none => exact .start ht ht'
  | some d =>
    cases hb : d.body with
    | none => simpa only [handlerFacts, hb] using Agree.start ht ht'
    | some body =>
      simp only [handlerFacts, hb]
      exact noteNodes_agree (.start ht ht') (stmtNodes body)

/-- The endpoint of a route whose handler tells the given facts. -/
def endpointWith (r : Route) (facts : HandlerFacts) : Endpoint :=
  { (ctx.describe r {}).1 with
    parameters := (Path.params r.path).foldl
      (fun ps name => addParam ps (pathParam name (.typed "string"))) facts.parameters
    requestBody := facts.requestBody
    responses := if facts.responses.isEmpty then .singleton "200" .unknown else facts.responses }

theorem describe_fst (r : Route) (t : SchemaTable) :
    (ctx.describe r t).1 = ctx.endpointWith r (ctx.routeFacts r t) := rfl

/-- Over any two tables a route is described alike. -/
theorem describe_eq (ht : ctx.models.Sound t) (ht' : ctx.models.Sound t') (r : Route) :
    (ctx.describe r t).1 = (ctx.describe r t').1 := by
  obtain ⟨hparameters, hbody, hresponses, -, -⟩ := ctx.routeFacts_agree ht ht' r
  rw [describe_fst, describe_fst]
  unfold endpointWith
  rw [hparameters, hbody, hresponses]

end Context

namespace ModelIndex
variable {index : ModelIndex}

/-- The endpoint that a request asks for, described over a new table. -/
def endpoint? (index : ModelIndex) : Request → Option Endpoint
  | .route symbols layers route => some ((Context.mk symbols layers index).describe route {}).1
  | _ => none

theorem endpoints_add {h : History} (hs : index.Sound h.table) (r : Request) :
    (h.add index r).endpoints = h.endpoints ++ (index.endpoint? r).toList := by
  cases r with
  | text text => exact (List.append_nil _).symm
  | type type dir => exact (List.append_nil _).symm
  | route symbols layers route =>
    have heq := (Context.mk symbols layers index).describe_eq hs index.sound_empty route
    exact congrArg (h.endpoints ++ [·]) heq

theorem endpoints_serve (index : ModelIndex) (requests : List Request) :
    (index.serve requests).endpoints = requests.filterMap index.endpoint? := by
  induction requests using List.reverseRecOn with
  | nil => rfl
  | append_singleton requests r ih =>
    have hsound := (index.serve_closed requests).sound
    have hserve : index.serve (requests ++ [r]) = (index.serve requests).add index r :=
      index.serve_append requests [r]
    rw [hserve, endpoints_add hsound, ih, List.filterMap_append]
    cases hr : index.endpoint? r <;> simp [hr]

/-- A request asks for names of its own, whatever the table holds. -/
theorem exists_asks (index : ModelIndex) (r : Request) :
    ∃ A, ∀ h : History, index.Sound h.table → index.Grows A h.table (h.add index r).table := by
  cases r with
  | text text => exact ⟨_, fun h hs => (schemaOf_answers hs (TypeExpr.ofText text) none).2⟩
  | type type dir => exact ⟨_, fun h hs => (schemaOf_answers hs type dir).2⟩
  | route symbols layers route =>
    obtain ⟨A, hA⟩ := (Context.mk symbols layers index).describe_grows route
    exact ⟨A, fun h hs => (hA h.table hs).1⟩

/-- The table grows by what the single requests ask for. -/
theorem serve_grows (index : ModelIndex) :
    ∃ A : Request → String → Prop, ∀ requests,
      index.Grows (fun name => ∃ r ∈ requests, A r name) {} (index.serve requests).table := by
  choose A hA using index.exists_asks
  refine ⟨A, fun requests => ?_⟩
  induction requests using List.reverseRecOn with
  | nil => exact .refl_of_asks_nothing index.sound_empty (by simp)
  | append_singleton requests r ih =>
    have hserve : index.serve (requests ++ [r]) = (index.serve requests).add index r :=
      index.serve_append requests [r]
    rw [hserve]
    refine (ih.trans (hA r _ ih.sound)).congr fun name => ?_
    simp [or_and_right, exists_or]

/-- After any requests a route is described as after any others, so each of several routes gets the
endpoint that it would get alone. Where names are unique, requests in another order leave the same
entries in the table. -/
theorem describe_history_independent (index : ModelIndex) :
    (∀ (requests requests' : List Request) (symbols : Symbols) (layers : Layers) (route : Route),
      ((Context.mk symbols layers index).describe route (index.serve requests).table).1 =
        ((Context.mk symbols layers index).describe route (index.serve requests').table).1) ∧
    (∀ requests : List Request,
      (index.serve requests).endpoints = requests.filterMap index.endpoint?) ∧
    (index.Unique → ∀ requests requests' : List Request,
      (∀ r, r ∈ requests' ↔ r ∈ requests) →
        (index.serve requests').table.toKeyMap = (index.serve requests).table.toKeyMap) := by
  refine ⟨?_, index.endpoints_serve, ?_⟩
  · intro requests requests' symbols layers route
    exact (Context.mk symbols layers index).describe_eq (index.serve_closed requests).sound
      (index.serve_closed requests').sound route
  · intro unique requests requests' hsame
    obtain ⟨A, hA⟩ := index.serve_grows
    have hgrows' := (hA requests').congr (B := fun name => ∃ r ∈ requests, A r name)
      fun name => by simp only [hsame]
    exact Grows.toKeyMap_eq (fun _ => Iff.rfl) unique unique (hA requests) hgrows'

/-- A route whose handler answers with a value of a model. -/
def answering (model : String) : Request :=
  let call : Expr := .call (.selector (.ident "c") "Response")
    [.ident "ctx", .composite (some (.named model)) []]
  .route { functions := .singleton "Answer" ⟨"Answer", none, [], [], some [.expr call], [], 1⟩ } {}
    ⟨"/orders", .get, "Answer", "ms_orders", []⟩

/-- Either handler asks for one of the two models, which leads to the other one. -/
theorem describe_history_independent_orders :
    (ofFiles "models" orderFiles).Unique ∧
      ((ofFiles "models" orderFiles).serve [answering "Order"]).table.keys = ["Item", "Order"] ∧
      ((ofFiles "models" orderFiles).serve [answering "Item", answering "Order"]).table.toKeyMap =
        ((ofFiles "models" orderFiles).serve
          [answering "Order", answering "Item", answering "Order"]).table.toKeyMap := by
  have unique : (ofFiles "models" orderFiles).Unique := by decide
  obtain ⟨-, -, htable⟩ := describe_history_independent (ofFiles "models" orderFiles)
  refine ⟨unique, by decide +kernel, htable unique _ _ fun r => ?_⟩
  simp only [List.mem_cons, List.not_mem_nil]
  tauto

end ModelIndex

end RouteDoc
