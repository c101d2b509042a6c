import Mathlib.Data.List.Nodup
import RouteDoc.Proofs.Endpoint.Growth
import RouteDoc.Proofs.Route.Templates

/-! Parameters of endpoints. A handler may read any parameters any number of times: each is described
once, and those in the path's template are always among them. -/
namespace RouteDoc
open Go

/-- By name and place a parameter is told from the others. -/
def Param.key (p : Param) : String × ParamIn := (p.name, p.location)

theorem keys_addParam (ps : List Param) (p : Param) :
    (addParam ps p).map Param.key =
      if p.key ∈ ps.map Param.key then ps.map Param.key else ps.map Param.key ++ [p.key] := by
  have hany : (ps.any fun q => q.name == p.name && q.location == p.location) = true ↔
      p.key ∈ ps.map Param.key := by
    simp [Param.key]
  unfold addParam
  by_cases h : p.key ∈ ps.map Param.key
  · rw [if_pos h, if_pos (hany.mpr h)]
  · rw [if_neg h, if_neg (mt hany.mp h), List.map_append, List.map_singleton]

/-- No parameter is listed twice, and those in the path are required. -/
structure ProperParams (ps : List Param) : Prop where
  distinct : (ps.map Param.key).Nodup
  required : ∀ p ∈ ps, p.location = .path → p.required = true

namespace ProperParams
variable {ps : List Param}

theorem nil : ProperParams [] :=
  ⟨List.nodup_nil, fun _ hp => absurd hp List.not_mem_nil⟩

theorem addParam (h : ProperParams ps) {p : Param} (hp : p.location = .path → p.required = true) :
    ProperParams (addParam ps p) := by
  refine ⟨?_, ?_⟩
  · rw [keys_addParam]
    split_ifs with hmem
    · exact h.distinct
    · have hconcat := h.distinct.concat hmem
      rwa [List.concat_eq_append] at hconcat
  · intro q hq
    rcases mem_of_mem_addParam hq with hq | rfl
    · exact h.required q hq
    · exact hp

/-- Every name gets a parameter, unless it has one already. -/
theorem addPathParams (h : ProperParams ps) (names : List String) :
    ProperParams (names.foldl (fun ps name => RouteDoc.addParam ps (pathParam name (.typed "string")))
      ps) := by
  induction names generalizing ps with
  | nil => exact h
  | cons name names ih => exact ih (h.addParam fun _ => rfl)

end ProperParams

theorem mem_keys_addParam {ps : List Param} {p : Param} {k : String × ParamIn} :
    k ∈ (addParam ps p).map Param.key ↔ k ∈ ps.map Param.key ∨ k = p.key := by
  rw [keys_addParam]
  split_ifs with h
  · exact ⟨.inl, fun hk => hk.elim id fun heq => heq ▸ h⟩
  · rw [List.mem_append, List.mem_singleton]

theorem mem_keys_addPathParams {names : List String} {ps : List Param} {k : String × ParamIn} :
    k ∈ (names.foldl (fun ps name => addParam ps (pathParam name (.typed "string"))) ps).map
        Param.key ↔
      k ∈ ps.map Param.key ∨ ∃ name ∈ names, k = (name, .path) := by
  induction names generalizing ps with
  | nil => simp
  | cons name names ih =>
    have hkey : (pathParam name (.typed "string")).key = (name, .path) := rfl
    rw [List.foldl_cons, ih, mem_keys_addParam, hkey, or_assoc]
    simp

namespace Context
variable (ctx : Context) (receiver : String) (vars : KeyMap String) {facts : HandlerFacts}

theorem parameters_schemaOf (type : Option String) :
    (facts.schemaOf ctx.models type).2.parameters = facts.parameters := by
  cases type <;> rfl

theorem parameters_noteBody (target : Option Expr) :
    (ctx.noteBody vars facts target).parameters = facts.parameters := by
  unfold noteBody
  split
  · exact ctx.parameters_schemaOf _
  · rfl

theorem parameters_noteResponse (args : List Expr) :
    (ctx.noteResponse receiver vars facts args).parameters = facts.parameters := by
  unfold noteResponse
  split
  · split
    · rfl
    · generalize responseParts _ _ _ = parts
      by_cases he : isErrorValue parts.2 = true
      · simp only [he, if_true]
        rfl
      · simp only [he]
        exact ctx.parameters_schemaOf _
  · rfl

variable {ctx receiver vars}

private theorem proper_addPathParam (h : ProperParams facts.parameters) (name : Option String)
    (schema : Schema) : ProperParams (facts.addPathParam name schema).parameters := by
  cases name with
  | none => exact h
  | some name => exact h.addParam fun _ => rfl

theorem proper_noteCall (h : ProperParams facts.parameters) (method : String) (args : List Expr) :
    ProperParams (ctx.noteCall receiver vars facts method args).parameters := by
  unfold noteCall
  split
  · exact proper_addPathParam h _ _
  · exact proper_addPathParam h _ _
  · exact proper_addPathParam h _ _
  · exact proper_addPathParam h _ _
  · rwa [parameters_noteBody]
  · rwa [parameters_noteBody]
  · rwa [parameters_noteResponse]
  · refine h.addParam fun hquery => ?_
    cases hquery
  · split_ifs
    · exact h
    · exact h
  · exact h

theorem proper_noteNodes (h : ProperParams facts.parameters) (nodes : List Node) :
    ProperParams (nodes.foldl (ctx.noteNode receiver vars) facts).parameters := by
  induction nodes generalizing facts with
  | nil => exact h
  | cons n nodes ih =>
    refine ih ?_
    unfold noteNode
    split
    · exact proper_noteCall h _ _
    · exact h

variable (ctx)

theorem proper_routeFacts (r : Route) (t : SchemaTable) :
    ProperParams (ctx.routeFacts r t).parameters := by
  unfold routeFacts
  cases ctx.handler? r with
  | none => exact .nil
  | some d =>
    cases hbody : d.body with
    | none => simpa only [handlerFacts, hbody] using ProperParams.nil
    | some body =>
      simp only [handlerFacts, hbody]
      exact proper_noteNodes .nil (stmtNodes body)

/-- A template keeps the segments of its path and is its own template. For paths in the router's
syntax, the names in its braces are the parameters of the path, and each of them is described once,
whatever the handler reads: no parameter is described twice, and those in the path are required. -/
theorem template_parameters :
    (∀ path, Path.template (Path.template path) = Path.template path ∧
      (Path.segments (Path.template path).toList).length = (Path.segments path.toList).length) ∧
    (∀ path, Path.IsRouterPath path → Path.templateNames path = Path.params path) ∧
    (∀ (ctx : Context) (r : Route) (t : SchemaTable), Path.IsRouterPath r.path →
      let ps := (ctx.describe r t).1.parameters
      (ps.map Param.key).Nodup ∧
      (∀ p ∈ ps, p.location = .path → p.required = true) ∧
      ∀ name ∈ Path.templateNames r.path, (ps.map Param.key).count (name, .path) = 1) := by
  refine ⟨fun path => ⟨Path.template_template path, ?_⟩,
    fun path => Path.templateNames_eq_params, ?_⟩
  · rw [Path.segments_template, List.length_map]
  · intro ctx r t hpath ps
    have hproper : ProperParams ps := (ctx.proper_routeFacts r t).addPathParams (Path.params r.path)
    refine ⟨hproper.distinct, hproper.required, ?_⟩
    intro name hname
    rw [Path.templateNames_eq_params hpath] at hname
    have hmem : (name, ParamIn.path) ∈ ps.map Param.key :=
      mem_keys_addPathParams.mpr (.inr ⟨name, hname, rfl⟩)
    exact List.count_eq_one_of_mem hproper.distinct hmem

/-- A handler that reads one parameter twice and another one as a number. -/
def itemContext : Context :=
  let call (name : String) (args : List Expr) : Stmt := .expr (.call (.selector (.ident "ctx") name) args)
  let id : Expr := .lit ⟨.string, "\"id\""⟩
  let body := [call "Params" [id], call "ParamsInt" [.ident "ctx", .lit ⟨.string, "\"item\""⟩],
    call "Params" [id]]
  ⟨{ functions := .singleton "GetItem" ⟨"GetItem", none, [], [], some body, [], 1⟩ }, {}, ⟨"", []⟩⟩

def itemRoute : Route := ⟨"/orders/:id/items/:item?/copies/:id", .get, "GetItem", "ms_orders", []⟩

/-- The path itself has one of its parameters twice. -/
theorem template_parameters_item :
    Path.IsRouterPath itemRoute.path ∧ Path.templateNames itemRoute.path = ["id", "item", "id"] ∧
      ((itemContext.describe itemRoute {}).1.parameters.map Param.key).count ("id", .path) = 1 := by
  have hsegments : Path.segments itemRoute.path.toList = ["".toList, "orders".toList, ":id".toList,
      "items".toList, ":item?".toList, "copies".toList, ":id".toList] := by decide
  have hpath : Path.IsRouterPath itemRoute.path := by
    unfold Path.IsRouterPath
    rw [hsegments]
    simp [List.eq_replicate_iff]
  obtain ⟨-, hnames, hparams⟩ := template_parameters
  have hnames : Path.templateNames itemRoute.path = ["id", "item", "id"] :=
    (hnames itemRoute.path hpath).trans (by decide)
  refine ⟨hpath, hnames, (hparams itemContext itemRoute {} hpath).2.2 "id" ?_⟩
  rw [hnames]
  exact List.mem_cons_self

end Context

end RouteDoc
