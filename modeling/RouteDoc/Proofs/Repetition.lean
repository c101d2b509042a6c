import RouteDoc.Proofs.Requests
import RouteDoc.Proofs.Schema.Cycles

/-! Repeated requests. A name that was asked for is settled from then on, and a type whose names are
all settled leaves the table as it is. So entries are written once, and a request that comes again
finds its answer and changes nothing. -/
namespace RouteDoc
open Disk Go

namespace SchemaTable

/-- A name that was asked for: it is known, or it was looked up in vain. -/
def Settled (t : SchemaTable) (name : String) : Prop := t.Knows name ∨ name ∈ t.missing

/-- What is settled in one table is settled in another. -/
def SettledIn (t t' : SchemaTable) : Prop := ∀ name, t.Settled name → t'.Settled name

variable {t t' t'' : SchemaTable}

theorem SettledIn.refl (t : SchemaTable) : t.SettledIn t := fun _ h => h

theorem SettledIn.trans (h : t.SettledIn t') (h' : t'.SettledIn t'') : t.SettledIn t'' :=
  fun name hn => h' name (h name hn)

theorem settledIn_start (t : SchemaTable) (name : String) : t.SettledIn (t.start name) :=
  fun _ hk => hk.imp_left Knows.start

theorem settledIn_complete (t : SchemaTable) (name : String) (s : Schema) :
    t.SettledIn (t.complete name s) :=
  fun _ hk => hk.imp_left fun hk => hk.complete s

theorem settledIn_addMissing (t : SchemaTable) (name : String) : t.SettledIn (t.addMissing name) :=
  fun _ hk => hk.imp_right (List.mem_cons_of_mem name)

end SchemaTable

namespace Follow
variable {names : NameSchema} {t t' : SchemaTable} {calls : List NameCall}

theorem settledIn (h : Follow names t calls t')
    (hc : ∀ c ∈ calls, c.table.SettledIn (c.answer names).2) : t.SettledIn t' := by
  induction h with
  | nil => exact .refl _
  | @cons c calls t' _ ih =>
    have hrest := ih fun c' hc' => hc c' (List.mem_cons_of_mem c hc')
    exact (hc c List.mem_cons_self).trans hrest

/-- What a call settles is settled in the end. -/
theorem settled (h : Follow names t calls t')
    (hc : ∀ c ∈ calls, c.table.SettledIn (c.answer names).2)
    (hs : ∀ c ∈ calls, (c.answer names).2.Settled c.name) : ∀ c ∈ calls, t'.Settled c.name := by
  induction h with
  | nil => exact fun c hc => absurd hc List.not_mem_nil
  | @cons c calls t' hrest ih =>
    have hc' : ∀ c' ∈ calls, c'.table.SettledIn (c'.answer names).2 :=
      fun c' hmem => hc c' (List.mem_cons_of_mem c hmem)
    intro c' hmem
    rcases List.mem_cons.mp hmem with rfl | hmem
    · exact hrest.settledIn hc' _ (hs c' List.mem_cons_self)
    · exact ih hc' (fun d hd => hs d (List.mem_cons_of_mem c hd)) c' hmem

end Follow

namespace ModelIndex
variable {index : ModelIndex} {c : NameCall} {result : Schema × SchemaTable} {t : SchemaTable}

theorem EvaluatesName.settledIn (h : index.EvaluatesName c result) :
    c.table.SettledIn result.2 := by
  induction h with
  | known h => exact .refl _
  | missing hnew h => exact .refl _
  | @undeclared c hnew hmiss h => exact c.table.settledIn_addMissing c.name
  | @declared c m names h hcalls ih =>
    obtain ⟨calls, hfollow, hmade⟩ :=
      Schema.exists_follow_ofModel names m (c.table.start c.name)
    have hmodel := hfollow.settledIn fun c' hc' => ih c' (hmade c' hc')
    exact ((c.table.settledIn_start c.name).trans hmodel).trans
      (SchemaTable.settledIn_complete _ _ _)

theorem EvaluatesName.settled (h : index.EvaluatesName c result) : result.2.Settled c.name := by
  cases h with
  | known h => exact .inl h
  | missing hnew h => exact .inr h
  | undeclared hnew hmiss h => exact .inr List.mem_cons_self
  | declared h hcalls =>
    exact .inl (.inl ((SchemaTable.contains_complete _).mpr (.inl rfl)))

theorem answer_snd_of_settled {fuel : Nat} (h : c.table.Settled c.name) :
    (c.answer (Schema.ofName index (fuel + 1))).2 = c.table := by
  by_cases hknown : c.table.Knows c.name
  · rw [answer_of_knows hknown]
  · rw [answer_of_missing hknown (h.resolve_left hknown)]

/-- Calls for settled names change nothing. -/
theorem eq_of_follow_of_settled {fuel : Nat} {t' : SchemaTable} {calls : List NameCall}
    (h : Follow (Schema.ofName index (fuel + 1)) t calls t')
    (hs : ∀ c ∈ calls, t.Settled c.name) : t' = t := by
  induction h with
  | nil => rfl
  | @cons c calls t' _ ih =>
    have hc : (c.answer (Schema.ofName index (fuel + 1))).2 = c.table :=
      answer_snd_of_settled (hs c List.mem_cons_self)
    rw [hc] at ih
    exact ih fun c' hc' => hs c' (List.mem_cons_of_mem c hc')

theorem schemaOf_settledIn (index : ModelIndex) (type : TypeExpr) (dir : Option FilePath)
    (t : SchemaTable) : t.SettledIn (index.schemaOf type dir t).2 := by
  obtain ⟨calls, hrun⟩ :=
    Schema.exists_isRun (Schema.ofName index (index.size + 1)) dir false type t
  exact hrun.follow.settledIn fun c _ => (index.evaluatesName_ofName_size c).settledIn

theorem settled_schemaOf (index : ModelIndex) {type : TypeExpr} {name : String}
    (hn : type.Asks name) (dir : Option FilePath) (t : SchemaTable) :
    (index.schemaOf type dir t).2.Settled name := by
  obtain ⟨calls, hrun⟩ :=
    Schema.exists_isRun (Schema.ofName index (index.size + 1)) dir false type t
  obtain ⟨c, hc, rfl⟩ := hrun.asked name hn
  exact hrun.follow.settled (fun c _ => (index.evaluatesName_ofName_size c).settledIn)
    (fun c _ => (index.evaluatesName_ofName_size c).settled) c hc

theorem schemaOf_snd_of_settled {type : TypeExpr} (h : ∀ name, type.Asks name → t.Settled name)
    (dir : Option FilePath) : (index.schemaOf type dir t).2 = t := by
  obtain ⟨calls, hrun⟩ :=
    Schema.exists_isRun (Schema.ofName index (index.size + 1)) dir false type t
  exact eq_of_follow_of_settled hrun.follow fun c hc => h c.name (hrun.made c hc).asks

end ModelIndex

/-- The table after these types were asked for, one after the other. -/
def ModelIndex.askAll (index : ModelIndex) (types : List String) (t : SchemaTable) : SchemaTable :=
  types.foldl (fun t text => (index.schemaOf (.ofText text) none t).2) t

theorem ModelIndex.askAll_append (index : ModelIndex) (types types' : List String)
    (t : SchemaTable) : index.askAll (types ++ types') t = index.askAll types' (index.askAll types t) :=
  List.foldl_append

theorem ModelIndex.askAll_settledIn (index : ModelIndex) (types : List String) (t : SchemaTable) :
    t.SettledIn (index.askAll types t) := by
  induction types generalizing t with
  | nil => exact .refl t
  | cons text types ih => exact (index.schemaOf_settledIn (.ofText text) none t).trans (ih _)

namespace Context
variable (ctx : Context) (receiver : String) (vars : KeyMap String)

/-- All that a step does to the table is to ask for types, which do not depend on the table. -/
def OnlyAsks (step : HandlerFacts → HandlerFacts) : Prop :=
  ∃ types, ∀ facts, (step facts).table = ctx.models.askAll types facts.table

private theorem onlyAsks_of_table_eq {step : HandlerFacts → HandlerFacts}
    (h : ∀ facts, (step facts).table = facts.table) : ctx.OnlyAsks step := ⟨[], h⟩

private theorem onlyAsks_schemaOf (type : Option String) :
    ctx.OnlyAsks fun facts => (facts.schemaOf ctx.models type).2 := by
  cases type with
  | none => exact ctx.onlyAsks_of_table_eq fun _ => rfl
  | some text => exact ⟨[text], fun _ => rfl⟩

theorem noteBody_onlyAsks (target : Option Expr) :
    ctx.OnlyAsks fun facts => ctx.noteBody vars facts target := by
  unfold noteBody
  split
  · obtain ⟨types, h⟩ := ctx.onlyAsks_schemaOf _
    exact ⟨types, h⟩
  · exact ctx.onlyAsks_of_table_eq fun _ => rfl

theorem noteResponse_onlyAsks (args : List Expr) :
    ctx.OnlyAsks fun facts => ctx.noteResponse receiver vars facts args := by
  unfold noteResponse
  split
  · split
    · exact ctx.onlyAsks_of_table_eq fun _ => rfl
    · generalize responseParts _ _ _ = parts
      by_cases he : isErrorValue parts.2 = true
      · simp only [he, if_true]
        exact ctx.onlyAsks_of_table_eq fun _ => rfl
      · simp only [he]
        obtain ⟨types, h⟩ := ctx.onlyAsks_schemaOf _
        exact ⟨types, h⟩
  · exact ctx.onlyAsks_of_table_eq fun _ => rfl

theorem noteCall_onlyAsks (method : String) (args : List Expr) :
    ctx.OnlyAsks fun facts => ctx.noteCall receiver vars facts method args := by
  have hparam : ∀ (name : Option String) (schema : Schema),
      ctx.OnlyAsks fun facts => facts.addPathParam name schema := by
    intro name schema
    cases name <;> exact ctx.onlyAsks_of_table_eq fun _ => rfl
  unfold noteCall
  split
  · exact hparam _ _
  · exact hparam _ _
  · exact hparam _ _
  · exact hparam _ _
  · exact ctx.noteBody_onlyAsks vars _
  · exact ctx.noteBody_onlyAsks vars _
  · exact ctx.noteResponse_onlyAsks receiver vars args
  · exact ctx.onlyAsks_of_table_eq fun _ => rfl
  · refine ctx.onlyAsks_of_table_eq fun facts => ?_
    split_ifs <;> rfl
  · exact ctx.onlyAsks_of_table_eq fun _ => rfl

theorem noteNode_onlyAsks (node : Go.Node) :
    ctx.OnlyAsks fun facts => ctx.noteNode receiver vars facts node := by
  unfold noteNode
  split
  · exact ctx.noteCall_onlyAsks receiver vars _ _
  · exact ctx.onlyAsks_of_table_eq fun _ => rfl

theorem noteNodes_onlyAsks (nodes : List Go.Node) :
    ctx.OnlyAsks fun facts => nodes.foldl (ctx.noteNode receiver vars) facts := by
  induction nodes with
  | nil => exact ctx.onlyAsks_of_table_eq fun _ => rfl
  | cons node rest ih =>
    obtain ⟨types, htypes⟩ := ctx.noteNode_onlyAsks receiver vars node
    obtain ⟨later, hlater⟩ := ih
    refine ⟨types ++ later, fun facts => ?_⟩
    rw [ModelIndex.askAll_append, ← htypes facts]
    exact hlater _

/-- The description of a route does to the table what asking for some types does. -/
theorem exists_askAll_describe (r : Route) :
    ∃ types, ∀ t, (ctx.describe r t).2 = ctx.models.askAll types t := by
  change ∃ types, ∀ t, (ctx.routeFacts r t).table = ctx.models.askAll types t
  unfold routeFacts
  cases ctx.handler? r with
  | none => exact ⟨[], fun _ => rfl⟩
  | some d =>
    cases hb : d.body with
    | none =>
      simp only [handlerFacts, hb]
      exact ⟨[], fun _ => rfl⟩
    | some body =>
      simp only [handlerFacts, hb]
      obtain ⟨types, h⟩ := ctx.noteNodes_onlyAsks (d.receiverType?.getD "")
        (ctx.variableTypes (d.receiverType?.getD "") body) (stmtNodes body)
      exact ⟨types, fun t => h { table := t }⟩

theorem describe_settledIn (r : Route) (t : SchemaTable) : t.SettledIn (ctx.describe r t).2 := by
  obtain ⟨types, h⟩ := ctx.exists_askAll_describe r
  rw [h]
  exact ctx.models.askAll_settledIn types t

end Context

namespace ModelIndex

theorem settledIn_add (index : ModelIndex) (h : History) (r : Request) :
    h.table.SettledIn (h.add index r).table := by
  cases r with
  | text text => exact index.schemaOf_settledIn (.ofText text) none h.table
  | type type dir => exact index.schemaOf_settledIn type dir h.table
  | route symbols layers route =>
    exact (Context.mk symbols layers index).describe_settledIn route h.table

theorem settledIn_adds (index : ModelIndex) (h : History) (requests : List Request) :
    h.table.SettledIn (requests.foldl (History.add index) h).table := by
  induction requests generalizing h with
  | nil => exact .refl _
  | cons r rest ih => exact (index.settledIn_add h r).trans (ih _)

/-- A request for the schema of a type keeps all entries and leaves nothing in progress behind. When
it comes again, at once or after any other requests, it has the same answer and changes neither the
entries nor what is in progress nor what is missing. -/
theorem schemaOf_write_once (index : ModelIndex) (requests : List Request) (type : TypeExpr)
    (dir : Option FilePath) :
    let t := (index.serve requests).table
    let answer := index.schemaOf type dir t
    (∀ name s, t.get? name = some s → answer.2.get? name = some s) ∧
      answer.2.inProgress = t.inProgress ∧
      ∀ more : List Request,
        let later := (index.serve (requests ++ .type type dir :: more)).table
        index.schemaOf type dir later = (answer.1, later) := by
  intro t answer
  obtain ⟨hshape, hgrow⟩ := schemaOf_answers (index.serve_closed requests).sound type dir
  refine ⟨hgrow.kept, hgrow.inProgress, fun more => ?_⟩
  intro later
  have hsettled : ∀ name, type.Asks name → later.Settled name := by
    intro name hn
    have hfirst : answer.2.Settled name := index.settled_schemaOf hn dir t
    change (index.serve (requests ++ .type type dir :: more)).table.Settled name
    rw [serve_append]
    exact index.settledIn_adds ((index.serve requests).add index (.type type dir)) more name hfirst
  -- both answers are the shape of the type, which does not depend on the table
  have hanswer : (index.schemaOf type dir later).1 = answer.1 :=
    (schemaOf_answers (index.serve_closed _).sound type dir).1.trans hshape.symm
  exact Prod.ext hanswer (schemaOf_snd_of_settled hsettled dir)

end ModelIndex

end RouteDoc
