import RouteDoc.Endpoint.Describe
import RouteDoc.Proofs.Schema.Growth

/-! What the description of a route asks for. The schemas that it holds refer only to names that were
asked for, whatever the table held before. -/
namespace RouteDoc
open Go

/-- The schemas of parameters, of a body and of replies. -/
inductive HeldSchema (params : List Param) (body : Option Body) (replies : KeyMap Reply) :
    Schema → Prop where
  | param {p : Param} (h : p ∈ params) : HeldSchema params body replies p.schema
  | body {b : Body} (h : body = some b) : HeldSchema params body replies b.schema
  | reply {status : String} {r : Reply} {s : Schema} (h : (status, r) ∈ replies.entries)
      (hs : r.schema = some s) : HeldSchema params body replies s

def Endpoint.Holds (e : Endpoint) : Schema → Prop :=
  HeldSchema e.parameters e.requestBody e.responses

def HandlerFacts.Holds (facts : HandlerFacts) : Schema → Prop :=
  HeldSchema facts.parameters facts.requestBody facts.responses

theorem mem_of_mem_addParam {ps : List Param} {p q : Param} (h : q ∈ addParam ps p) :
    q ∈ ps ∨ q = p := by
  unfold addParam at h
  split_ifs at h
  · exact .inl h
  · exact (List.mem_append.mp h).imp_right List.mem_singleton.mp

namespace ModelIndex
variable {index : ModelIndex}

/-- A schema refers only to models among the names `A`. -/
def RefersTo (index : ModelIndex) (A : String → Prop) (s : Schema) : Prop :=
  s.RefsSatisfy fun name => A name ∧ index.contains name = true

theorem refersTo_shape (index : ModelIndex) (type : TypeExpr) :
    index.RefersTo type.Asks (Schema.shape index.nameSchema false type) :=
  Schema.refsSatisfy_shape (fun _ hn => refsSatisfy_nameSchema fun hc => ⟨hn, hc⟩) false

/-- One step asks for the names `A`, and holds no other schemas than before but ones that refer to
these names. -/
def Notes (index : ModelIndex) (A : String → Prop) (step : HandlerFacts → HandlerFacts) : Prop :=
  ∀ facts, index.Sound facts.table → index.Grows A facts.table (step facts).table ∧
    ∀ s, (step facts).Holds s → facts.Holds s ∨ index.RefersTo A s

theorem Notes.trans {A B : String → Prop} {f g : HandlerFacts → HandlerFacts}
    (hf : index.Notes A f) (hg : index.Notes B g) :
    index.Notes (fun name => A name ∨ B name) fun facts => g (f facts) := by
  intro facts ht
  obtain ⟨hgrow, hheld⟩ := hf facts ht
  obtain ⟨hgrow', hheld'⟩ := hg (f facts) hgrow.sound
  refine ⟨hgrow.trans hgrow', ?_⟩
  intro s hs
  rcases hheld' s hs with hs | hs
  · exact (hheld s hs).imp_right fun h => h.mono fun _ hn => ⟨.inl hn.1, hn.2⟩
  · exact .inr (hs.mono fun _ hn => ⟨.inr hn.1, hn.2⟩)

/-- A step that leaves the table alone. -/
theorem notes_of_table_eq {f : HandlerFacts → HandlerFacts}
    (htable : ∀ facts, (f facts).table = facts.table)
    (hheld : ∀ facts s, (f facts).Holds s → facts.Holds s ∨ s.RefsSatisfy fun _ => False) :
    index.Notes (fun _ => False) f := by
  intro facts ht
  refine ⟨?_, fun s hs => (hheld facts s hs).imp_right fun h => h.mono fun _ => False.elim⟩
  rw [htable]
  exact .refl ht fun _ => False.elim

end ModelIndex

namespace HandlerFacts
variable {facts : HandlerFacts}

theorem holds_addReply {status : String} {reply : Reply} {s : Schema}
    (h : (facts.addReply status reply).Holds s) : facts.Holds s ∨ reply.schema = some s := by
  rcases h with hp | hb | ⟨hr, hs⟩
  · exact .inl (.param hp)
  · exact .inl (.body hb)
  · rcases KeyMap.mem_of_mem_insert hr with heq | hr
    · cases heq
      exact .inr hs
    · exact .inl (.reply hr hs)

theorem holds_addParam {p : Param} {s : Schema}
    (h : { facts with parameters := addParam facts.parameters p }.Holds s) :
    facts.Holds s ∨ s = p.schema := by
  rcases h with hp | hb | ⟨hr, hs⟩
  · rcases mem_of_mem_addParam hp with hp | rfl
    · exact .inl (.param hp)
    · exact .inr rfl
  · exact .inl (.body hb)
  · exact .inl (.reply hr hs)

theorem holds_setBody {b : Body} {s : Schema}
    (h : { facts with requestBody := some b }.Holds s) : facts.Holds s ∨ s = b.schema := by
  rcases h with hp | hb | ⟨hr, hs⟩
  · exact .inl (.param hp)
  · cases hb
    exact .inr rfl
  · exact .inl (.reply hr hs)

end HandlerFacts

/-- The names that a type given as text asks for, none if no type is known. -/
def textAsks (type : Option String) (name : String) : Prop :=
  ∃ text, type = some text ∧ (TypeExpr.ofText text).Asks name

/-- A step that takes the schema of a type and puts it somewhere. -/
theorem notes_schemaOf {index : ModelIndex} (type : Option String)
    (put : Schema → HandlerFacts → HandlerFacts)
    (htable : ∀ s facts, (put s facts).table = facts.table)
    (hheld : ∀ s facts s', (put s facts).Holds s' → facts.Holds s' ∨ s' = s) :
    index.Notes (textAsks type) fun facts =>
      put (facts.schemaOf index type).1 (facts.schemaOf index type).2 := by
  intro facts ht
  rw [htable]
  cases type with
  | none =>
    refine ⟨.refl ht ?_, ?_⟩
    · rintro name ⟨text, h, -⟩
      cases h
    · intro s hs
      refine (hheld _ _ s hs).imp_right ?_
      rintro rfl
      exact Schema.refsSatisfy_object
  | some text =>
    obtain ⟨hshape, hgrow⟩ := ModelIndex.schemaOf_answers ht (TypeExpr.ofText text) none
    have hasks : ∀ name, (TypeExpr.ofText text).Asks name ↔ textAsks (some text) name :=
      fun name => ⟨fun h => ⟨text, rfl, h⟩, fun ⟨_, h, ha⟩ => Option.some.inj h ▸ ha⟩
    refine ⟨hgrow.congr hasks, ?_⟩
    intro s hs
    refine (hheld _ _ s hs).imp_right ?_
    rintro rfl
    have hrefs := index.refersTo_shape (TypeExpr.ofText text)
    rw [← hshape] at hrefs
    exact hrefs.mono fun name hn => ⟨(hasks name).mp hn.1, hn.2⟩

namespace Context
variable (ctx : Context) (receiver : String) (vars : KeyMap String)

private theorem notes_id : ctx.models.Notes (fun _ => False) id :=
  ModelIndex.notes_of_table_eq (fun _ => rfl) fun _ _ h => .inl h

private theorem notes_addReply (status : String) {reply : Reply}
    (h : ∀ s, reply.schema = some s → s.RefsSatisfy fun _ => False) :
    ctx.models.Notes (fun _ => False) fun facts => facts.addReply status reply :=
  ModelIndex.notes_of_table_eq (fun _ => rfl) fun _ s hs =>
    (HandlerFacts.holds_addReply hs).imp_right (h s)

private theorem notes_addParam {p : Param} (h : p.schema.RefsSatisfy fun _ => False) :
    ctx.models.Notes (fun _ => False) fun facts =>
      { facts with parameters := addParam facts.parameters p } := by
  refine ModelIndex.notes_of_table_eq (fun _ => rfl) fun _ s hs => ?_
  refine (HandlerFacts.holds_addParam hs).imp_right ?_
  rintro rfl
  exact h

private theorem notes_addPathParam (name : Option String) {schema : Schema}
    (h : schema.RefsSatisfy fun _ => False) :
    ctx.models.Notes (fun _ => False) fun facts => facts.addPathParam name schema := by
  cases name with
  | none => exact ctx.notes_id
  | some name => exact ctx.notes_addParam h

theorem noteBody_notes (target : Option Expr) :
    ∃ A, ctx.models.Notes A fun facts => ctx.noteBody vars facts target := by
  unfold noteBody
  split
  · exact ⟨_, notes_schemaOf _
      (fun s facts => { facts with requestBody := some ⟨"Request body", true, jsonContent, s⟩ })
      (fun _ _ => rfl) fun _ _ _ => HandlerFacts.holds_setBody⟩
  · exact ⟨_, ctx.notes_id⟩

theorem noteResponse_notes (args : List Expr) :
    ∃ A, ctx.models.Notes A fun facts => ctx.noteResponse receiver vars facts args := by
  unfold noteResponse
  split
  · split
    · refine ⟨_, ctx.notes_addReply _ ?_⟩
      rintro s ⟨⟩
      exact (Schema.refsSatisfy_typed "string").withDescription _
    · generalize responseParts _ _ _ = parts
      obtain ⟨status, payload⟩ := parts
      by_cases he : isErrorValue payload = true
      · simp only [he, if_true]
        refine ⟨_, ctx.notes_addReply _ ?_⟩
        rintro s ⟨⟩
        exact Schema.refsSatisfy_errorObject
      · simp only [he]
        refine ⟨_, notes_schemaOf _
          (fun s facts => facts.addReply status (.json "Successful response" s))
          (fun _ _ => rfl) fun s facts s' hs => ?_⟩
        refine (HandlerFacts.holds_addReply hs).imp_right ?_
        rintro ⟨⟩
        rfl
  · refine ⟨_, ctx.notes_addReply _ ?_⟩
    rintro s ⟨⟩

theorem noteCall_notes (method : String) (args : List Expr) :
    ∃ A, ctx.models.Notes A fun facts => ctx.noteCall receiver vars facts method args := by
  unfold noteCall
  split
  · exact ⟨_, ctx.notes_addPathParam _ (Schema.refsSatisfy_typed _)⟩
  · exact ⟨_, ctx.notes_addPathParam _ (Schema.refsSatisfy_formatted _ _)⟩
  · exact ⟨_, ctx.notes_addPathParam _ (Schema.refsSatisfy_formatted _ _)⟩
  · exact ⟨_, ctx.notes_addPathParam _ (Schema.refsSatisfy_formatted _ _)⟩
  · exact ctx.noteBody_notes vars _
  · exact ctx.noteBody_notes vars _
  · exact ctx.noteResponse_notes receiver vars args
  · exact ⟨_, ctx.notes_addParam Schema.refsSatisfy_object⟩
  · refine ⟨_, ModelIndex.notes_of_table_eq (fun facts => ?_) fun facts s hs => ?_⟩
    · split_ifs <;> rfl
    · split_ifs at hs
      · exact .inl hs
      · refine (HandlerFacts.holds_addReply hs).imp_right ?_
        rintro ⟨⟩
        exact Schema.refsSatisfy_errorObject
  · exact ⟨_, ctx.notes_id⟩

theorem noteNode_notes (node : Node) :
    ∃ A, ctx.models.Notes A fun facts => ctx.noteNode receiver vars facts node := by
  unfold noteNode
  split
  · exact ctx.noteCall_notes receiver vars _ _
  · exact ⟨_, ctx.notes_id⟩

theorem noteNodes_notes (nodes : List Node) :
    ∃ A, ctx.models.Notes A fun facts => nodes.foldl (ctx.noteNode receiver vars) facts := by
  induction nodes with
  | nil => exact ⟨_, ctx.notes_id⟩
  | cons node rest ih =>
    obtain ⟨A, hA⟩ := ctx.noteNode_notes receiver vars node
    obtain ⟨B, hB⟩ := ih
    exact ⟨_, hA.trans hB⟩

/-- What the handler of a route tells, nothing if there is none. -/
def routeFacts (r : Route) (t : SchemaTable) : HandlerFacts :=
  match ctx.handler? r with
  | some d => ctx.handlerFacts d t
  | none => { table := t }

private theorem not_holds_start (t : SchemaTable) (s : Schema) :
    ¬ ({ table := t } : HandlerFacts).Holds s := by
  rintro (hp | hb | ⟨hr, -⟩)
  · cases hp
  · cases hb
  · cases hr

/-- The names asked for depend on the route and not on the table. -/
theorem routeFacts_grows (r : Route) : ∃ A, ∀ t, ctx.models.Sound t →
    ctx.models.Grows A t (ctx.routeFacts r t).table ∧
      ∀ s, (ctx.routeFacts r t).Holds s → ctx.models.RefersTo A s := by
  have hidle : ∃ A, ∀ t, ctx.models.Sound t → ctx.models.Grows A t t ∧
      ∀ s, ({ table := t } : HandlerFacts).Holds s → ctx.models.RefersTo A s :=
    ⟨fun _ => False, fun t ht =>
      ⟨.refl ht fun _ => False.elim, fun s hs => absurd hs (not_holds_start t s)⟩⟩
  unfold routeFacts
  cases ctx.handler? r with
  | none => exact hidle
  | some d =>
    cases hb : d.body with
    | none => simpa only [handlerFacts, hb] using hidle
    | some body =>
      simp only [handlerFacts, hb]
      obtain ⟨A, hA⟩ := ctx.noteNodes_notes (d.receiverType?.getD "")
        (ctx.variableTypes (d.receiverType?.getD "") body) (stmtNodes body)
      refine ⟨A, fun t ht => ?_⟩
      obtain ⟨hgrow, hheld⟩ := hA { table := t } ht
      exact ⟨hgrow, fun s hs => (hheld s hs).resolve_left (not_holds_start t s)⟩

private theorem mem_foldl_addParam {f : String → Param} {names : List String} {ps : List Param}
    {p : Param} (h : p ∈ names.foldl (fun ps name => addParam ps (f name)) ps) :
    p ∈ ps ∨ ∃ name, p = f name := by
  induction names generalizing ps with
  | nil => exact .inl h
  | cons name rest ih =>
    rcases ih h with h | h
    · exact (mem_of_mem_addParam h).imp_right fun h => ⟨name, h⟩
    · exact .inr h

theorem describe_grows (r : Route) : ∃ A, ∀ t, ctx.models.Sound t →
    ctx.models.Grows A t (ctx.describe r t).2 ∧
      ∀ s, (ctx.describe r t).1.Holds s → ctx.models.RefersTo A s := by
  obtain ⟨A, hA⟩ := ctx.routeFacts_grows r
  refine ⟨A, fun t ht => ?_⟩
  obtain ⟨hgrow, hheld⟩ := hA t ht
  refine ⟨hgrow, ?_⟩
  rintro s (hp | hb | ⟨hr, hs⟩)
  · rcases mem_foldl_addParam hp with hp | ⟨name, rfl⟩
    · exact hheld _ (.param hp)
    · exact Schema.refsSatisfy_typed _
  · exact hheld _ (.body hb)
  · change _ ∈ (if (ctx.routeFacts r t).responses.isEmpty then KeyMap.singleton "200" Reply.unknown
      else (ctx.routeFacts r t).responses).entries at hr
    split_ifs at hr
    · cases List.mem_singleton.mp hr
      cases hs
      exact Schema.refsSatisfy_object
    · exact hheld _ (.reply hr hs)

end Context

end RouteDoc
