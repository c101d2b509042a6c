import RouteDoc.Proofs.Endpoint.Responses

/-! Responses of operations. Which statuses an operation documents, and what for each of them, is
decided by the calls in the handler's body, whatever their order and nesting and whatever was asked
for before. -/
namespace RouteDoc
open Go

namespace Context
variable (ctx : Context) (r : Route)

/-- The body of the handler, empty if there is none. -/
def handlerBody : List Stmt := ((ctx.handler? r).bind FuncDecl.body).getD []

def handlerReceiver : String := ((ctx.handler? r).bind FuncDecl.receiverType?).getD ""

def handlerVars : KeyMap String := ctx.variableTypes (ctx.handlerReceiver r) (ctx.handlerBody r)

/-- The arguments of the calls `x.Response(…)` anywhere in the handler, in source order. -/
def responseCalls : List (List Expr) :=
  (stmtNodes (ctx.handlerBody r)).filterMap (Node.callOf? "Response")

/-- There is a call `x.APIError(…)` anywhere in the handler. -/
def raisesError : Bool :=
  (stmtNodes (ctx.handlerBody r)).any fun n => (n.callOf? "APIError").isSome

/-- The reply of a call in the handler. -/
def handlerReply (args : List Expr) : Reply :=
  ctx.replyOf (ctx.handlerReceiver r) (ctx.handlerVars r) args

/-- The reply that is documented for a status. A call counts before an error that is raised, and the
last call before the others; statuses for which there is neither get a default. -/
inductive Documents : String → Reply → Prop where
  | call {earlier later : List (List Expr)} {args : List Expr}
      (h : ctx.responseCalls r = earlier ++ args :: later)
      (hlast : ∀ args' ∈ later, responseStatus args' ≠ responseStatus args) :
      Documents (responseStatus args) (ctx.handlerReply r args)
  | failure (h : ctx.raisesError r = true)
      (hcalls : ∀ args ∈ ctx.responseCalls r, responseStatus args ≠ "400") :
      Documents "400" .failure
  | badRequest (h : ctx.raisesError r = false)
      (hcalls : ∀ args ∈ ctx.responseCalls r, responseStatus args ≠ "400") :
      Documents "400" (.json "Bad Request" .errorObject)
  | success (h : ctx.raisesError r = false) (hcalls : ctx.responseCalls r = []) :
      Documents "200" .unknown

/-- The last reply of a call with a status. -/
def lastReply? (status : String) : Option Reply :=
  (ctx.responseCalls r).reverse.findSome?
    (ctx.replyWith? (ctx.handlerReceiver r) (ctx.handlerVars r) status)

variable {ctx r}

theorem lastReply?_eq_none_iff {status : String} :
    ctx.lastReply? r status = none ↔
      ∀ args ∈ ctx.responseCalls r, responseStatus args ≠ status := by
  simp [lastReply?, replyWith?]

theorem lastReply?_eq_some_iff {status : String} {reply : Reply} :
    ctx.lastReply? r status = some reply ↔
      ∃ earlier args later, ctx.responseCalls r = earlier ++ args :: later ∧
        (∀ args' ∈ later, responseStatus args' ≠ responseStatus args) ∧
        responseStatus args = status ∧ ctx.handlerReply r args = reply := by
  have hwith : ∀ args reply, ctx.replyWith? (ctx.handlerReceiver r) (ctx.handlerVars r) status args =
      some reply ↔ responseStatus args = status ∧ ctx.handlerReply r args = reply := by
    intro args reply
    simp [replyWith?, handlerReply]
  have hwithout : ∀ args, ctx.replyWith? (ctx.handlerReceiver r) (ctx.handlerVars r) status args =
      none ↔ responseStatus args ≠ status := by
    intro args
    simp [replyWith?]
  rw [lastReply?, List.findSome?_eq_some_iff]
  simp only [hwith, hwithout]
  constructor
  · rintro ⟨later, args, earlier, hcalls, ⟨rfl, hreply⟩, hlater⟩
    have horder := congrArg List.reverse hcalls
    rw [List.reverse_reverse, List.reverse_append, List.reverse_cons, List.append_assoc,
      List.singleton_append] at horder
    exact ⟨earlier.reverse, args, later.reverse, horder,
      fun args' hargs' => hlater args' (List.mem_reverse.mp hargs'), rfl, hreply⟩
  · rintro ⟨earlier, args, later, hcalls, hlater, rfl, hreply⟩
    refine ⟨later.reverse, args, earlier.reverse, ?_, ⟨rfl, hreply⟩,
      fun args' hargs' => hlater args' (List.mem_reverse.mp hargs')⟩
    rw [hcalls, List.reverse_append, List.reverse_cons, List.append_assoc, List.singleton_append]

variable (ctx r)

theorem responses_routeFacts {t : SchemaTable} (ht : ctx.models.Sound t) :
    (ctx.routeFacts r t).responses =
      (stmtNodes (ctx.handlerBody r)).foldl
        (ctx.addReplies (ctx.handlerReceiver r) (ctx.handlerVars r)) {} := by
  unfold routeFacts handlerVars handlerReceiver handlerBody
  cases ctx.handler? r with
  | none => simp [stmtNodes]
  | some d =>
    cases hbody : d.body with
    | none => simp [handlerFacts, hbody, stmtNodes]
    | some body =>
      simp only [handlerFacts, hbody, Option.bind_some, Option.getD_some]
      exact ctx.responses_noteNodes _ _ (stmtNodes body) ht

theorem get?_responses_routeFacts {t : SchemaTable} (ht : ctx.models.Sound t) (status : String) :
    (ctx.routeFacts r t).responses.get? status =
      (ctx.lastReply? r status).or
        (if status = "400" ∧ ctx.raisesError r then some .failure else none) := by
  rw [ctx.responses_routeFacts r ht, get?_foldl_addReplies]
  rfl

theorem isEmpty_responses_routeFacts {t : SchemaTable} (ht : ctx.models.Sound t) :
    (ctx.routeFacts r t).responses.isEmpty = true ↔
      ctx.responseCalls r = [] ∧ ctx.raisesError r = false := by
  have hnone : ∀ status, (ctx.routeFacts r t).responses.contains status = false ↔
      (∀ args ∈ ctx.responseCalls r, responseStatus args ≠ status) ∧
        ¬(status = "400" ∧ ctx.raisesError r = true) := by
    intro status
    rw [KeyMap.contains, Option.isSome_eq_false_iff, Option.isNone_iff_eq_none,
      ctx.get?_responses_routeFacts r ht, Option.or_eq_none_iff, lastReply?_eq_none_iff]
    simp
  rw [KeyMap.isEmpty_iff]
  simp only [hnone]
  constructor
  · intro h
    refine ⟨List.eq_nil_iff_forall_not_mem.mpr fun args hargs => ?_, ?_⟩
    · exact (h (responseStatus args)).1 args hargs rfl
    · exact Bool.eq_false_iff.mpr fun hraises => (h "400").2 ⟨rfl, hraises⟩
  · rintro ⟨hcalls, hraises⟩ status
    simp [hcalls, hraises]

/-- A handler that neither responds nor raises an error. -/
private theorem documents_iff_of_silent (hcalls : ctx.responseCalls r = [])
    (hraises : ctx.raisesError r = false) {status : String} {reply : Reply} :
    ctx.Documents r status reply ↔
      (if status = "200" then some Reply.unknown else none).or
        (if status = "400" then some (.json "Bad Request" .errorObject) else none) = some reply := by
  constructor
  · intro h
    cases h with
    | call h => simp [hcalls] at h
    | failure h => simp [hraises] at h
    | badRequest => rfl
    | success => rfl
  · intro h
    by_cases h200 : status = "200"
    · rw [if_pos h200, Option.some_or] at h
      cases h
      exact h200 ▸ .success hraises hcalls
    · rw [if_neg h200, Option.none_or] at h
      split_ifs at h with h400
      cases h
      exact h400 ▸ .badRequest hraises (by simp [hcalls])

/-- Without a call for the status only an error response can be documented. -/
private theorem documents_of_no_call {status : String} {reply : Reply}
    (hcalls : ∀ args ∈ ctx.responseCalls r, responseStatus args ≠ status)
    (h : (if status = "400" ∧ ctx.raisesError r then some Reply.failure else none).or
      (if status = "400" then some (.json "Bad Request" .errorObject) else none) = some reply) :
    ctx.Documents r status reply := by
  by_cases h400 : status = "400"
  · subst h400
    cases hraises : ctx.raisesError r with
    | true =>
      simp only [hraises, and_self, if_true, Option.some_or] at h
      cases h
      exact .failure hraises hcalls
    | false =>
      simp only [hraises, Bool.false_eq_true, and_false, if_false, if_true, Option.none_or] at h
      cases h
      exact .badRequest hraises hcalls
  · simp [h400] at h

private theorem documents_iff_of_not_silent
    (hsilent : ¬(ctx.responseCalls r = [] ∧ ctx.raisesError r = false)) {status : String}
    {reply : Reply} :
    ctx.Documents r status reply ↔
      (ctx.lastReply? r status).or
        ((if status = "400" ∧ ctx.raisesError r then some .failure else none).or
          (if status = "400" then some (.json "Bad Request" .errorObject) else none)) =
        some reply := by
  constructor
  · intro h
    cases h with
    | call h hlast =>
      rw [lastReply?_eq_some_iff.mpr ⟨_, _, _, h, hlast, rfl, rfl⟩, Option.some_or]
    | failure h hcalls => simp [lastReply?_eq_none_iff.mpr hcalls, h]
    | badRequest h hcalls => simp [lastReply?_eq_none_iff.mpr hcalls, h]
    | success h hcalls => exact absurd ⟨hcalls, h⟩ hsilent
  · intro h
    cases hlast : ctx.lastReply? r status with
    | some reply' =>
      rw [hlast, Option.some_or] at h
      cases h
      obtain ⟨earlier, args, later, hcalls, hlater, rfl, rfl⟩ := lastReply?_eq_some_iff.mp hlast
      exact .call hcalls hlater
    | none =>
      rw [hlast, Option.none_or] at h
      exact ctx.documents_of_no_call r (lastReply?_eq_none_iff.mp hlast) h

/-- The replies of an endpoint, with the default that its operation adds to them. -/
theorem documents_iff {t : SchemaTable} (ht : ctx.models.Sound t) {status : String} {reply : Reply} :
    ctx.Documents r status reply ↔
      ((ctx.describe r t).1.responses.get? status).or
        (if status = "400" then some (.json "Bad Request" .errorObject) else none) = some reply := by
  have hdescribe : (ctx.describe r t).1.responses =
      if (ctx.routeFacts r t).responses.isEmpty then .singleton "200" .unknown
      else (ctx.routeFacts r t).responses := rfl
  have hempty := ctx.isEmpty_responses_routeFacts r ht
  by_cases hsilent : ctx.responseCalls r = [] ∧ ctx.raisesError r = false
  · have hget : (ctx.describe r t).1.responses.get? status =
        if status = "200" then some .unknown else none := by
      rw [hdescribe, if_pos (hempty.mpr hsilent)]
      exact KeyMap.get?_insert {} "200" status Reply.unknown
    rw [hget]
    exact ctx.documents_iff_of_silent r hsilent.1 hsilent.2
  · have hget : (ctx.describe r t).1.responses.get? status = (ctx.lastReply? r status).or
        (if status = "400" ∧ ctx.raisesError r then some .failure else none) := by
      rw [hdescribe, if_neg (mt hempty.mp hsilent), ctx.get?_responses_routeFacts r ht]
    rw [hget, Option.or_assoc]
    exact ctx.documents_iff_of_not_silent r hsilent

end Context

/-- The status is that of an error. -/
def IsErrorStatus (status : String) : Prop :=
  status.toList.head? = some '4' ∨ status.toList.head? = some '5'

/-- An object with one property `data`. -/
def Schema.data (s : Schema) : Schema :=
  { type := some "object", properties := some [("data", s)] }

theorem Schema.ne_data (s : Schema) : s ≠ s.data := by
  intro h
  have hsize := congrArg sizeOf h
  simp only [Schema.data, Schema.mk.sizeOf_spec, Option.some.sizeOf_spec, List.cons.sizeOf_spec,
    Prod.mk.sizeOf_spec] at hsize
  omega

theorem wrapResponse_of_isErrorStatus {status : String} (h : IsErrorStatus status) (s : Schema) :
    wrapResponse s status = s := by
  rcases h with h | h
  · obtain ⟨rest, hrest⟩ := List.head?_eq_some_iff.mp h
    simp only [wrapResponse, hrest]
  · obtain ⟨rest, hrest⟩ := List.head?_eq_some_iff.mp h
    simp only [wrapResponse, hrest]

theorem wrapResponse_of_not_isErrorStatus {status : String} (h : ¬IsErrorStatus status)
    (s : Schema) : wrapResponse s status = s.data := by
  unfold wrapResponse
  split
  · rename_i rest hstatus
    exact absurd (.inl (by rw [hstatus]; rfl)) h
  · rename_i rest hstatus
    exact absurd (.inr (by rw [hstatus]; rfl)) h
  · rfl

theorem wrapResponse_eq_iff {s shown : Schema} {status : String} :
    shown = wrapResponse s status ↔
      (shown = s ↔ IsErrorStatus status) ∧ (shown = s.data ↔ ¬IsErrorStatus status) := by
  have hne := s.ne_data
  by_cases h : IsErrorStatus status
  · rw [wrapResponse_of_isErrorStatus h]
    constructor
    · rintro rfl
      simp [h, hne]
    · rintro ⟨hshown, -⟩
      exact hshown.mpr h
  · rw [wrapResponse_of_not_isErrorStatus h]
    constructor
    · rintro rfl
      simp [h, hne.symm]
    · rintro ⟨-, hshown⟩
      exact hshown.mpr h

/-- How a response shows a reply. The schema of its body stands under `data` unless the status is that
of an error. -/
structure Response.Shows (response : Response) (status : String) (reply : Reply) : Prop where
  description : response.description = reply.description
  empty : reply.contentType = none ∨ reply.schema = none → response.content = none
  body : ∀ type schema, reply.contentType = some type → reply.schema = some schema →
    ∃ shown, response.content = some (.singleton type shown) ∧
      (shown = schema ↔ IsErrorStatus status) ∧ (shown = schema.data ↔ ¬IsErrorStatus status)

theorem Response.shows_iff {response : Response} {status : String} {reply : Reply} :
    response.Shows status reply ↔ response = reply.toResponse status := by
  obtain ⟨description, content⟩ := response
  obtain ⟨text, contentType, schema⟩ := reply
  constructor
  · rintro ⟨hdescription, hempty, hbody⟩
    cases hdescription
    cases contentType with
    | none =>
      have hcontent : content = none := hempty (.inl rfl)
      rw [hcontent]
      rfl
    | some type =>
      cases schema with
      | none =>
        have hcontent : content = none := hempty (.inr rfl)
        rw [hcontent]
        rfl
      | some schema =>
        obtain ⟨shown, hcontent, hshown⟩ := hbody type schema rfl rfl
        have hwrap := wrapResponse_eq_iff.mpr hshown
        have hcontent : content = some (.singleton type shown) := hcontent
        rw [hcontent, hwrap]
        rfl
  · intro h
    rw [h]
    refine ⟨rfl, ?_, ?_⟩
    · intro hnone
      rcases hnone with rfl | rfl
      · rfl
      · cases contentType <;> rfl
    · rintro type schema rfl rfl
      exact ⟨_, rfl, wrapResponse_eq_iff.mp rfl⟩

theorem Endpoint.get?_responseMap (e : Endpoint) (status : String) :
    e.responseMap.get? status = ((e.responses.get? status).map (·.toResponse status)).or
      (if status = "400" then some badRequest else none) := by
  unfold responseMap
  rw [KeyMap.get?_insertIfNew]
  exact congrArg (Option.or · _)
    (e.responses.get?_ofList_map (fun status r => r.toResponse status) status)

theorem badRequest_eq : badRequest = (Reply.json "Bad Request" .errorObject).toResponse "400" := by
  have hstatus : IsErrorStatus "400" := .inl rfl
  change _ = Response.mk "Bad Request" (some (.singleton jsonContent (wrapResponse _ "400")))
  rw [wrapResponse_of_isErrorStatus hstatus]
  rfl

namespace Context
variable (ctx : Context) (r : Route)

theorem get?_responses_toOperation (t : SchemaTable) (status : String) :
    (ctx.describe r t).1.toOperation.responses.get? status =
      (((ctx.describe r t).1.responses.get? status).or
        (if status = "400" then some (.json "Bad Request" .errorObject) else none)).map
          (·.toResponse status) := by
  rw [Option.map_or]
  refine (Endpoint.get?_responseMap _ status).trans ?_
  by_cases h400 : status = "400"
  · rw [if_pos h400, if_pos h400, badRequest_eq, Option.map_some, h400]
  · rw [if_neg h400, if_neg h400, Option.map_none]

theorem exists_documents_iff {status : String} :
    (∃ reply, ctx.Documents r status reply) ↔
      (∃ args ∈ ctx.responseCalls r, responseStatus args = status) ∨ status = "400" ∨
        (status = "200" ∧ ctx.responseCalls r = [] ∧ ctx.raisesError r = false) := by
  constructor
  · rintro ⟨reply, h⟩
    cases h with
    | call h => exact .inl ⟨_, by simp [h], rfl⟩
    | failure => exact .inr (.inl rfl)
    | badRequest => exact .inr (.inl rfl)
    | success h hcalls => exact .inr (.inr ⟨rfl, hcalls, h⟩)
  · intro h
    cases hlast : ctx.lastReply? r status with
    | some reply =>
      obtain ⟨earlier, args, later, hcalls, hlater, rfl, -⟩ := lastReply?_eq_some_iff.mp hlast
      exact ⟨_, .call hcalls hlater⟩
    | none =>
      have hnone := lastReply?_eq_none_iff.mp hlast
      rcases h with ⟨args, hargs, hstatus⟩ | rfl | ⟨rfl, hcalls, hraises⟩
      · exact absurd hstatus (hnone args hargs)
      · cases hraises : ctx.raisesError r with
        | true => exact ⟨_, .failure hraises hnone⟩
        | false => exact ⟨_, .badRequest hraises hnone⟩
      · exact ⟨_, .success hraises hcalls⟩

/-- An operation has the responses that its handler documents and no others, whatever was asked for
before. Its statuses are those of the calls, 400, and 200 where the handler tells nothing. -/
theorem responses_exact (requests : List Request) :
    let op := (ctx.describe r (ctx.models.serve requests).table).1.toOperation
    (∀ status response, op.responses.get? status = some response ↔
      ∃ reply, ctx.Documents r status reply ∧ response.Shows status reply) ∧
    (∀ status, op.responses.contains status = true ↔
      (∃ args ∈ ctx.responseCalls r, responseStatus args = status) ∨ status = "400" ∨
        (status = "200" ∧ ctx.responseCalls r = [] ∧ ctx.raisesError r = false)) := by
  intro op
  have ht := (ctx.models.serve_closed requests).sound
  have hget : ∀ status response, op.responses.get? status = some response ↔
      ∃ reply, ctx.Documents r status reply ∧ response.Shows status reply := by
    intro status response
    rw [ctx.get?_responses_toOperation, Option.map_eq_some_iff]
    simp only [ctx.documents_iff r ht, Response.shows_iff, eq_comm]
  refine ⟨hget, fun status => ?_⟩
  rw [KeyMap.contains_iff_exists, ← exists_documents_iff]
  simp only [hget, Response.shows_iff]
  constructor
  · rintro ⟨response, reply, hreply, -⟩
    exact ⟨reply, hreply⟩
  · rintro ⟨reply, hreply⟩
    exact ⟨_, reply, hreply, rfl⟩

end Context

end RouteDoc
