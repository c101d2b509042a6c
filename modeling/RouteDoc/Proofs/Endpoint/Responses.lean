import RouteDoc.Document.Draft
import RouteDoc.Proofs.Endpoint.Independence

/-! Responses of handlers. The calls in a handler's body decide which statuses its operation documents:
the last call with a status counts, an error that is raised anywhere counts where no call does, and
what is left is filled by defaults. -/
namespace RouteDoc
open Go

/-- The arguments of a call of a method. -/
def Go.Node.callOf? (method : String) : Node → Option (List Expr)
  | .expr (.call (.selector _ name) args) => if name = method then some args else none
  | _ => none

theorem Go.Node.callOf?_eq_none_of_ne {method method' : String} {n : Node} {args : List Expr}
    (h : n.callOf? method = some args) (hne : method ≠ method') : n.callOf? method' = none := by
  unfold callOf? at h ⊢
  split at h
  · split_ifs at h with hname
    exact if_neg (hname ▸ hne)
  · cases h

/-- The status of a call `x.Response(ctx, …)`: the integer literal after the first argument, 204 where
there is no such argument, and 200 where it is something else. -/
def responseStatus : List Expr → String
  | _ :: second :: _ => second.intLiteral?.getD "200"
  | _ => "204"

/-- The reply of a handler that raises an error. -/
def Reply.failure : Reply := .json "Bad request or error response" .errorObject

/-- The schema of a type given as text, whatever the table holds. -/
def ModelIndex.textSchema (index : ModelIndex) : Option String → Schema
  | some text => Schema.shape index.nameSchema false (.ofText text)
  | none => .object

namespace Context
variable (ctx : Context) (receiver : String) (vars : KeyMap String)

/-- The reply with a value: an error by its name, anything else by its type. -/
def payloadReply (payload : Expr) : Reply :=
  if isErrorValue payload then .json "Error response" .errorObject
  else .json "Successful response" (ctx.models.textSchema (ctx.infer receiver vars payload).2)

/-- The reply of a call `x.Response(ctx, …)`. After a status comes the value, if there is one; without
a status the value comes first. -/
def replyOf : List Expr → Reply
  | _ :: second :: rest =>
    match second.intLiteral?, rest with
    | some _, [] =>
      .json "Successful response" { type := some "string", description := some "Returns \"Ok\"" }
    | some _, payload :: _ => ctx.payloadReply receiver vars payload
    | none, _ => ctx.payloadReply receiver vars second
  | _ => ⟨"No content", none, none⟩

/-- What a node does to the replies noted so far. -/
def addReplies (replies : KeyMap Reply) (n : Node) : KeyMap Reply :=
  match n.callOf? "Response", n.callOf? "APIError" with
  | some args, _ => replies.insert (responseStatus args) (ctx.replyOf receiver vars args)
  | none, some _ => replies.insertIfNew "400" .failure
  | none, none => replies

variable {facts : HandlerFacts}

theorem schemaOf_fst (hs : ctx.models.Sound facts.table) (type : Option String) :
    (facts.schemaOf ctx.models type).1 = ctx.models.textSchema type := by
  cases type with
  | none => rfl
  | some text => exact (ModelIndex.schemaOf_answers hs (TypeExpr.ofText text) none).1

theorem responses_schemaOf (type : Option String) :
    (facts.schemaOf ctx.models type).2.responses = facts.responses := by
  cases type <;> rfl

theorem responses_noteBody (target : Option Expr) :
    (ctx.noteBody vars facts target).responses = facts.responses := by
  unfold noteBody
  split
  · exact ctx.responses_schemaOf _
  · rfl

theorem responses_addPathParam (name : Option String) (schema : Schema) :
    (facts.addPathParam name schema).responses = facts.responses := by
  cases name <;> rfl

/-- A reply with a value, as it is noted. -/
private theorem responses_addPayload (hs : ctx.models.Sound facts.table) (status : String)
    {payload : Expr} (he : isErrorValue payload = false) :
    ((facts.schemaOf ctx.models (ctx.infer receiver vars payload).2).2.addReply status
        (.json "Successful response"
          (facts.schemaOf ctx.models (ctx.infer receiver vars payload).2).1)).responses =
      facts.responses.insert status (ctx.payloadReply receiver vars payload) := by
  unfold payloadReply
  rw [he, if_neg Bool.false_ne_true, ← ctx.schemaOf_fst hs, HandlerFacts.addReply,
    responses_schemaOf]

theorem responses_noteResponse (hs : ctx.models.Sound facts.table) (args : List Expr) :
    (ctx.noteResponse receiver vars facts args).responses =
      facts.responses.insert (responseStatus args) (ctx.replyOf receiver vars args) := by
  unfold noteResponse
  split
  · rename_i first second rest
    cases hint : second.intLiteral? with
    | none =>
      have hparts : responseParts first second rest = ("200", second) := by
        cases rest with
        | nil => rfl
        | cons payload rest => simp only [responseParts, hint]
      simp only [responseStatus, replyOf, hint, hparts, Option.getD_none]
      cases he : isErrorValue second with
      | true => simp only [if_true, payloadReply, he, HandlerFacts.addReply]
      | false => exact ctx.responses_addPayload receiver vars hs "200" he
    | some status =>
      cases rest with
      | nil => simp only [responseStatus, replyOf, hint, Option.getD_some, HandlerFacts.addReply]
      | cons payload rest =>
        simp only [responseStatus, replyOf, responseParts, hint, Option.getD_some]
        cases he : isErrorValue payload with
        | true => simp only [if_true, payloadReply, he, HandlerFacts.addReply]
        | false => exact ctx.responses_addPayload receiver vars hs status he
  · rename_i hshort
    cases args with
    | nil => rfl
    | cons first rest =>
      cases rest with
      | nil => rfl
      | cons second rest => exact absurd rfl (hshort first second rest)

theorem responses_noteCall (hs : ctx.models.Sound facts.table) (operand : Expr) (method : String)
    (args : List Expr) :
    (ctx.noteCall receiver vars facts method args).responses =
      ctx.addReplies receiver vars facts.responses (.expr (.call (.selector operand method) args)) := by
  unfold noteCall addReplies
  split
  · exact responses_addPathParam _ _
  · exact responses_addPathParam _ _
  · exact responses_addPathParam _ _
  · exact responses_addPathParam _ _
  · exact ctx.responses_noteBody vars _
  · exact ctx.responses_noteBody vars _
  · exact ctx.responses_noteResponse receiver vars hs args
  · rfl
  · simp only [KeyMap.insertIfNew]
    split <;> rfl
  · rename_i hresponse _ herror
    have hne : method ≠ "Response" := hresponse
    have hne' : method ≠ "APIError" := herror
    simp only [Node.callOf?, if_neg hne, if_neg hne']

theorem responses_noteNode (hs : ctx.models.Sound facts.table) (n : Node) :
    (ctx.noteNode receiver vars facts n).responses =
      ctx.addReplies receiver vars facts.responses n := by
  unfold noteNode
  split
  · exact ctx.responses_noteCall receiver vars hs _ _ _
  · rename_i hcall
    have hnone : ∀ method, n.callOf? method = none := by
      intro method
      unfold Node.callOf?
      split
      · exact absurd rfl (hcall _ _ _)
      · rfl
    rw [addReplies, hnone, hnone]

/-- The replies of a run through some nodes do not depend on the table. -/
theorem responses_noteNodes (nodes : List Node) (hs : ctx.models.Sound facts.table) :
    (nodes.foldl (ctx.noteNode receiver vars) facts).responses =
      nodes.foldl (ctx.addReplies receiver vars) facts.responses := by
  induction nodes generalizing facts with
  | nil => rfl
  | cons n nodes ih =>
    obtain ⟨A, hA⟩ := ctx.noteNode_notes receiver vars n
    have hsound : ctx.models.Sound (ctx.noteNode receiver vars facts n).table :=
      (hA facts hs).1.sound
    rw [List.foldl_cons, List.foldl_cons, ih hsound, ctx.responses_noteNode receiver vars hs]

/-- The reply of a call, if it has the given status. -/
def replyWith? (status : String) (args : List Expr) : Option Reply :=
  if responseStatus args = status then some (ctx.replyOf receiver vars args) else none

theorem get?_addReplies (replies : KeyMap Reply) (n : Node) (status : String) :
    (ctx.addReplies receiver vars replies n).get? status =
      ((n.callOf? "Response").bind (ctx.replyWith? receiver vars status)).or
        ((replies.get? status).or
          (if status = "400" ∧ (n.callOf? "APIError").isSome then some .failure else none)) := by
  unfold addReplies
  cases hresponse : n.callOf? "Response" with
  | some args =>
    have herror : n.callOf? "APIError" = none := Node.callOf?_eq_none_of_ne hresponse (by decide)
    simp only [herror, KeyMap.get?_insert_or, Option.bind_some, replyWith?, eq_comm (a := status)]
    simp
  | none =>
    cases n.callOf? "APIError" with
    | some args => simp [KeyMap.get?_insertIfNew]
    | none => simp

/-- For each status the last call with it counts, then what was noted before, then an error. -/
theorem get?_foldl_addReplies (nodes : List Node) (replies : KeyMap Reply) (status : String) :
    (nodes.foldl (ctx.addReplies receiver vars) replies).get? status =
      ((nodes.filterMap (Node.callOf? "Response")).reverse.findSome?
          (ctx.replyWith? receiver vars status)).or
        ((replies.get? status).or
          (if status = "400" ∧ nodes.any (fun n => (n.callOf? "APIError").isSome) then some .failure
            else none)) := by
  induction nodes generalizing replies with
  | nil => simp
  | cons n nodes ih =>
    have hcalls : ((n :: nodes).filterMap (Node.callOf? "Response")).reverse.findSome?
        (ctx.replyWith? receiver vars status) =
        ((nodes.filterMap (Node.callOf? "Response")).reverse.findSome?
          (ctx.replyWith? receiver vars status)).or
        ((n.callOf? "Response").bind (ctx.replyWith? receiver vars status)) := by
      cases hn : n.callOf? "Response" with
      | none => rw [List.filterMap_cons_none hn, Option.bind_none, Option.or_none]
      | some args =>
        rw [List.filterMap_cons_some hn, List.reverse_cons, List.findSome?_append, Option.bind_some,
          List.findSome?_singleton]
    have herror : (if status = "400" ∧ (n :: nodes).any (fun n => (n.callOf? "APIError").isSome)
          then some Reply.failure else none) =
        (if status = "400" ∧ (n.callOf? "APIError").isSome then some Reply.failure else none).or
        (if status = "400" ∧ nodes.any (fun n => (n.callOf? "APIError").isSome)
          then some Reply.failure else none) := by
      rw [List.any_cons]
      cases (n.callOf? "APIError").isSome with
      | true => by_cases hstatus : status = "400" <;> simp [hstatus]
      | false => simp
    rw [List.foldl_cons, ih, get?_addReplies, hcalls, herror]
    simp only [Option.or_assoc]

end Context

end RouteDoc
