import RouteDoc.Proofs.Endpoint.Growth

/-! Requests for schemas and endpoints, one after the other over one table. After any of them nothing
is in progress, and all references so far lead to entries; the answers do not depend on the requests
before. -/
namespace RouteDoc
open Disk Go

inductive Request where
  | text (text : String)
  | type (type : TypeExpr) (dir : Option FilePath)
  | route (symbols : Symbols) (layers : Layers) (route : Route)

/-- The table after some requests, with all that was answered. -/
structure History where
  table : SchemaTable := {}
  schemas : List Schema := []
  endpoints : List Endpoint := []

namespace History

def addSchema (h : History) (answer : Schema × SchemaTable) : History :=
  { h with table := answer.2, schemas := h.schemas ++ [answer.1] }

def addEndpoint (h : History) (answer : Endpoint × SchemaTable) : History :=
  { h with table := answer.2, endpoints := h.endpoints ++ [answer.1] }

def add (index : ModelIndex) (h : History) : Request → History
  | .text text => h.addSchema (index.schemaOfText text h.table)
  | .type type dir => h.addSchema (index.schemaOf type dir h.table)
  | .route symbols layers route =>
    h.addEndpoint ((Context.mk symbols layers index).describe route h.table)

/-- What holds between requests. -/
structure Closed (index : ModelIndex) (h : History) : Prop where
  sound : index.Sound h.table
  idle : h.table.inProgress = []
  schemas : ∀ s ∈ h.schemas, s.RefsSatisfy fun name => h.table.contains name = true
  endpoints : ∀ e ∈ h.endpoints, ∀ s, e.Holds s →
    s.RefsSatisfy fun name => h.table.contains name = true

variable {index : ModelIndex} {h : History}

private theorem refsSatisfy_of_refersTo {A : String → Prop} {t t' : SchemaTable} {s : Schema}
    (hgrow : index.Grows A t t') (hidle : t.inProgress = []) (hs : index.RefersTo A s) :
    s.RefsSatisfy fun name => t'.contains name = true :=
  hs.mono fun _ hn => hgrow.contains_of_idle hidle hn.1 hn.2

theorem Closed.addSchema (hc : h.Closed index) {s : Schema} {A : String → Prop}
    {answer : Schema × SchemaTable} (ha : index.Answers s A h.table answer)
    (hs : index.RefersTo A s) : (h.addSchema answer).Closed index := by
  obtain ⟨rfl, hgrow⟩ := ha
  refine ⟨hgrow.sound, hgrow.inProgress.trans hc.idle, ?_, ?_⟩
  · intro s' hs'
    rcases List.mem_append.mp hs' with hs' | hs'
    · exact (hc.schemas s' hs').mono fun _ => hgrow.contains
    · rw [List.mem_singleton.mp hs']
      exact refsSatisfy_of_refersTo hgrow hc.idle hs
  · intro e he s' hs'
    exact (hc.endpoints e he s' hs').mono fun _ => hgrow.contains

theorem Closed.addEndpoint (hc : h.Closed index) {A : String → Prop}
    {answer : Endpoint × SchemaTable} (hgrow : index.Grows A h.table answer.2)
    (hs : ∀ s, answer.1.Holds s → index.RefersTo A s) : (h.addEndpoint answer).Closed index := by
  refine ⟨hgrow.sound, hgrow.inProgress.trans hc.idle, ?_, ?_⟩
  · intro s' hs'
    exact (hc.schemas s' hs').mono fun _ => hgrow.contains
  · intro e he s' hs'
    rcases List.mem_append.mp he with he | he
    · exact (hc.endpoints e he s' hs').mono fun _ => hgrow.contains
    · rw [List.mem_singleton.mp he] at hs'
      exact refsSatisfy_of_refersTo hgrow hc.idle (hs s' hs')

theorem Closed.add (hc : h.Closed index) (r : Request) : (h.add index r).Closed index := by
  cases r with
  | text text =>
    exact hc.addSchema (ModelIndex.schemaOf_answers hc.sound _ none) (index.refersTo_shape _)
  | type type dir =>
    exact hc.addSchema (ModelIndex.schemaOf_answers hc.sound type dir) (index.refersTo_shape type)
  | route symbols layers route =>
    obtain ⟨A, hA⟩ := (Context.mk symbols layers index).describe_grows route
    obtain ⟨hgrow, hs⟩ := hA h.table hc.sound
    exact hc.addEndpoint hgrow hs

end History

namespace ModelIndex

/-- Requests over a new table. -/
def serve (index : ModelIndex) (requests : List Request) : History :=
  requests.foldl (History.add index) {}

theorem serve_append (index : ModelIndex) (requests more : List Request) :
    index.serve (requests ++ more) = more.foldl (History.add index) (index.serve requests) :=
  List.foldl_append

theorem serve_closed (index : ModelIndex) (requests : List Request) :
    (index.serve requests).Closed index := by
  have hstart : ({} : History).Closed index := by
    refine ⟨index.sound_empty, rfl, ?_, ?_⟩
    · intro s hs
      cases hs
    · intro e he
      cases he
  unfold serve
  generalize ({} : History) = h at hstart
  induction requests generalizing h with
  | nil => exact hstart
  | cons r rest ih => exact ih _ (hstart.add r)

/-- The schema of a type is a function of the type alone: whatever was asked for before and wherever
the type is used, the table has no part in it. -/
theorem schemaOf_history_independent (index : ModelIndex) :
    ∃ g : TypeExpr → Schema, Schema.IsShape index.nameSchema g ∧
      ∀ (requests : List Request) (type : TypeExpr) (dir : Option FilePath),
        (index.schemaOf type dir (index.serve requests).table).1 = g type := by
  refine ⟨Schema.shape index.nameSchema false, Schema.isShape_shape _, ?_⟩
  intro requests type dir
  have hsound := (index.serve_closed requests).sound
  exact (schemaOf_answers hsound type dir).1

end ModelIndex

end RouteDoc
