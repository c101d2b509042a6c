import RouteDoc.Endpoint.Describe
import RouteDoc.Proofs.Go.Walk
import RouteDoc.Proofs.Symbols

/-! Routes beside a further file. What a description looks up in the symbols of a directory is the
handler, the fields of its receiver and the packages in the types of its body, and nothing else. -/
namespace RouteDoc
open Go

namespace Go

/-- The types that stand in a node itself: those of declared variables and of a composite literal. -/
def Node.types : Node → List TypeExpr
  | .stmt (.var specs) => specs.filterMap ValueSpec.type
  | .expr (.composite (some type) _) => [type]
  | _ => []

/-- The packages that qualify types in the body of a function. -/
def FuncDecl.packages (d : FuncDecl) : List String :=
  (stmtNodes (d.body.getD [])).flatMap fun n => n.types.flatMap TypeExpr.packages

end Go

theorem stripAddress_mem_nodes (e : Expr) : .expr (stripAddress e) ∈ (Node.expr e).nodes := by
  fun_induction stripAddress e with
  | case1 operand ih => exact Node.nodes_subset_of_mem_children List.mem_cons_self ih
  | case2 op operand hop => exact Node.self_mem_nodes _
  | case3 inner ih => exact Node.nodes_subset_of_mem_children List.mem_cons_self ih
  | case4 e _ _ => exact Node.self_mem_nodes _

/-- Two tables agree on the fields of a receiver and on the types in some nodes. -/
structure Symbols.AgreeOn (s s' : Symbols) (receiver : String) (nodes : List Go.Node) : Prop where
  fields : ∀ field, s.fieldType? receiver field = s'.fieldType? receiver field
  types : ∀ n ∈ nodes, ∀ t ∈ n.types, s.typeText t = s'.typeText t

namespace Symbols.AgreeOn
variable {s s' : Symbols} {receiver : String}

theorem mono {nodes nodes' : List Go.Node} (h : s.AgreeOn s' receiver nodes) (hsub : nodes' ⊆ nodes) :
    s.AgreeOn s' receiver nodes' :=
  ⟨h.fields, fun n hn => h.types n (hsub hn)⟩

theorem child {c n : Go.Node} (h : s.AgreeOn s' receiver n.nodes) (hc : c ∈ n.children) :
    s.AgreeOn s' receiver c.nodes :=
  h.mono (Node.nodes_subset_of_mem_children hc)

theorem typeText_composite {type : TypeExpr} {elements : List Expr} {nodes : List Go.Node}
    (h : s.AgreeOn s' receiver nodes) (hmem : .expr (.composite (some type) elements) ∈ nodes) :
    s.typeText type = s'.typeText type :=
  h.types _ hmem type List.mem_cons_self

end Symbols.AgreeOn

namespace Context
variable {s s' : Symbols} {layers : Layers} {models : ModelIndex} {receiver : String}

theorem infer_of_agreeOn {e : Expr} (h : s.AgreeOn s' receiver (Node.expr e).nodes)
    (vars : KeyMap String) :
    (mk s layers models).infer receiver vars e = (mk s' layers models).infer receiver vars e := by
  have htype : ∀ strategy, (mk s layers models).typeBy? receiver vars strategy e =
      (mk s' layers models).typeBy? receiver vars strategy e := by
    intro strategy
    have hmem := stripAddress_mem_nodes e
    unfold typeBy?
    generalize stripAddress e = e' at hmem
    cases strategy with
    | declaredType =>
      dsimp only
      split
      · exact congrArg some (h.typeText_composite hmem)
      · rfl
      · rfl
    | businessLayer => simp only [h.fields]
    | _ => rfl
  unfold infer
  simp only [htype]

theorem bindValue_of_agreeOn {value : Expr} (h : s.AgreeOn s' receiver (Node.expr value).nodes)
    (vars : KeyMap String) (name : String) :
    (mk s layers models).bindValue receiver vars name value =
      (mk s' layers models).bindValue receiver vars name value := by
  unfold bindValue
  rw [infer_of_agreeOn h]

theorem bindSpec_of_agreeOn {specs : List ValueSpec}
    (h : s.AgreeOn s' receiver (Node.stmt (.var specs)).nodes) {spec : ValueSpec} (hspec : spec ∈ specs)
    (vars : KeyMap String) :
    (mk s layers models).bindSpec receiver vars spec =
      (mk s' layers models).bindSpec receiver vars spec := by
  unfold bindSpec
  cases htype : spec.type with
  | some type =>
    have hmem : type ∈ (Node.stmt (.var specs)).types := List.mem_filterMap.mpr ⟨spec, hspec, htype⟩
    dsimp only
    rw [h.types _ (Node.self_mem_nodes _) type hmem]
  | none =>
    refine List.foldl_ext _ _ vars fun vars binding hbinding => ?_
    have hvalue := (List.of_mem_zip hbinding).2
    have hchild : .expr binding.2 ∈ (Node.stmt (.var specs)).children :=
      List.mem_map_of_mem (List.mem_flatMap.mpr ⟨spec, hspec, hvalue⟩)
    exact bindValue_of_agreeOn (h.child hchild) vars binding.1

theorem bindNode_of_agreeOn {n : Go.Node} (h : s.AgreeOn s' receiver n.nodes) (vars : KeyMap String) :
    (mk s layers models).bindNode receiver vars n = (mk s' layers models).bindNode receiver vars n := by
  unfold bindNode
  split
  · exact List.foldl_ext _ _ vars fun vars spec hspec => bindSpec_of_agreeOn h hspec vars
  · split
    · refine bindValue_of_agreeOn (h.child ?_) vars _
      exact List.mem_map_of_mem (List.mem_append_right _ List.mem_cons_self)
    · rfl
  · refine List.foldl_ext _ _ vars fun vars binding hbinding => ?_
    have hvalue := (List.of_mem_zip hbinding).2
    dsimp only
    split
    · exact bindValue_of_agreeOn
        (h.child (List.mem_map_of_mem (List.mem_append_right _ hvalue))) vars _
    · rfl
  · rfl

theorem variableTypes_of_agreeOn {body : List Stmt} (h : s.AgreeOn s' receiver (stmtNodes body)) :
    (mk s layers models).variableTypes receiver body =
      (mk s' layers models).variableTypes receiver body :=
  List.foldl_ext _ _ _ fun vars _ hn => bindNode_of_agreeOn (h.mono (nodes_subset_stmtNodes hn)) vars

variable {vars : KeyMap String} {facts : HandlerFacts}

theorem noteBody_of_agreeOn {target : Option Expr}
    (h : ∀ e ∈ target, s.AgreeOn s' receiver (Node.expr e).nodes) :
    (mk s layers models).noteBody vars facts target =
      (mk s' layers models).noteBody vars facts target := by
  unfold noteBody
  split
  · rename_i operand
    have hoperand : Node.expr operand ∈ (Node.expr (.unary "&" operand)).children := List.mem_cons_self
    have hagree := (h _ rfl).child hoperand
    cases operand with
    | composite type elements =>
      cases type with
      | none => rfl
      | some type =>
        dsimp only
        rw [hagree.typeText_composite (Node.self_mem_nodes _)]
    | _ => rfl
  · rfl

theorem noteResponse_of_agreeOn {args : List Expr}
    (h : ∀ e ∈ args, s.AgreeOn s' receiver (Node.expr e).nodes) :
    (mk s layers models).noteResponse receiver vars facts args =
      (mk s' layers models).noteResponse receiver vars facts args := by
  unfold noteResponse
  split
  · rename_i first second rest
    have hpayload : (responseParts first second rest).2 ∈ first :: second :: rest := by
      unfold responseParts
      split
      · simp
      · split <;> simp
    split
    · rfl
    · dsimp only
      rw [infer_of_agreeOn (h _ hpayload)]
  · rfl

theorem noteNode_of_agreeOn {n : Go.Node} (h : s.AgreeOn s' receiver n.nodes) :
    (mk s layers models).noteNode receiver vars facts n =
      (mk s' layers models).noteNode receiver vars facts n := by
  unfold noteNode
  split
  · rename_i operand method args
    have hargs : ∀ e ∈ args, s.AgreeOn s' receiver (Node.expr e).nodes := fun e he =>
      h.child (List.mem_cons_of_mem _ (List.mem_map_of_mem he))
    have hbody : ∀ i, (mk s layers models).noteBody vars facts args[i]? =
        (mk s' layers models).noteBody vars facts args[i]? := fun i =>
      noteBody_of_agreeOn fun e he => hargs e (List.mem_of_getElem? he)
    unfold noteCall
    rw [hbody, hbody, noteResponse_of_agreeOn hargs]
  · rfl

theorem handlerFacts_of_agreeOn {d : FuncDecl}
    (h : s.AgreeOn s' (d.receiverType?.getD "") (stmtNodes (d.body.getD []))) (t : SchemaTable) :
    (mk s layers models).handlerFacts d t = (mk s' layers models).handlerFacts d t := by
  unfold handlerFacts
  cases hbody : d.body with
  | none => rfl
  | some body =>
    rw [hbody, Option.getD_some] at h
    dsimp only
    rw [variableTypes_of_agreeOn h]
    exact List.foldl_ext _ _ _ fun facts n hn =>
      noteNode_of_agreeOn (h.mono (nodes_subset_stmtNodes hn))

/-- A description needs the handler, and agreement on what its body names. -/
theorem describe_of_agreeOn {r : Route} (hhandler : s.function? r.handler = s'.function? r.handler)
    (h : ∀ d, s'.function? r.handler = some d →
      s.AgreeOn s' (d.receiverType?.getD "") (stmtNodes (d.body.getD []))) (t : SchemaTable) :
    (mk s layers models).describe r t = (mk s' layers models).describe r t := by
  have hsame : (mk s layers models).handler? r = (mk s' layers models).handler? r := by
    unfold handler?
    rw [hhandler]
  unfold describe
  rw [hsame]
  cases hd : (mk s' layers models).handler? r with
  | none => rfl
  | some d =>
    have hfunction : s'.function? r.handler = some d := by
      unfold handler? at hd
      split_ifs at hd
      exact hd
    simp only [handlerFacts_of_agreeOn (h d hfunction)]

end Context

namespace Symbols
variable {before after : List File} {g : File}

/-- A further file that declares no struct of the receiver's type, and that leaves the packages in the
body of a function as they are. -/
structure LeavesBody (before : List File) (g : File) (after : List File) (d : FuncDecl) : Prop where
  receiver : ∀ spec ∈ g.types, spec.isStruct = true → spec.name ≠ d.receiverType?.getD ""
  imports : ∀ name ∈ d.packages, LeavesImport before g after name

theorem LeavesBody.agreeOn {d : FuncDecl} (h : LeavesBody before g after d) :
    (ofFiles (before ++ g :: after)).AgreeOn (ofFiles (before ++ after)) (d.receiverType?.getD "")
      (stmtNodes (d.body.getD [])) where
  fields := fieldType?_insert h.receiver
  types := fun n hn t ht => typeText_eq fun package hpackage =>
    resolve_insert_iff.mpr (h.imports package
      (List.mem_flatMap.mpr ⟨n, hn, List.mem_flatMap.mpr ⟨t, ht, hpackage⟩⟩))

end Symbols

namespace Context
open Symbols

/-- A further file, wherever it comes among the files of a directory, changes nothing about a route
whose handler another file declares, if it declares neither a function of the handler's name nor the
struct of its receiver, and the packages in the types of its body stay the same. -/
theorem describe_insert_file {before after : List File} {g : File} {r : Route} {d : FuncDecl}
    (hdeclared : (ofFiles (before ++ after)).function? r.handler = some d)
    (hname : ∀ d ∈ g.functions, d.name ≠ r.handler) (hbody : LeavesBody before g after d)
    (layers : Layers) (models : ModelIndex) (t : SchemaTable) :
    (mk (ofFiles (before ++ g :: after)) layers models).describe r t =
      (mk (ofFiles (before ++ after)) layers models).describe r t := by
  refine describe_of_agreeOn (function?_insert hname) ?_ t
  intro d' hd'
  rw [hdeclared] at hd'
  cases hd'
  exact hbody.agreeOn

/-- A method that answers with one value. -/
def answering (receiver name : String) (value : Expr) : FuncDecl :=
  ⟨name, some ⟨some "c", .pointer (.named receiver)⟩, [], [],
    some [.ret [.call (.selector (.ident "http") "Response") [.ident "ctx", value]]], [], 1⟩

/-- A file with one handler, which answers with a value of type `t.Time`. -/
def timeFile (handler path : String) : File :=
  ⟨"ms_clock", [⟨some "t", path⟩],
    [.func (answering "ClockController" handler (.composite (some (.qualified "t" "Time")) []))]⟩

def structFile (name : String) (fields : List Field) : File :=
  ⟨"ms_clock", [], [.type ⟨name, .struct fields, [], false⟩]⟩

def getClock : Route := ⟨"/clock", .get, "GetClock", "ms_clock", []⟩

/-- The format of what is returned on success. -/
def successFormat? (e : Endpoint) : Option String :=
  ((e.responses.get? "200").bind Reply.schema).bind Schema.format

/-- Between the file of a handler and that of its receiver comes one that imports the same package
under the same name. -/
theorem describe_insert_file_clock :
    (mk (ofFiles [timeFile "GetClock" "time", timeFile "GetTimer" "time",
        structFile "ClockController" []]) {} ⟨"models", []⟩).describe getClock {} =
      (mk (ofFiles [timeFile "GetClock" "time", structFile "ClockController" []]) {}
        ⟨"models", []⟩).describe getClock {} ∧
    successFormat? ((mk (ofFiles [timeFile "GetClock" "time", structFile "ClockController" []]) {}
      ⟨"models", []⟩).describe getClock {}).1 = some "date-time" := by
  refine ⟨?_, by decide +kernel⟩
  have hbody : LeavesBody [timeFile "GetClock" "time"] (timeFile "GetTimer" "time")
      [structFile "ClockController" []]
      (answering "ClockController" "GetClock" (.composite (some (.qualified "t" "Time")) [])) := by
    refine ⟨by decide, fun name hname => ?_⟩
    obtain rfl : name = "t" := List.mem_singleton.mp hname
    intro package hpackage
    obtain rfl : "time" = package := Option.some.inj hpackage
    exact .inr (by decide +kernel)
  exact describe_insert_file rfl (by decide) hbody {} ⟨"models", []⟩ {}

/-- A file without functions that imports another package under the name, or declares the struct of
the receiver, makes a difference. -/
theorem describe_append_file_ne :
    (mk (ofFiles [timeFile "GetClock" "time", ⟨"ms_clock", [⟨some "t", "shop/timers"⟩], []⟩]) {}
        ⟨"models", []⟩).describe getClock {} ≠
      (mk (ofFiles [timeFile "GetClock" "time"]) {} ⟨"models", []⟩).describe getClock {} ∧
    let layers := Layers.add {} "clock" "ClockBusinessLayer" "Ticks" ["int", "error"]
    let ticks : File := ⟨"ms_clock", [], [.func (answering "ClockController" "GetClock"
      (.call (.selector (.selector (.ident "c") "clock") "Ticks") []))]⟩
    let controller := structFile "ClockController"
      [⟨["clock"], .pointer (.qualified "clock" "ClockBusinessLayer"), none, []⟩]
    (mk (ofFiles [ticks, controller]) layers ⟨"models", []⟩).describe getClock {} ≠
      (mk (ofFiles [ticks]) layers ⟨"models", []⟩).describe getClock {} := by
  refine ⟨fun h => ?_, fun h => ?_⟩
  · exact absurd (congrArg (fun p => successFormat? p.1) h) (by decide +kernel)
  · exact absurd (congrArg (fun p => successFormat? p.1) h) (by decide +kernel)

end Context

end RouteDoc
