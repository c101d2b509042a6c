import Mathlib.Data.List.Lex
import Mathlib.Data.List.OfFn
import RouteDoc.Go.Walk

/-! Places in a syntax tree. The walk meets the node at every place once, and in source order. -/
namespace RouteDoc.Go

namespace Node

/-- The nodes directly inside a node, in source order. -/
def children : Node → List Node
  | .expr (.ident _) => []
  | .expr (.lit _) => []
  | .expr (.selector operand _) => [.expr operand]
  | .expr (.call func args) => .expr func :: args.map .expr
  | .expr (.composite _ elements) => elements.map .expr
  | .expr (.unary _ operand) => [.expr operand]
  | .expr (.binary left _ right) => [.expr left, .expr right]
  | .expr (.funcLit body) => body.map .stmt
  | .expr (.index operand indices) => .expr operand :: indices.map .expr
  | .expr (.paren inner) => [.expr inner]
  | .expr (.type _) => []
  | .expr (.other parts) => parts.map .expr
  | .stmt (.define targets values) => (targets ++ values).map .expr
  | .stmt (.assign targets values) => (targets ++ values).map .expr
  | .stmt (.var specs) => (specs.flatMap ValueSpec.values).map .expr
  | .stmt (.expr value) => [.expr value]
  | .stmt (.ret values) => values.map .expr
  | .stmt (.block body) => body.map .stmt

/-- A node and all nodes inside it, as the walk lists them. -/
def nodes : Node → List Node
  | .stmt s => s.nodes
  | .expr e => e.nodes

end Node

theorem exprNodes_eq (es : List Expr) : exprNodes es = (es.map Node.expr).flatMap Node.nodes := by
  induction es with
  | nil => simp [exprNodes]
  | cons e es ih => simp [exprNodes, ih, Node.nodes]

theorem stmtNodes_eq (ss : List Stmt) : stmtNodes ss = (ss.map Node.stmt).flatMap Node.nodes := by
  induction ss with
  | nil => simp [stmtNodes]
  | cons s ss ih => simp [stmtNodes, ih, Node.nodes]

theorem specNodes_eq (specs : List ValueSpec) :
    specNodes specs = ((specs.flatMap ValueSpec.values).map Node.expr).flatMap Node.nodes := by
  induction specs with
  | nil => simp [specNodes]
  | cons spec specs ih =>
    obtain ⟨names, type, values⟩ := spec
    simp [specNodes, exprNodes_eq, ih]

namespace Node

theorem nodes_eq (n : Node) : n.nodes = n :: n.children.flatMap nodes := by
  cases n with
  | stmt s =>
    cases s <;> simp [nodes, children, Stmt.nodes, exprNodes_eq, stmtNodes_eq, specNodes_eq]
  | expr e => cases e <;> simp [nodes, children, Expr.nodes, exprNodes_eq, stmtNodes_eq]

theorem length_nodes_lt {c n : Node} (h : c ∈ n.children) : c.nodes.length < n.nodes.length := by
  have hsub : c.nodes.Sublist (n.children.flatMap nodes) :=
    List.sublist_flatten_of_mem (List.mem_map_of_mem h)
  rw [nodes_eq n, List.length_cons]
  exact Nat.lt_succ_of_le hsub.length_le

/-- Induction on the nodes inside a node. -/
@[elab_as_elim]
theorem children_induction {motive : Node → Prop}
    (step : ∀ n, (∀ c ∈ n.children, motive c) → motive n) (n : Node) : motive n :=
  step n fun c _ => children_induction step c
termination_by n.nodes.length
decreasing_by exact length_nodes_lt ‹_›

theorem self_mem_nodes (n : Node) : n ∈ n.nodes := by
  rw [nodes_eq]
  exact List.mem_cons_self

theorem nodes_subset_of_mem_children {c n : Node} (h : c ∈ n.children) : c.nodes ⊆ n.nodes := by
  rw [nodes_eq n]
  exact fun m hm => List.mem_cons_of_mem n (List.mem_flatMap.mpr ⟨c, h, hm⟩)

theorem nodes_subset {m n : Node} (h : m ∈ n.nodes) : m.nodes ⊆ n.nodes := by
  induction n using children_induction with
  | step n ih =>
    rw [nodes_eq] at h
    rcases List.mem_cons.mp h with rfl | h
    · exact List.Subset.refl _
    · obtain ⟨c, hc, hm⟩ := List.mem_flatMap.mp h
      exact List.Subset.trans (ih c hc hm) (nodes_subset_of_mem_children hc)

/-- The node at a place, which is given by the numbers of the children that lead to it. -/
def at? : Node → List Nat → Option Node
  | n, [] => some n
  | n, i :: place => n.children[i]?.bind fun c => c.at? place

/-- All places in a node, in source order. -/
def places (n : Node) : List (List Nat) :=
  [] :: (List.ofFn fun i : Fin n.children.length =>
    (n.children.get i).places.map (i.val :: ·)).flatten
termination_by n.nodes.length
decreasing_by exact length_nodes_lt (List.get_mem _ _)

end Node

theorem nodes_subset_stmtNodes {n : Node} {body : List Stmt} (h : n ∈ stmtNodes body) :
    n.nodes ⊆ stmtNodes body := by
  rw [stmtNodes_eq] at h ⊢
  obtain ⟨root, hroot, hn⟩ := List.mem_flatMap.mp h
  exact fun m hm => List.mem_flatMap.mpr ⟨root, hroot, Node.nodes_subset hn hm⟩

/-- The node at a place in some nodes, which starts with the number of one of them. -/
def nodeAt? (ns : List Node) : List Nat → Option Node
  | [] => none
  | i :: place => ns[i]?.bind fun n => n.at? place

/-- All places in some nodes, in source order. -/
def placesIn (ns : List Node) : List (List Nat) :=
  (List.ofFn fun i : Fin ns.length => (ns.get i).places.map (i.val :: ·)).flatten

theorem Node.places_eq (n : Node) : n.places = [] :: placesIn n.children := by
  rw [places, placesIn]

theorem nil_notMem_placesIn (ns : List Node) : [] ∉ placesIn ns := by
  simp [placesIn]

theorem cons_mem_placesIn {ns : List Node} {i : Nat} {place : List Nat} :
    i :: place ∈ placesIn ns ↔ ∃ n, ns[i]? = some n ∧ place ∈ n.places := by
  simp only [placesIn, List.mem_flatten, List.mem_ofFn]
  constructor
  · rintro ⟨_, ⟨j, rfl⟩, hmem⟩
    obtain ⟨p, hp, heq⟩ := List.mem_map.mp hmem
    cases heq
    exact ⟨ns.get j, by simp, hp⟩
  · rintro ⟨n, hn, hplace⟩
    obtain ⟨hi, rfl⟩ := List.getElem?_eq_some_iff.mp hn
    exact ⟨_, ⟨⟨i, hi⟩, rfl⟩, List.mem_map_of_mem hplace⟩

/-- Places in source order with the nodes there. A place comes before those below it and those
further on, so that none is listed twice. -/
structure IsWalk (at? : List Nat → Option Node) (places : List (List Nat)) (nodes : List Node) :
    Prop where
  ordered : places.Pairwise (List.Lex (· < ·))
  complete : ∀ place, place ∈ places ↔ ∃ n, at? place = some n
  nodes_eq : places.map at? = nodes.map some

theorem isWalk_placesIn {ns : List Node} (h : ∀ n ∈ ns, IsWalk n.at? n.places n.nodes) :
    IsWalk (nodeAt? ns) (placesIn ns) (ns.flatMap Node.nodes) := by
  have hget : ∀ i : Fin ns.length, IsWalk (ns.get i).at? (ns.get i).places (ns.get i).nodes :=
    fun i => h _ (List.get_mem ns i)
  refine ⟨List.pairwise_flatten.mpr ⟨?_, ?_⟩, ?_, ?_⟩
  · intro l hl
    obtain ⟨i, rfl⟩ := List.mem_ofFn.mp hl
    exact List.pairwise_map.mpr ((hget i).ordered.imp .cons)
  · refine List.pairwise_ofFn.mpr fun i j hij => ?_
    simp only [List.mem_map]
    rintro _ ⟨p, -, rfl⟩ _ ⟨q, -, rfl⟩
    exact .rel hij
  · intro place
    cases place with
    | nil => simp [nil_notMem_placesIn, nodeAt?]
    | cons i place =>
      rw [cons_mem_placesIn, nodeAt?]
      simp only [Option.bind_eq_some_iff]
      constructor
      · rintro ⟨n, hn, hplace⟩
        obtain ⟨m, hm⟩ := ((h n (List.mem_of_getElem? hn)).complete place).mp hplace
        exact ⟨m, n, hn, hm⟩
      · rintro ⟨m, n, hn, hm⟩
        exact ⟨n, hn, ((h n (List.mem_of_getElem? hn)).complete place).mpr ⟨m, hm⟩⟩
  · have hnode : ∀ i : Fin ns.length, ((ns.get i).places.map (i.val :: ·)).map (nodeAt? ns) =
        (ns.get i).nodes.map some := by
      intro i
      rw [List.map_map, ← (hget i).nodes_eq]
      refine List.map_congr_left fun place _ => ?_
      simp [nodeAt?]
    rw [placesIn, List.map_flatten, List.map_ofFn, List.map_flatMap, List.flatMap_def,
      ← List.ofFn_getElem_eq_map]
    exact congrArg (fun g => (List.ofFn g).flatten) (funext hnode)

theorem Node.isWalk (n : Node) : IsWalk n.at? n.places n.nodes := by
  induction n using children_induction with
  | step n ih =>
    obtain ⟨hordered, hcomplete, hnodes⟩ := isWalk_placesIn ih
    have hat : ∀ place ∈ placesIn n.children, n.at? place = nodeAt? n.children place := by
      intro place hplace
      cases place with
      | nil => exact absurd hplace (nil_notMem_placesIn _)
      | cons i place => rfl
    rw [places_eq, Node.nodes_eq]
    refine ⟨?_, ?_, ?_⟩
    · refine List.pairwise_cons.mpr ⟨?_, hordered⟩
      intro place hplace
      cases place with
      | nil => exact absurd hplace (nil_notMem_placesIn _)
      | cons i place => exact .nil
    · intro place
      cases place with
      | nil => simp [Node.at?]
      | cons i place =>
        change _ ↔ ∃ m, nodeAt? n.children (i :: place) = some m
        simpa using hcomplete (i :: place)
    · rw [List.map_cons, List.map_cons, List.map_congr_left hat, hnodes]
      rfl

/-- The outermost nodes of a declaration. -/
def Decl.roots : Decl → List Node
  | .func decl => (decl.body.getD []).map .stmt
  | .type _ => []
  | .const specs => (specs.flatMap ValueSpec.values).map .expr
  | .var specs => (specs.flatMap ValueSpec.values).map .expr

namespace File

/-- The statements of function bodies, and the initial values of variables and constants. -/
def roots (f : File) : List Node := f.decls.flatMap Decl.roots

/-- The node at a place in a file. -/
def at? (f : File) (place : List Nat) : Option Node := nodeAt? f.roots place

def places (f : File) : List (List Nat) := placesIn f.roots

theorem isWalk (f : File) : IsWalk f.at? f.places f.nodes := by
  have hnodes : f.nodes = f.roots.flatMap Node.nodes := by
    unfold nodes roots
    rw [List.flatMap_assoc]
    refine congrArg (f.decls.flatMap ·) (funext fun d => ?_)
    cases d with
    | func decl => exact stmtNodes_eq _
    | type spec => rfl
    | const specs => exact specNodes_eq specs
    | var specs => exact specNodes_eq specs
  rw [hnodes]
  exact isWalk_placesIn fun n _ => n.isWalk

/-- The nodes that the walk meets before it comes to a place. -/
def before (f : File) (place : List Nat) : List Node :=
  (f.places.takeWhile fun p => decide (p ≠ place)).filterMap f.at?

theorem before_eq {f : File} {earlier later : List (List Nat)} {place : List Nat}
    (h : f.places = earlier ++ place :: later) : f.before place = earlier.filterMap f.at? := by
  have hordered := f.isWalk.ordered
  rw [h] at hordered
  have hne : ∀ p ∈ earlier, p ≠ place := by
    intro p hp
    have hlex : List.Lex (· < ·) p place :=
      (List.pairwise_append.mp hordered).2.2 p hp place List.mem_cons_self
    exact (List.Lex.imp (fun _ _ => Nat.ne_of_lt) _ _ hlex).to_ne
  have htake : (f.places.takeWhile fun p => decide (p ≠ place)) = earlier := by
    rw [h, List.takeWhile_append_of_pos (by simpa using hne)]
    simp
  rw [before, htake]

end File

end RouteDoc.Go
