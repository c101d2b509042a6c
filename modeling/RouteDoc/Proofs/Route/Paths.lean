import RouteDoc.Proofs.Route.Bindings
import RouteDoc.Proofs.Route.Joining

/-! Paths of groups and routes. All of them start with a slash, and double slashes come only from the
source. A route has the same path below nested groups as below one group with the joined path. -/
namespace RouteDoc
open Go RouteDoc.Path

namespace RouteScan
variable (microservice : String) {s : RouteScan} {n : Node} {P : RouteGroup → Prop}

/-- Only the binding of a group changes the groups. -/
theorem groups_visit (s : RouteScan) (n : Node) :
    (s.visit microservice n).groups = s.groups ∨
      ∃ name c, BindsGroup name n c ∧
        (s.visit microservice n).groups = s.groups.insert name (s.groupFor c) := by
  by_cases h : ∃ name c, BindsGroup name n c
  · obtain ⟨name, c, hn⟩ := h
    refine .inr ⟨name, c, hn, ?_⟩
    rw [visit_of_assigns microservice hn]
    rfl
  · refine .inl (visit_eq_of_forall_assigns microservice groups (fun _ => rfl) ?_)
    intro x value hassigns
    fun_cases assign s x value with
    | case1 operand field path middleware hfield =>
      rw [beq_iff_eq.mp hfield] at hassigns
      exact absurd ⟨x, ⟨operand, path, middleware⟩, hassigns⟩ h
    | case2 => rfl
    | case3 => rfl
    | case4 => rfl

def AllGroups (P : RouteGroup → Prop) (s : RouteScan) : Prop :=
  ∀ name g, s.groups.get? name = some g → P g

theorem allGroups_start : ({} : RouteScan).AllGroups P := by
  intro name g hg
  cases hg

theorem AllGroups.visit (h : s.AllGroups P)
    (hnew : ∀ name c, BindsGroup name n c → P (s.groupFor c)) :
    (s.visit microservice n).AllGroups P := by
  intro name g hg
  rcases s.groups_visit microservice n with hsame | ⟨x, c, hn, hinsert⟩
  · rw [hsame] at hg
    exact h name g hg
  · rw [hinsert, KeyMap.get?_insert] at hg
    split_ifs at hg
    · cases hg
      exact hnew x c hn
    · exact h name g hg

/-- What every new group inherits from the groups before it, all groups have. -/
theorem AllGroups.scan {nodes : List Node} (h : s.AllGroups P)
    (hnew : ∀ s : RouteScan, s.AllGroups P → ∀ n ∈ nodes, ∀ name c, BindsGroup name n c →
      P (s.groupFor c)) : (s.scan microservice nodes).AllGroups P := by
  induction nodes generalizing s with
  | nil => exact h
  | cons n nodes ih =>
    have hvisit := h.visit microservice (hnew s h n List.mem_cons_self)
    exact ih hvisit fun s hs m hm => hnew s hs m (List.mem_cons_of_mem n hm)

/-- A router without a group hands down nothing. -/
theorem AllGroups.groupOf (h : s.AllGroups P) (router : Expr) :
    s.groupOf router = ⟨"", []⟩ ∨ P (s.groupOf router) := by
  unfold RouteScan.groupOf
  cases hg : router.asIdent?.bind s.groups.get? with
  | none => exact .inl rfl
  | some g =>
    obtain ⟨name, -, hname⟩ := Option.bind_eq_some_iff.mp hg
    exact .inr (h name g hname)

theorem AllGroups.isRooted_groupOf (h : s.AllGroups fun g => IsRooted g.path) (router : Expr) :
    (s.groupOf router).path = "" ∨ IsRooted (s.groupOf router).path :=
  (h.groupOf router).imp_left (congrArg RouteGroup.path)

theorem AllGroups.not_hasDoubleSlash_groupOf (h : s.AllGroups fun g => ¬ HasDoubleSlash g.path)
    (router : Expr) : ¬ HasDoubleSlash (s.groupOf router).path := by
  rcases h.groupOf router with hnone | hgroup
  · rw [hnone]
    decide
  · exact hgroup

theorem allGroups_isRooted (nodes : List Node) :
    (scan microservice {} nodes).AllGroups fun g => IsRooted g.path :=
  allGroups_start.scan microservice fun _ hs _ _ _ c _ =>
    isRooted_join (hs.isRooted_groupOf c.router) _

end RouteScan

/-- An expression that stands for the path of a group or of a route. -/
inductive UsesPath : Node → Expr → Prop where
  | group {n : Node} {name : String} {c : GroupCall} (h : BindsGroup name n c) : UsesPath n c.path
  | route {n : Node} {r : Registration} (h : Registers n r) : UsesPath n r.path

/-- No string literal that stands for a path has a double slash. -/
def SingleSlashes (nodes : List Node) : Prop :=
  ∀ n ∈ nodes, ∀ e text, UsesPath n e → e.stringLiteral? = some text → ¬ HasDoubleSlash text

/-- The expressions of a node that stand for a path. -/
def Go.Node.paths : Node → List Expr
  | .stmt (.define [.ident _] [.call (.selector _ field) (path :: _)]) =>
    if field = "Group" then [path] else []
  | .stmt (.assign [.ident _] [.call (.selector _ field) (path :: _)]) =>
    if field = "Group" then [path] else []
  | .stmt _ => []
  | .expr e => ((Node.expr e).registration?.map Registration.path).toList

theorem usesPath_iff_mem_paths {n : Node} {e : Expr} : UsesPath n e ↔ e ∈ n.paths := by
  constructor
  · intro h
    cases h with
    | group h =>
      cases h with
      | define => exact List.mem_singleton_self _
      | assign => exact List.mem_singleton_self _
    | @route r h =>
      have hr := registration?_eq_some_iff.mpr h
      cases h
      rw [Node.paths, hr]
      exact List.mem_singleton_self _
  · fun_cases Node.paths n with
    | case1 name router path middleware =>
      intro h
      rw [List.mem_singleton.mp h]
      exact .group (c := ⟨router, path, middleware⟩) .define
    | case3 name router path middleware =>
      intro h
      rw [List.mem_singleton.mp h]
      exact .group (c := ⟨router, path, middleware⟩) .assign
    | case2 | case4 | case5 =>
      intro h
      cases h
    | case6 call =>
      intro h
      obtain ⟨r, hr, rfl⟩ := Option.map_eq_some_iff.mp (Option.mem_toList.mp h)
      exact .route (registration?_eq_some_iff.mp hr)

instance (nodes : List Node) : Decidable (SingleSlashes nodes) :=
  decidable_of_iff (∀ n ∈ nodes, ∀ e ∈ n.paths, ∀ text ∈ e.stringLiteral?, ¬ HasDoubleSlash text)
    ⟨fun h n hn e text he => h n hn e (usesPath_iff_mem_paths.mp he) text,
      fun h n hn e he text => h n hn e text (usesPath_iff_mem_paths.mpr he)⟩

theorem SingleSlashes.literal {nodes : List Node} (h : SingleSlashes nodes) {n : Node}
    (hn : n ∈ nodes) {e : Expr} (he : UsesPath n e) : ¬ HasDoubleSlash (e.stringLiteral?.getD "") := by
  cases htext : e.stringLiteral? with
  | none =>
    rw [Option.getD_none]
    decide
  | some text => exact h n hn e text he htext

theorem RouteScan.allGroups_singleSlashes (microservice : String) {nodes : List Node}
    (h : SingleSlashes nodes) :
    (scan microservice {} nodes).AllGroups fun g => ¬ HasDoubleSlash g.path := by
  refine allGroups_start.scan microservice fun s hs n hn name c hc hdouble => ?_
  rcases hasDoubleSlash_of_join hdouble with hparent | hown
  · exact hs.not_hasDoubleSlash_groupOf c.router hparent
  · exact h.literal hn (.group hc) hown

namespace Go.File

/-- Everywhere in a file the paths of all groups start with a slash, and so do the paths of its routes
and their templates. If no path in the source has a double slash, no path of a route has one. -/
theorem paths_rooted (f : File) (microservice : String) :
    (∀ before after, f.nodes = before ++ after → ∀ name g,
      (RouteScan.scan microservice {} before).groups.get? name = some g → IsRooted g.path) ∧
    (∀ r ∈ f.routes microservice, IsRooted r.path ∧ IsRooted r.template) ∧
    (SingleSlashes f.nodes → ∀ r ∈ f.routes microservice,
      ¬ HasDoubleSlash r.path ∧ ¬ HasDoubleSlash r.template) := by
  refine ⟨fun before _ _ => RouteScan.allGroups_isRooted microservice before, ?_, ?_⟩
  · intro route hroute
    obtain ⟨before, n, after, r, -, -, rfl⟩ := exists_registers_of_mem_routes hroute
    have hpath := isRooted_join
      ((RouteScan.allGroups_isRooted microservice before).isRooted_groupOf r.router)
    exact ⟨hpath _, (hpath _).template⟩
  · intro hsingle route hroute
    obtain ⟨before, n, after, r, hnodes, hr, rfl⟩ := exists_registers_of_mem_routes hroute
    have hbefore : SingleSlashes before := fun m hm =>
      hsingle m (hnodes ▸ List.mem_append_left _ hm)
    have hn : n ∈ f.nodes := hnodes ▸ List.mem_append_right _ List.mem_cons_self
    have hpath : ¬ HasDoubleSlash
        ((RouteScan.scan microservice {} before).routeOf microservice r).path := by
      intro hdouble
      rcases hasDoubleSlash_of_join hdouble with hgroup | hown
      · exact (RouteScan.allGroups_singleSlashes microservice hbefore).not_hasDoubleSlash_groupOf
          r.router hgroup
      · split_ifs at hown
        · revert hown
          decide
        · exact hsingle.literal hn (.route hr) hown
    exact ⟨hpath, fun htemplate => hpath (hasDoubleSlash_of_template htemplate)⟩

end Go.File

namespace OrderRoutes

theorem paths_rooted_orders :
    SingleSlashes file.nodes ∧ file.routes "ms_orders" ≠ [] ∧
      ∀ r ∈ file.routes "ms_orders", ¬ HasDoubleSlash r.path ∧ ¬ HasDoubleSlash r.template := by
  have hsingle : SingleSlashes file.nodes := by decide +kernel
  obtain ⟨-, -, hpaths⟩ := File.paths_rooted file "ms_orders"
  exact ⟨hsingle, List.cons_ne_nil _ _, hpaths hsingle⟩

end OrderRoutes

/-- A chain of groups has the path of one group with the joined paths of its links. -/
theorem GroupLink.pathFrom_eq_join {base : String} (hbase : base = "" ∨ IsRooted base)
    (l : GroupLink) (links : List GroupLink) :
    pathFrom base (l :: links) =
      Path.join base (pathFrom (l.path.stringLiteral?.getD "") links) := by
  -- for any path of the first link, as the links after it lengthen that path
  have hchain : ∀ a : String,
      pathFrom (Path.join base a) links = Path.join base (pathFrom a links) := by
    induction links with
    | nil => exact fun a => rfl
    | cons k links ih =>
      intro a
      have hassoc := Path.join_assoc hbase a (k.path.stringLiteral?.getD "")
      rw [pathFrom, List.foldl_cons, hassoc]
      exact ih _
  exact hchain _

namespace Go.File

/-- A file registers a handler below a chain of groups, of which each is there for the next. -/
structure RegistersBelow (f : File) (before : List Node) (router : Expr) (links : List GroupLink)
    (r : Registration) : Prop where
  nodes : ∃ n after, Registers n r ∧
    f.nodes = before ++ (GroupLink.nodes router links ++ n :: after)
  router : r.router = GroupLink.lastRouter router links
  keeps : ∀ l ∈ links, l.Keeps

theorem RegistersBelow.exists_route {f : File} {before : List Node} {router : Expr}
    {links : List GroupLink} {r : Registration} (h : f.RegistersBelow before router links r)
    (microservice : String) :
    let start := RouteScan.scan microservice {} before
    let ownPath := r.path.stringLiteral?.getD ""
    ∃ route later,
      f.routes microservice =
        (start.scan microservice (GroupLink.nodes router links)).routes ++ route :: later ∧
      route.path = Path.join (GroupLink.pathFrom (start.groupOf router).path links)
        (if ownPath = "" then "/" else ownPath) := by
  intro start ownPath
  obtain ⟨n, after, hn, hnodes⟩ := h.nodes
  rw [← List.append_assoc] at hnodes
  obtain ⟨later, hroutes⟩ := routes_of_registers hn hnodes microservice
  rw [RouteScan.scan_append] at hroutes
  refine ⟨_, later, hroutes, ?_⟩
  have hgroup := RouteScan.groupOf_scan_links microservice h.keeps start router
  rw [RouteScan.routeOf, h.router, hgroup]

/-- Joining is associative below a path that is empty or starts with a slash. So whatever stands
before a chain of groups, a route at its end has the path that it has below one group with the joined
path. -/
theorem routes_of_joined_groups :
    (∀ p a b : String, p = "" ∨ IsRooted p →
      Path.join (Path.join p a) b = Path.join p (Path.join a b)) ∧
    ∀ (f f' : File) (microservice : String) (before : List Node) (router : Expr) (l : GroupLink)
      (links : List GroupLink) (joined : GroupLink) (r r' : Registration),
      f.RegistersBelow before router (l :: links) r →
      f'.RegistersBelow before router [joined] r' → r'.path = r.path →
      joined.path.stringLiteral? =
        some (GroupLink.pathFrom (l.path.stringLiteral?.getD "") links) →
      let start := RouteScan.scan microservice {} before
      ∃ route later route' later',
        f.routes microservice =
          (start.scan microservice (GroupLink.nodes router (l :: links))).routes ++ route :: later ∧
        f'.routes microservice =
          (start.scan microservice (GroupLink.nodes router [joined])).routes ++ route' :: later' ∧
        route.path = route'.path := by
  refine ⟨fun p a b hp => Path.join_assoc hp a b, ?_⟩
  intro f f' microservice before router l links joined r r' hf hf' hpath hjoined start
  obtain ⟨route, later, hroutes, hroute⟩ := hf.exists_route microservice
  obtain ⟨route', later', hroutes', hroute'⟩ := hf'.exists_route microservice
  refine ⟨route, later, route', later', hroutes, hroutes', ?_⟩
  have hstart := (RouteScan.allGroups_isRooted microservice before).isRooted_groupOf router
  rw [hroute, hroute', GroupLink.pathFrom_eq_join hstart, GroupLink.pathFrom_eq_join hstart, hjoined,
    hpath]
  rfl

end Go.File

namespace OrderRoutes

/-- `app.Group("/api/orders/")` -/
def joinedGroup : Expr :=
  .call (.selector (.ident "app") "Group") [.lit ⟨.string, "\"/api/orders/\""⟩]

def joinedFile : File :=
  ⟨"orders", [], [.func ⟨"Setup", none, [], [], some [
    .define [.ident "orders"] [joinedGroup], .expr get], [], 3⟩]⟩

def joinedLink : GroupLink :=
  ⟨"orders", true, .lit ⟨.string, "\"/api/orders/\""⟩, [],
    exprNodes [.ident "orders", joinedGroup] ++ [.stmt (.expr get)]⟩

def registration : Registration :=
  ⟨.ident "orders", .get, .lit ⟨.string, "\"\""⟩, [.ident "audit"], "list"⟩

theorem routes_of_joined_groups_orders :
    Path.join (Path.join "/v1/" "//") "orders" = Path.join "/v1/" (Path.join "//" "orders") ∧
    ∃ route later route' later',
      file.routes "ms_orders" = route :: later ∧ joinedFile.routes "ms_orders" = route' :: later' ∧
        route.path = route'.path := by
  obtain ⟨hassoc, hroutes⟩ := File.routes_of_joined_groups
  have hn : Registers (.expr get) registration := registration?_eq_some_iff.mp rfl
  have hnested : file.RegistersBelow [] (.ident "app") links registration :=
    ⟨⟨.expr get, get.nodes.tail, hn, rfl⟩, rfl, by unfold GroupLink.Keeps; decide⟩
  have hjoined : joinedFile.RegistersBelow [] (.ident "app") [joinedLink] registration :=
    ⟨⟨.expr get, get.nodes.tail, hn, rfl⟩, rfl, by unfold GroupLink.Keeps; decide⟩
  exact ⟨hassoc "/v1/" "//" "orders" (.inr (by decide)),
    hroutes file joinedFile "ms_orders" [] _ _ _ _ _ _ hnested hjoined rfl rfl⟩

end OrderRoutes

end RouteDoc
