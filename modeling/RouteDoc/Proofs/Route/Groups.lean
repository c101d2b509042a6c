import RouteDoc.Proofs.KeyMap
import RouteDoc.Proofs.Route.Registrations

/-! Router groups. A chain of groups, each made from the one before, hands down its paths and its
middleware through whatever stands between its links. -/
namespace RouteDoc
open Go

/-- A node that assigns to a variable, alone or among others. -/
def Go.Node.assigns (name : String) : Node → Bool
  | .stmt (.define targets _) => targets.any fun t => t.asIdent? == some name
  | .stmt (.assign targets _) => targets.any fun t => t.asIdent? == some name
  | _ => false

namespace RouteScan
variable (microservice : String) {s : RouteScan} {name : String}

theorem get?_groups_assign {target : String} (h : target ≠ name) (value : Expr) :
    (s.assign target value).groups.get? name = s.groups.get? name := by
  fun_cases assign s target value with
  | case1 operand field args path middleware =>
    exact (KeyMap.get?_insert ..).trans (if_neg h.symm)
  | case2 => rfl
  | case3 => rfl
  | case4 => rfl

theorem get?_groups_visit {n : Node} (h : n.assigns name = false) :
    (s.visit microservice n).groups.get? name = s.groups.get? name := by
  have hassign : ∀ target value : Expr, (target.asIdent? == some name) = false →
      ((target.asIdent?.map (s.assign · value)).getD s).groups.get? name = s.groups.get? name := by
    intro target value htarget
    refine assign_target_eq (fun s => s.groups.get? name) fun x hident => ?_
    rw [hident] at htarget
    exact get?_groups_assign (by simpa using htarget) value
  fun_cases visit microservice s n with
  | case1 target value => exact hassign target value (by simpa [Node.assigns] using h)
  | case2 target value => exact hassign target value (by simpa [Node.assigns] using h)
  | case3 => rfl
  | case4 => rfl
  | case5 => rfl

theorem get?_groups_scan {nodes : List Node} (h : ∀ n ∈ nodes, n.assigns name = false) :
    (s.scan microservice nodes).groups.get? name = s.groups.get? name := by
  induction nodes generalizing s with
  | nil => rfl
  | cons n nodes ih =>
    have hrest := ih (s := s.visit microservice n) fun m hm => h m (List.mem_cons_of_mem _ hm)
    exact hrest.trans (get?_groups_visit microservice (h n List.mem_cons_self))

end RouteScan

/-- One link of a chain of groups: `target := router.Group(path, middleware…)`, or the same with
`=`. -/
structure GroupLink where
  target : String
  isDefinition : Bool
  path : Expr
  middleware : List Expr
  /-- The nodes that the walk meets after the statement and before the next link. -/
  after : List Node

namespace GroupLink

/-- The statement of a link, for the router that it starts from. -/
def stmt (l : GroupLink) (router : Expr) : Stmt :=
  let value := Expr.call (.selector router "Group") (l.path :: l.middleware)
  if l.isDefinition then .define [.ident l.target] [value] else .assign [.ident l.target] [value]

/-- What the walk meets from the first link on. Each link starts from the target of the one
before. -/
def nodes : Expr → List GroupLink → List Node
  | _, [] => []
  | router, l :: links => .stmt (l.stmt router) :: (l.after ++ nodes (.ident l.target) links)

/-- The target of the last link. -/
def lastRouter : Expr → List GroupLink → Expr
  | router, [] => router
  | _, l :: links => lastRouter (.ident l.target) links

/-- The path of the last group. A path that is no string literal counts as empty. -/
def pathFrom (base : String) (links : List GroupLink) : String :=
  links.foldl (fun path l => Path.join path (l.path.stringLiteral?.getD "")) base

/-- The middleware of all links, each as text by what is known when the walk comes to the link. -/
def middlewareFrom (microservice : String) : RouteScan → Expr → List GroupLink → List String
  | _, _, [] => []
  | s, router, l :: links =>
    l.middleware.map s.middlewareText ++
      middlewareFrom microservice (s.scan microservice (.stmt (l.stmt router) :: l.after))
        (.ident l.target) links

/-- The walk meets no other assignment to the target before the next link. -/
def Keeps (l : GroupLink) : Prop := ∀ n ∈ l.after, n.assigns l.target = false

end GroupLink

namespace RouteScan
variable (microservice : String)

theorem groupOf_ident (s : RouteScan) (name : String) :
    s.groupOf (.ident name) = (s.groups.get? name).getD ⟨"", []⟩ := rfl

theorem groupOf_visit_link (s : RouteScan) (l : GroupLink) (router : Expr) :
    (s.visit microservice (.stmt (l.stmt router))).groupOf (.ident l.target) =
      ⟨Path.join (s.groupOf router).path (l.path.stringLiteral?.getD ""),
        (s.groupOf router).middleware ++ l.middleware.map s.middlewareText⟩ := by
  have hvisit : s.visit microservice (.stmt (l.stmt router)) =
      s.bindGroup l.target router l.path l.middleware := by
    unfold GroupLink.stmt
    cases l.isDefinition <;> rfl
  rw [hvisit, groupOf_ident]
  change ((s.groups.insert _ _).get? l.target).getD _ = _
  rw [KeyMap.get?_insert, if_pos rfl]
  rfl

theorem groupOf_scan_link {l : GroupLink} (h : l.Keeps) (s : RouteScan) (router : Expr) :
    (s.scan microservice (.stmt (l.stmt router) :: l.after)).groupOf (.ident l.target) =
      ⟨Path.join (s.groupOf router).path (l.path.stringLiteral?.getD ""),
        (s.groupOf router).middleware ++ l.middleware.map s.middlewareText⟩ := by
  have hkeep : (s.scan microservice (.stmt (l.stmt router) :: l.after)).groups.get? l.target =
      (s.visit microservice (.stmt (l.stmt router))).groups.get? l.target :=
    get?_groups_scan microservice h
  rw [← groupOf_visit_link microservice, groupOf_ident, groupOf_ident, hkeep]

/-- The group at the end of a chain continues the group at its start. -/
theorem groupOf_scan_links {links : List GroupLink} (h : ∀ l ∈ links, l.Keeps) (s : RouteScan)
    (router : Expr) :
    (s.scan microservice (GroupLink.nodes router links)).groupOf
        (GroupLink.lastRouter router links) =
      ⟨GroupLink.pathFrom (s.groupOf router).path links,
        (s.groupOf router).middleware ++
          GroupLink.middlewareFrom microservice s router links⟩ := by
  induction links generalizing s router with
  | nil =>
    simp [GroupLink.nodes, GroupLink.lastRouter, GroupLink.pathFrom, GroupLink.middlewareFrom, scan]
  | cons l links ih =>
    have hlink := groupOf_scan_link microservice (h l List.mem_cons_self) s router
    have hrest := ih (fun l' hl' => h l' (List.mem_cons_of_mem _ hl'))
      (s.scan microservice (.stmt (l.stmt router) :: l.after)) (.ident l.target)
    have hscan : s.scan microservice (GroupLink.nodes router (l :: links)) =
        (s.scan microservice (.stmt (l.stmt router) :: l.after)).scan microservice
          (GroupLink.nodes (.ident l.target) links) := by
      rw [GroupLink.nodes, ← List.cons_append, scan_append]
    rw [hscan, GroupLink.lastRouter, hrest, hlink, GroupLink.middlewareFrom, List.append_assoc]
    rfl

end RouteScan

/-- A route registered at the end of a chain of groups has the paths of all links in front of its
own, and the middleware of all links before its own. The names of the links need not differ, and what
stands between them is free but for assignments to the target of the link before. -/
theorem Go.File.routes_of_chain (f : File) (microservice : String) {router path handler : Expr}
    {links : List GroupLink} {method : Method} {own : List Expr} {name : String}
    {before after : List Node} (hhandler : IsHandler handler name)
    (hnodes : f.nodes = before ++ (GroupLink.nodes router links ++
      .expr (.call (.selector (GroupLink.lastRouter router links) method.verb)
        (path :: (own ++ [handler]))) :: after))
    (hrouter : ∀ x, router = .ident x →
      (RouteScan.scan microservice {} before).groups.get? x = none)
    (hkeeps : ∀ l ∈ links, l.Keeps) :
    let start := RouteScan.scan microservice {} before
    let here := start.scan microservice (GroupLink.nodes router links)
    let ownPath := path.stringLiteral?.getD ""
    ∃ later, f.routes microservice = here.routes ++
      { path := Path.join (GroupLink.pathFrom "" links) (if ownPath = "" then "/" else ownPath)
        method
        handler := name
        microservice
        middleware := GroupLink.middlewareFrom microservice start router links ++
          own.map here.middlewareText } :: later := by
  intro start here ownPath
  have hstart : start.groupOf router = ⟨"", []⟩ := by
    cases router with
    | ident x => rw [RouteScan.groupOf_ident, hrouter x rfl, Option.getD_none]
    | _ => rfl
  have hgroup : here.groupOf (GroupLink.lastRouter router links) =
      ⟨GroupLink.pathFrom "" links,
        GroupLink.middlewareFrom microservice start router links⟩ := by
    rw [RouteScan.groupOf_scan_links microservice hkeeps, hstart, List.nil_append]
  rw [← List.append_assoc] at hnodes
  obtain ⟨later, hroutes⟩ :=
    File.routes_of_registers (.call hhandler (by simp)) hnodes microservice
  rw [RouteScan.scan_append, RouteScan.routeOf, hgroup] at hroutes
  exact ⟨later, hroutes⟩

namespace OrderRoutes

def api : Expr := .ident "api"

/-- `app.Group("/api", auth.JWT)` -/
def outer : Expr :=
  .call (.selector (.ident "app") "Group")
    [.lit ⟨.string, "\"/api\""⟩, .selector (.ident "auth") "JWT"]

/-- `api.Group(version)` -/
def middle : Expr := .call (.selector api "Group") [.ident "version"]

/-- `api.Group("orders/", limit)` -/
def inner : Expr :=
  .call (.selector api "Group") [.lit ⟨.string, "\"orders/\""⟩, .ident "limit"]

/-- `{ limit := mw.Limit }` -/
def block : Stmt := .block [.define [.ident "limit"] [.selector (.ident "mw") "Limit"]]

/-- `func() { api := app.Group("/api", auth.JWT) }()` -/
def literal : Expr := .call (.funcLit [.define [api] [outer]]) []

/-- `orders.Get("", audit, list)` -/
def get : Expr :=
  .call (.selector (.ident "orders") "Get")
    [.lit ⟨.string, "\"\""⟩, .ident "audit", .ident "list"]

def file : File :=
  ⟨"orders", [], [.func ⟨"Setup", none, [], [], some [
    .define [api] [outer], block, .assign [api] [middle], .define [.ident "orders"] [inner],
    .expr literal, .expr get], [], 3⟩]⟩

def links : List GroupLink :=
  [⟨"api", true, .lit ⟨.string, "\"/api\""⟩, [.selector (.ident "auth") "JWT"],
      exprNodes [api, outer] ++ block.nodes⟩,
    ⟨"api", false, .ident "version", [], exprNodes [api, middle]⟩,
    ⟨"orders", true, .lit ⟨.string, "\"orders/\""⟩, [.ident "limit"],
      exprNodes [.ident "orders", inner] ++ (Stmt.expr literal).nodes ++ [.stmt (.expr get)]⟩]

/-- The second link has the same target as the first and a path that is not known. The literal that
rebinds it comes too late to matter. -/
theorem routes_of_chain_orders :
    ∃ later, file.routes "ms_orders" =
      ⟨"/api/orders/", .get, "list", "ms_orders", ["auth.JWT", "mw.Limit", "audit"]⟩ :: later := by
  have hkeeps : ∀ l ∈ links, l.Keeps := by
    unfold GroupLink.Keeps
    decide
  have hnodes : file.nodes = [] ++ (GroupLink.nodes (.ident "app") links ++
      .expr (.call (.selector (GroupLink.lastRouter (.ident "app") links) Method.get.verb)
        (.lit ⟨.string, "\"\""⟩ :: ([.ident "audit"] ++ [.ident "list"]))) ::
          get.nodes.tail) := rfl
  exact File.routes_of_chain file "ms_orders" .ident hnodes (fun _ _ => rfl) hkeeps

end OrderRoutes

end RouteDoc
