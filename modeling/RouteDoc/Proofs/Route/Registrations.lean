import Mathlib.Data.List.Forall2
import RouteDoc.Proofs.Go.Walk
import RouteDoc.Route.Extract

/-! Registrations. The routes of a file are those of its registering calls, one for each and in
source order, whatever is known about variables. -/
namespace RouteDoc
open Go

/-- An expression that can be a handler, and its name. -/
inductive IsHandler : Expr → String → Prop where
  | ident {name : String} : IsHandler (.ident name) name
  | selector {operand : Expr} {field : String} : IsHandler (.selector operand field) field
  | function {name : String} {args : List Expr} : IsHandler (.call (.ident name) args) name
  | method {operand : Expr} {field : String} {args : List Expr} :
      IsHandler (.call (.selector operand field) args) field
  | literal {body : List Stmt} : IsHandler (.funcLit body) inlineHandler
  | paren {inner : Expr} {name : String} (h : IsHandler inner name) : IsHandler (.paren inner) name

/-- What a call `router.Verb(path, middleware…, handler, …)` says. -/
structure Registration where
  router : Expr
  method : Method
  path : Expr
  /-- The arguments between the path and the handler. -/
  middleware : List Expr
  handler : String

/-- The handler of a registration is the last argument after the path that can be one. -/
inductive Registers : Node → Registration → Prop where
  | call {router path handler : Expr} {method : Method} {middleware rest : List Expr}
      {name : String}
      (hhandler : IsHandler handler name) (hrest : ∀ e ∈ rest, ∀ name', ¬IsHandler e name') :
      Registers
        (.expr (.call (.selector router method.verb) (path :: (middleware ++ handler :: rest))))
        ⟨router, method, path, middleware, name⟩

theorem handlerName?_eq_some_iff {e : Expr} {name : String} :
    handlerName? e = some name ↔ IsHandler e name := by
  constructor
  · intro h
    fun_induction handlerName? e with
    | case1 =>
      cases h
      exact .ident
    | case2 =>
      cases h
      exact .selector
    | case3 func args =>
      cases func with
      | ident =>
        cases h
        exact .function
      | selector =>
        cases h
        exact .method
      | _ => cases h
    | case4 =>
      cases h
      exact .literal
    | case5 inner ih => exact .paren (ih h)
    | case6 => cases h
  · intro h
    induction h with
    | paren _ ih => exact ih
    | _ => rfl

theorem splitHandler_eq_none_iff {es : List Expr} :
    splitHandler es = none ↔ ∀ e ∈ es, ∀ name, ¬IsHandler e name := by
  induction es with
  | nil => simp [splitHandler]
  | cons e es ih =>
    have hname : handlerName? e = none ↔ ∀ name, ¬IsHandler e name := by
      simp only [Option.eq_none_iff_forall_ne_some, ne_eq, handlerName?_eq_some_iff]
    rw [List.forall_mem_cons, ← ih, ← hname]
    cases hrest : splitHandler es with
    | none => simp [splitHandler, hrest]
    | some parts => simp [splitHandler, hrest]

theorem splitHandler_append {handler : Expr} {name : String} {rest : List Expr}
    (hhandler : IsHandler handler name) (hrest : ∀ e ∈ rest, ∀ name', ¬IsHandler e name')
    (before : List Expr) : splitHandler (before ++ handler :: rest) = some (before, name) := by
  induction before with
  | nil =>
    have hname := handlerName?_eq_some_iff.mpr hhandler
    simp [splitHandler, splitHandler_eq_none_iff.mpr hrest, hname]
  | cons e before ih => simp [splitHandler, ih]

theorem splitHandler_eq_some_iff {es before : List Expr} {name : String} :
    splitHandler es = some (before, name) ↔
      ∃ handler rest, es = before ++ handler :: rest ∧ IsHandler handler name ∧
        ∀ e ∈ rest, ∀ name', ¬IsHandler e name' := by
  constructor
  · intro h
    induction es generalizing before with
    | nil => cases h
    | cons e es ih =>
      cases hes : splitHandler es with
      | none =>
        simp only [splitHandler, hes, Option.map_eq_some_iff, Prod.mk.injEq] at h
        obtain ⟨_, hname, rfl, rfl⟩ := h
        exact ⟨e, es, rfl, handlerName?_eq_some_iff.mp hname, splitHandler_eq_none_iff.mp hes⟩
      | some parts =>
        obtain ⟨before', name'⟩ := parts
        simp only [splitHandler, hes, Option.some.injEq, Prod.mk.injEq] at h
        obtain ⟨rfl, rfl⟩ := h
        obtain ⟨handler, rest, rfl, hhandler, hrest⟩ := ih hes
        exact ⟨handler, rest, rfl, hhandler, hrest⟩
  · rintro ⟨handler, rest, rfl, hhandler, hrest⟩
    exact splitHandler_append hhandler hrest before

theorem Method.ofVerb?_eq_some_iff {verb : String} {m : Method} :
    Method.ofVerb? verb = some m ↔ verb = m.verb := by
  constructor
  · intro h
    have hverb := List.find?_some h
    exact (beq_iff_eq.mp hverb).symm
  · rintro rfl
    cases m <;> rfl

/-- The registration of a node, if it is one. -/
def Go.Node.registration? : Node → Option Registration
  | .expr (.call (.selector router verb) (path :: rest)) =>
    (Method.ofVerb? verb).bind fun method =>
      (splitHandler rest).map fun parts => ⟨router, method, path, parts.1, parts.2⟩
  | _ => none

theorem registration?_eq_some_iff {n : Node} {r : Registration} :
    n.registration? = some r ↔ Registers n r := by
  constructor
  · intro h
    unfold Node.registration? at h
    split at h
    · next router verb path rest =>
      obtain ⟨method, hmethod, h⟩ := Option.bind_eq_some_iff.mp h
      obtain ⟨⟨middleware, name⟩, hsplit, rfl⟩ := Option.map_eq_some_iff.mp h
      obtain ⟨handler, rest, rfl, hhandler, hrest⟩ := splitHandler_eq_some_iff.mp hsplit
      rw [Method.ofVerb?_eq_some_iff.mp hmethod]
      exact .call hhandler hrest
    · cases h
  · intro h
    cases h with
    | @call _ _ _ method middleware _ _ hhandler hrest =>
      have hmethod : Method.ofVerb? method.verb = some method := Method.ofVerb?_eq_some_iff.mpr rfl
      simp [Node.registration?, hmethod, splitHandler_append hhandler hrest middleware]

namespace RouteScan

/-- What is known after some nodes. -/
def scan (microservice : String) (s : RouteScan) (nodes : List Node) : RouteScan :=
  nodes.foldl (visit microservice) s

/-- The route of a registration, by what is known there about variables. -/
def routeOf (s : RouteScan) (microservice : String) (r : Registration) : Route :=
  let group := s.groupOf r.router
  let path := r.path.stringLiteral?.getD ""
  { path := Path.join group.path (if path = "" then "/" else path)
    method := r.method
    handler := r.handler
    microservice
    middleware := group.middleware ++ r.middleware.map s.middlewareText }

theorem routes_assign (s : RouteScan) (name : String) (value : Expr) :
    (s.assign name value).routes = s.routes := by
  unfold assign
  split
  · split <;> rfl
  · rfl
  · rfl

/-- Whatever assignments to variables leave as it is, an assignment to any target does. -/
theorem assign_target_eq {α : Type} (f : RouteScan → α) {s : RouteScan} {target value : Expr}
    (h : ∀ name, target.asIdent? = some name → f (s.assign name value) = f s) :
    f ((target.asIdent?.map (s.assign · value)).getD s) = f s := by
  cases hident : target.asIdent? with
  | none => rfl
  | some name => exact h name hident

theorem bind_route?_eq (s : RouteScan) (microservice : String) (router : Expr) (verb : String)
    (args : List Expr) :
    (Method.ofVerb? verb).bind (s.route? microservice router · args) =
      (Node.expr (.call (.selector router verb) args)).registration?.map
        (s.routeOf microservice) := by
  cases args with
  | nil => simp [route?, Node.registration?]
  | cons path rest =>
    simp only [route?, Node.registration?]
    cases Method.ofVerb? verb with
    | none => rfl
    | some method => cases splitHandler rest <;> rfl

/-- Only registrations add a route, and whether a node is one does not depend on the scan. -/
theorem routes_visit (microservice : String) (s : RouteScan) (n : Node) :
    (s.visit microservice n).routes =
      s.routes ++ (n.registration?.map (s.routeOf microservice)).toList := by
  have hassign : ∀ target value : Expr,
      ((target.asIdent?.map (s.assign · value)).getD s).routes = s.routes :=
    fun target value => assign_target_eq routes fun name _ => s.routes_assign name value
  fun_cases visit microservice s n with
  | case1 target value => simp [hassign, Node.registration?]
  | case2 target value => simp [hassign, Node.registration?]
  | case3 router verb args r hr =>
    rw [bind_route?_eq] at hr
    simp [hr]
  | case4 router verb args hr =>
    rw [bind_route?_eq] at hr
    simp [hr]
  | case5 n hdefine hassign hcall =>
    have hnone : n.registration? = none := by
      unfold Node.registration?
      split
      · next router verb path rest => exact absurd rfl (hcall router verb (path :: rest))
      · rfl
    simp [hnone]

/-- The routes that a scan adds. -/
def newRoutes (microservice : String) : RouteScan → List Node → List Route
  | _, [] => []
  | s, n :: nodes =>
    (n.registration?.map (s.routeOf microservice)).toList ++
      newRoutes microservice (s.visit microservice n) nodes

theorem routes_scan (microservice : String) (s : RouteScan) (nodes : List Node) :
    (s.scan microservice nodes).routes = s.routes ++ s.newRoutes microservice nodes := by
  induction nodes generalizing s with
  | nil => exact (List.append_nil _).symm
  | cons n nodes ih =>
    have hrest := ih (s.visit microservice n)
    rw [routes_visit, List.append_assoc] at hrest
    exact hrest

theorem scan_append (microservice : String) (s : RouteScan) (nodes nodes' : List Node) :
    s.scan microservice (nodes ++ nodes') =
      (s.scan microservice nodes).scan microservice nodes' := List.foldl_append

section Places
variable (microservice : String) (at? : List Nat → Option Node)

/-- A route belongs to the registration at one of some places, by what is known after the places
before it. -/
def IsRouteAt (s : RouteScan) (places : List (List Nat)) (place : List Nat) (route : Route) :
    Prop :=
  ∃ earlier later r, places = earlier ++ place :: later ∧
    (at? place).bind Node.registration? = some r ∧
    route = (s.scan microservice (earlier.filterMap at?)).routeOf microservice r

variable {microservice at?}

theorem IsRouteAt.cons {s : RouteScan} {n : Node} {first place : List Nat}
    {places : List (List Nat)} {route : Route} (hn : at? first = some n)
    (h : IsRouteAt microservice at? (s.visit microservice n) places place route) :
    IsRouteAt microservice at? s (first :: places) place route := by
  obtain ⟨earlier, later, r, hplaces, hr, hroute⟩ := h
  refine ⟨first :: earlier, later, r, congrArg (first :: ·) hplaces, hr, ?_⟩
  rw [List.filterMap_cons_some hn]
  exact hroute

/-- The routes that a scan adds belong to the registrations among the places that it passes. -/
theorem forall₂_newRoutes {places : List (List Nat)} {nodes : List Node}
    (h : places.map at? = nodes.map some) (s : RouteScan) :
    List.Forall₂ (IsRouteAt microservice at? s places)
      (places.filter fun place => ((at? place).bind Node.registration?).isSome)
      (s.newRoutes microservice nodes) := by
  induction places generalizing nodes s with
  | nil =>
    have hnil : nodes = [] := by simpa using h.symm
    subst hnil
    exact .nil
  | cons first places ih =>
    cases nodes with
    | nil => cases h
    | cons n nodes =>
      obtain ⟨hn, hrest⟩ := List.cons.inj h
      have hlater := (ih hrest (s.visit microservice n)).imp fun _ _ => IsRouteAt.cons hn
      rw [newRoutes]
      cases hr : n.registration? with
      | none =>
        rw [List.filter_cons_of_neg (by simp [hn, hr])]
        exact hlater
      | some r =>
        rw [List.filter_cons_of_pos (by simp [hn, hr])]
        exact .cons ⟨[], places, r, rfl, by simp [hn, hr], rfl⟩ hlater

end Places

end RouteScan

namespace Go.File

/-- What is known when the scan of a file comes to a place. -/
def scanBefore (f : File) (microservice : String) (place : List Nat) : RouteScan :=
  RouteScan.scan microservice {} (f.before place)

theorem routes_of_registers {f : File} {n : Node} {r : Registration} {before after : List Node}
    (hn : Registers n r) (hnodes : f.nodes = before ++ n :: after) (microservice : String) :
    ∃ later, f.routes microservice = (RouteScan.scan microservice {} before).routes ++
      (RouteScan.scan microservice {} before).routeOf microservice r :: later := by
  have hroutes : f.routes microservice = (RouteScan.scan microservice {} f.nodes).routes := rfl
  rw [hroutes, hnodes, RouteScan.scan_append, RouteScan.routes_scan, RouteScan.newRoutes,
    registration?_eq_some_iff.mpr hn]
  exact ⟨_, rfl⟩

/-- Every route is that of a registration, by what is known there. -/
theorem exists_registers_of_mem_routes {f : File} {microservice : String} {route : Route}
    (h : route ∈ f.routes microservice) :
    ∃ before n after r, f.nodes = before ++ n :: after ∧ Registers n r ∧
      route = (RouteScan.scan microservice {} before).routeOf microservice r := by
  have hroutes : f.routes microservice = RouteScan.newRoutes microservice {} f.nodes :=
    RouteScan.routes_scan microservice {} f.nodes
  rw [hroutes] at h
  clear hroutes
  generalize ({} : RouteScan) = s at h ⊢
  generalize f.nodes = nodes at h ⊢
  induction nodes generalizing s with
  | nil => cases h
  | cons n nodes ih =>
    rcases List.mem_append.mp h with h | h
    · obtain ⟨r, hr, rfl⟩ := Option.map_eq_some_iff.mp (Option.mem_toList.mp h)
      exact ⟨[], n, nodes, r, rfl, registration?_eq_some_iff.mp hr, rfl⟩
    · obtain ⟨before, m, after, r, rfl, hr, rfl⟩ := ih _ h
      exact ⟨n :: before, m, after, r, rfl, hr, rfl⟩

/-- A file has one route for each call at which a handler is registered, at whatever depth, and the
routes are in the order of these calls in the source. -/
theorem routes_exact (f : File) (microservice : String) :
    ∃ sites : List (List Nat),
      sites.Pairwise (List.Lex (· < ·)) ∧
      (∀ site, site ∈ sites ↔ ∃ n r, f.at? site = some n ∧ Registers n r) ∧
      List.Forall₂ (fun site (route : Route) =>
          ∃ n r, f.at? site = some n ∧ Registers n r ∧
            route.method = r.method ∧ route.handler = r.handler ∧
            route.microservice = microservice ∧
            route.middleware = ((f.scanBefore microservice site).groupOf r.router).middleware ++
              r.middleware.map (f.scanBefore microservice site).middlewareText)
        sites (f.routes microservice) := by
  have hwalk := f.isWalk
  have hregisters : ∀ site r, (f.at? site).bind Node.registration? = some r ↔
      ∃ n, f.at? site = some n ∧ Registers n r := by
    intro site r
    simp only [Option.bind_eq_some_iff, registration?_eq_some_iff]
  refine ⟨f.places.filter fun p => ((f.at? p).bind Node.registration?).isSome,
    hwalk.ordered.filter _, ?_, ?_⟩
  · intro site
    rw [List.mem_filter, hwalk.complete, Option.isSome_iff_exists]
    simp only [hregisters]
    constructor
    · rintro ⟨-, r, n, hn, hr⟩
      exact ⟨n, r, hn, hr⟩
    · rintro ⟨n, r, hn, hr⟩
      exact ⟨⟨n, hn⟩, r, n, hn, hr⟩
  · have hroutes : f.routes microservice = RouteScan.newRoutes microservice {} f.nodes :=
      RouteScan.routes_scan microservice {} f.nodes
    rw [hroutes]
    refine (RouteScan.forall₂_newRoutes hwalk.nodes_eq {}).imp ?_
    rintro site route ⟨earlier, later, r, hplaces, hr, rfl⟩
    obtain ⟨n, hn, hr⟩ := (hregisters site r).mp hr
    rw [scanBefore, before_eq hplaces]
    exact ⟨n, r, hn, hr, rfl, rfl, rfl, rfl⟩

end Go.File

end RouteDoc
