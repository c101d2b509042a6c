import RouteDoc.Proofs.Route.Groups

/-! Variables that stand for groups and for middleware. A variable stands for the group that it was
last bound to, and as middleware for the selector that it was last bound to; each of the two outlasts
whatever else is assigned. -/
namespace RouteDoc
open Go

/-- A statement `name := value` or `name = value`, with nothing else on either side. -/
inductive Assigns (name : String) : Node → Expr → Prop where
  | define {value : Expr} : Assigns name (.stmt (.define [.ident name] [value])) value
  | assign {value : Expr} : Assigns name (.stmt (.assign [.ident name] [value])) value

/-- A call `router.Group(path, middleware…)`. -/
structure GroupCall where
  router : Expr
  path : Expr
  middleware : List Expr

def GroupCall.expr (c : GroupCall) : Expr :=
  .call (.selector c.router "Group") (c.path :: c.middleware)

def BindsGroup (name : String) (n : Node) (c : GroupCall) : Prop := Assigns name n c.expr

/-- Selectors, and calls of selectors other than those that make a group, have a name as
middleware. -/
inductive IsSymbol : Expr → String → Prop where
  | selector {operand : Expr} {field : String} :
      IsSymbol (.selector operand field) (Expr.selector operand field).dotted
  | call {operand : Expr} {field : String} {args : List Expr}
      (h : ∀ c : GroupCall, c.expr ≠ .call (.selector operand field) args) :
      IsSymbol (.call (.selector operand field) args) (Expr.selector operand field).dotted

def BindsSymbol (name : String) (n : Node) (text : String) : Prop :=
  ∃ value, Assigns name n value ∧ IsSymbol value text

section Last
variable {α : Type} (binds : Node → α → Prop)

def Unbound (nodes : List Node) : Prop := ∀ n ∈ nodes, ∀ a, ¬binds n a

/-- The last binding among some nodes, with the nodes before it. -/
def LastBinding (nodes earlier : List Node) (a : α) : Prop :=
  ∃ n later, nodes = earlier ++ n :: later ∧ binds n a ∧ Unbound binds later

theorem unbound_or_exists_lastBinding (nodes : List Node) :
    Unbound binds nodes ∨ ∃ earlier a, LastBinding binds nodes earlier a := by
  induction nodes with
  | nil => exact .inl fun n hn => absurd hn List.not_mem_nil
  | cons n nodes ih =>
    rcases ih with hrest | ⟨earlier, a, m, later, rfl, hm, hlater⟩
    · by_cases h : ∃ a, binds n a
      · obtain ⟨a, ha⟩ := h
        exact .inr ⟨[], a, n, nodes, rfl, ha, hrest⟩
      · refine .inl fun m hm => ?_
        rcases List.mem_cons.mp hm with rfl | hm
        · exact not_exists.mp h
        · exact hrest m hm
    · exact .inr ⟨n :: earlier, a, m, later, rfl, hm, hlater⟩

variable {binds}

theorem LastBinding.length_lt {nodes earlier : List Node} {a : α}
    (h : LastBinding binds nodes earlier a) : earlier.length < nodes.length := by
  obtain ⟨n, later, rfl, -, -⟩ := h
  rw [List.length_append, List.length_cons]
  omega

end Last

/-- The text of middleware after some nodes. A variable has the name of the selector that it was last
bound to, or else its own. -/
inductive Renders (nodes : List Node) : Expr → String → Prop where
  | bound {name text : String} {earlier : List Node}
      (h : LastBinding (BindsSymbol name) nodes earlier text) : Renders nodes (.ident name) text
  | unbound {name : String} (h : Unbound (BindsSymbol name) nodes) :
      Renders nodes (.ident name) name
  | other {e : Expr} (h : e.asIdent? = none) : Renders nodes e (({} : RouteScan).middlewareText e)

/-- The path and the middleware that a router hands down after some nodes. A variable hands down those
of the group that it was last bound to, which continues what its own router handed down there. -/
inductive HandsDown : List Node → Expr → RouteGroup → Prop where
  | group {nodes earlier : List Node} {name : String} {c : GroupCall} {parent : RouteGroup}
      {texts : List String} (h : LastBinding (BindsGroup name) nodes earlier c)
      (hparent : HandsDown earlier c.router parent)
      (htexts : List.Forall₂ (Renders earlier) c.middleware texts) :
      HandsDown nodes (.ident name)
        ⟨Path.join parent.path (c.path.stringLiteral?.getD ""), parent.middleware ++ texts⟩
  | unbound {nodes : List Node} {name : String} (h : Unbound (BindsGroup name) nodes) :
      HandsDown nodes (.ident name) ⟨"", []⟩
  | other {nodes : List Node} {router : Expr} (h : router.asIdent? = none) :
      HandsDown nodes router ⟨"", []⟩

namespace RouteScan
variable (microservice : String) {s : RouteScan} {n : Node} {name : String}

theorem visit_of_assigns {value : Expr} (h : Assigns name n value) :
    s.visit microservice n = s.assign name value := by
  cases h <;> rfl

/-- What assignments to a variable alone can change is kept by all other nodes. -/
theorem visit_eq_of_forall_assigns {α : Type} (look : RouteScan → α)
    (hroutes : ∀ routes, look { s with routes := routes } = look s)
    (h : ∀ x value, Assigns x n value → look (s.assign x value) = look s) :
    look (s.visit microservice n) = look s := by
  have htarget : ∀ target value : Expr,
      (∀ x, target = .ident x → Assigns x n value) →
      look ((target.asIdent?.map (s.assign · value)).getD s) = look s := by
    intro target value hassigns
    refine assign_target_eq look fun x hident => ?_
    cases target with
    | ident y =>
      have hx : y = x := Option.some.inj hident
      exact hx ▸ h y value (hassigns y rfl)
    | _ => cases hident
  fun_cases visit microservice s n with
  | case1 target value => exact htarget target value fun x hx => hx ▸ .define
  | case2 target value => exact htarget target value fun x hx => hx ▸ .assign
  | case3 => exact hroutes _
  | case4 => rfl
  | case5 => rfl

theorem get?_groups_visit_of_unbound (h : ∀ c, ¬BindsGroup name n c) :
    (s.visit microservice n).groups.get? name = s.groups.get? name := by
  refine visit_eq_of_forall_assigns microservice (fun s => s.groups.get? name) (fun _ => rfl) ?_
  intro x value hassigns
  fun_cases assign s x value with
  | case1 operand field path middleware hfield =>
    have hne : name ≠ x := by
      rintro rfl
      rw [beq_iff_eq.mp hfield] at hassigns
      exact h ⟨operand, path, middleware⟩ hassigns
    exact (KeyMap.get?_insert ..).trans (if_neg hne)
  | case2 => rfl
  | case3 => rfl
  | case4 => rfl

theorem get?_valueTexts_visit_of_unbound (h : ∀ text, ¬BindsSymbol name n text) :
    (s.visit microservice n).valueTexts.get? name = s.valueTexts.get? name := by
  refine visit_eq_of_forall_assigns microservice (fun s => s.valueTexts.get? name) (fun _ => rfl) ?_
  intro x value hassigns
  have hne : ∀ text, IsSymbol value text → name ≠ x := by
    rintro text htext rfl
    exact h text ⟨value, hassigns, htext⟩
  fun_cases assign s x value with
  | case1 => rfl
  | case2 operand field args hno =>
    have hsymbol : IsSymbol (.call (.selector operand field) args) _ := .call fun c hc => by
      cases hc
      exact hno c.path c.middleware rfl rfl
    exact (KeyMap.get?_insert ..).trans (if_neg (hne _ hsymbol))
  | case3 operand field => exact (KeyMap.get?_insert ..).trans (if_neg (hne _ .selector))
  | case4 => rfl

/-- What nodes without a binding keep, they keep together. -/
theorem scan_eq_of_unbound {α β : Type} {binds : Node → α → Prop} (look : RouteScan → β)
    (hstep : ∀ s n, (∀ a, ¬binds n a) → look (visit microservice s n) = look s)
    {nodes : List Node} (h : Unbound binds nodes) (s : RouteScan) :
    look (s.scan microservice nodes) = look s := by
  induction nodes generalizing s with
  | nil => rfl
  | cons n nodes ih =>
    have hrest := ih (fun m hm => h m (List.mem_cons_of_mem n hm)) (s.visit microservice n)
    exact hrest.trans (hstep s n (h n List.mem_cons_self))

/-- The group that a call makes, by what is known where it stands. -/
def groupFor (s : RouteScan) (c : GroupCall) : RouteGroup :=
  ⟨Path.join (s.groupOf c.router).path (c.path.stringLiteral?.getD ""),
    (s.groupOf c.router).middleware ++ c.middleware.map s.middlewareText⟩

theorem groupOf_scan_of_lastBinding {nodes earlier : List Node} {c : GroupCall}
    (h : LastBinding (BindsGroup name) nodes earlier c) :
    (s.scan microservice nodes).groupOf (.ident name) = (s.scan microservice earlier).groupFor c := by
  obtain ⟨n, later, rfl, hn, hlater⟩ := h
  have hkeep := scan_eq_of_unbound microservice (fun s => s.groups.get? name)
    (fun s n => get?_groups_visit_of_unbound microservice (s := s)) hlater
    ((s.scan microservice earlier).visit microservice n)
  have hbind : ((s.scan microservice earlier).visit microservice n).groups.get? name =
      some ((s.scan microservice earlier).groupFor c) := by
    rw [visit_of_assigns microservice hn]
    exact (KeyMap.get?_insert ..).trans (if_pos rfl)
  rw [scan_append]
  change (((((s.scan microservice earlier).visit microservice n).scan microservice later).groups.get?
    name)).getD _ = _
  rw [hkeep, hbind, Option.getD_some]

theorem groupOf_scan_of_unbound {nodes : List Node} (h : Unbound (BindsGroup name) nodes) :
    (scan microservice {} nodes).groupOf (.ident name) = ⟨"", []⟩ := by
  have hkeep := scan_eq_of_unbound microservice (fun s => s.groups.get? name)
    (fun s n => get?_groups_visit_of_unbound microservice (s := s)) h {}
  change ((scan microservice {} nodes).groups.get? name).getD _ = _
  rw [hkeep]
  rfl

theorem get?_valueTexts_assign {value : Expr} {text : String} (h : IsSymbol value text) :
    (s.assign name value).valueTexts.get? name = some text := by
  cases h with
  | selector => exact (KeyMap.get?_insert ..).trans (if_pos rfl)
  | @call operand field args h =>
    have hvalue : s.assign name (.call (.selector operand field) args) =
        s.bindVariable name (Expr.selector operand field).dotted := by
      simp only [assign]
      split
      · rename_i path middleware hfield
        rw [beq_iff_eq.mp hfield] at h
        exact absurd rfl (h ⟨operand, path, middleware⟩)
      · rfl
    rw [hvalue]
    exact (KeyMap.get?_insert ..).trans (if_pos rfl)

theorem middlewareText_scan_of_lastBinding {nodes earlier : List Node} {text : String}
    (h : LastBinding (BindsSymbol name) nodes earlier text) :
    (s.scan microservice nodes).middlewareText (.ident name) = text := by
  obtain ⟨n, later, rfl, ⟨value, hn, hvalue⟩, hlater⟩ := h
  have hkeep := scan_eq_of_unbound microservice (fun s => s.valueTexts.get? name)
    (fun s n => get?_valueTexts_visit_of_unbound microservice (s := s)) hlater
    ((s.scan microservice earlier).visit microservice n)
  have hbind : ((s.scan microservice earlier).visit microservice n).valueTexts.get? name =
      some text := by
    rw [visit_of_assigns microservice hn]
    exact get?_valueTexts_assign hvalue
  rw [scan_append]
  change (((((s.scan microservice earlier).visit microservice n).scan microservice
    later).valueTexts.get? name)).getD _ = _
  rw [hkeep, hbind, Option.getD_some]

theorem middlewareText_scan_of_unbound {nodes : List Node} (h : Unbound (BindsSymbol name) nodes) :
    (scan microservice {} nodes).middlewareText (.ident name) = name := by
  have hkeep := scan_eq_of_unbound microservice (fun s => s.valueTexts.get? name)
    (fun s n => get?_valueTexts_visit_of_unbound microservice (s := s)) h {}
  change ((scan microservice {} nodes).valueTexts.get? name).getD _ = _
  rw [hkeep]
  rfl

theorem middlewareText_of_asIdent?_eq_none {e : Expr} (h : e.asIdent? = none)
    (s s' : RouteScan) : s.middlewareText e = s'.middlewareText e := by
  cases e with
  | ident name => cases h
  | _ => rfl

theorem renders_iff {nodes : List Node} {e : Expr} {text : String} :
    Renders nodes e text ↔ (scan microservice {} nodes).middlewareText e = text := by
  constructor
  · intro h
    cases h with
    | bound h => exact middlewareText_scan_of_lastBinding microservice h
    | unbound h => exact middlewareText_scan_of_unbound microservice h
    | other h => exact middlewareText_of_asIdent?_eq_none h _ _
  · rintro rfl
    cases hident : e.asIdent? with
    | none =>
      rw [middlewareText_of_asIdent?_eq_none hident _ {}]
      exact .other hident
    | some name =>
      cases e with
      | ident name =>
        rcases unbound_or_exists_lastBinding (BindsSymbol name) nodes with h | ⟨earlier, text, h⟩
        · rw [middlewareText_scan_of_unbound microservice h]
          exact .unbound h
        · rw [middlewareText_scan_of_lastBinding microservice h]
          exact .bound h
      | _ => cases hident

theorem forall₂_renders_iff {nodes : List Node} {es : List Expr} {texts : List String} :
    List.Forall₂ (Renders nodes) es texts ↔
      es.map (scan microservice {} nodes).middlewareText = texts := by
  have hrenders : Renders nodes = fun e text =>
      (scan microservice {} nodes).middlewareText e = text := by
    funext e text
    exact propext (renders_iff microservice)
  rw [hrenders, ← List.forall₂_map_left_iff, List.forall₂_eq_eq_eq]

theorem groupOf_of_asIdent?_eq_none {router : Expr} (h : router.asIdent? = none) (s : RouteScan) :
    s.groupOf router = ⟨"", []⟩ := by
  unfold groupOf
  rw [h]
  rfl

theorem groupOf_scan_of_handsDown {nodes : List Node} {router : Expr} {g : RouteGroup}
    (h : HandsDown nodes router g) : (scan microservice {} nodes).groupOf router = g := by
  induction h with
  | group h _ htexts ih =>
    rw [groupOf_scan_of_lastBinding microservice h, groupFor, ih,
      (forall₂_renders_iff microservice).mp htexts]
  | unbound h => exact groupOf_scan_of_unbound microservice h
  | other h => exact groupOf_of_asIdent?_eq_none h _

theorem handsDown_groupOf_scan (nodes : List Node) (router : Expr) :
    HandsDown nodes router ((scan microservice {} nodes).groupOf router) := by
  cases hident : router.asIdent? with
  | none =>
    rw [groupOf_of_asIdent?_eq_none hident]
    exact .other hident
  | some name =>
    cases router with
    | ident name =>
      rcases unbound_or_exists_lastBinding (BindsGroup name) nodes with h | ⟨earlier, c, h⟩
      · rw [groupOf_scan_of_unbound microservice h]
        exact .unbound h
      · rw [groupOf_scan_of_lastBinding microservice h]
        -- the router of the group was known before the binding
        have hlt := h.length_lt
        exact .group h (handsDown_groupOf_scan earlier c.router)
          ((forall₂_renders_iff microservice).mpr rfl)
    | _ => cases hident
termination_by nodes.length

theorem handsDown_iff {nodes : List Node} {router : Expr} {g : RouteGroup} :
    HandsDown nodes router g ↔ (scan microservice {} nodes).groupOf router = g :=
  ⟨groupOf_scan_of_handsDown microservice,
    fun h => h ▸ handsDown_groupOf_scan microservice nodes router⟩

end RouteScan

/-- The latest bindings before a registration decide about its route: its path follows that of the
group which its router was last bound to, its middleware follows that of this group, and each variable
among its own middleware has the name that it was last bound to. -/
theorem Go.File.routes_of_latest_bindings (f : File) (microservice : String) {n : Node}
    {r : Registration} {before after : List Node} (hn : Registers n r)
    (hnodes : f.nodes = before ++ n :: after) :
    let ownPath := r.path.stringLiteral?.getD ""
    ∃ group texts later,
      (∀ g, HandsDown before r.router g ↔ g = group) ∧
      (∀ ts, List.Forall₂ (Renders before) r.middleware ts ↔ ts = texts) ∧
      f.routes microservice = (RouteScan.scan microservice {} before).routes ++
        { path := Path.join group.path (if ownPath = "" then "/" else ownPath)
          method := r.method
          handler := r.handler
          microservice
          middleware := group.middleware ++ texts } :: later := by
  intro ownPath
  obtain ⟨later, hroutes⟩ := routes_of_registers hn hnodes microservice
  refine ⟨_, _, later, fun g => ?_, fun ts => ?_, hroutes⟩
  · rw [RouteScan.handsDown_iff microservice, eq_comm]
  · rw [RouteScan.forall₂_renders_iff microservice, eq_comm]

namespace HealthRoutes

def api : Expr := .ident "api"

def limit : Expr := .ident "limit"

/-- `app.Group(path, middleware…)` -/
def group (path : String) (middleware : List Expr) : Expr :=
  .call (.selector (.ident "app") "Group") (.lit ⟨.string, path⟩ :: middleware)

/-- `mw.name` -/
def middleware (name : String) : Expr := .selector (.ident "mw") name

/-- `api.Get("/health", limit, health)` -/
def get : Expr :=
  .call (.selector api "Get") [.lit ⟨.string, "\"/health\""⟩, limit, .ident "health"]

/-- A function that binds variables and registers a route. -/
def setup (bindings : List Stmt) : File :=
  ⟨"health", [], [.func ⟨"Setup", none, [], [], some (bindings ++ [.expr get]), [], 3⟩]⟩

/-- Both variables are bound twice. The group has the name that `limit` had when the group was made. -/
def bindings : List Stmt :=
  [.define [api] [group "\"/v1\"" [middleware "JWT"]], .define [limit] [middleware "Slow"],
    .assign [api] [group "\"/v2\"" [limit]], .assign [limit] [.call (middleware "Fast") []]]

theorem routes_of_latest_bindings_health :
    ∃ later, (setup bindings).routes "ms_health" =
      ⟨"/v2/health", .get, "health", "ms_health", ["mw.Slow", "mw.Fast"]⟩ :: later := by
  have hnodes : (setup bindings).nodes =
      (stmtNodes bindings ++ [.stmt (.expr get)]) ++ .expr get :: get.nodes.tail := rfl
  have hn : Registers (.expr get)
      ⟨api, .get, .lit ⟨.string, "\"/health\""⟩, [limit], "health"⟩ :=
    registration?_eq_some_iff.mp rfl
  obtain ⟨g, texts, later, hgroup, htexts, hroutes⟩ :=
    File.routes_of_latest_bindings (setup bindings) "ms_health" hn hnodes
  obtain rfl := (hgroup ⟨"/v2", ["mw.Slow"]⟩).mp ((RouteScan.handsDown_iff "ms_health").mpr rfl)
  obtain rfl := (htexts ["mw.Fast"]).mp ((RouteScan.forall₂_renders_iff "ms_health").mpr rfl)
  exact ⟨later, hroutes⟩

/-- Only an assignment of a group to one variable binds a group. The group outlasts an assignment of
something else, as does a name; neither a declaration nor an assignment to several variables binds
one. -/
theorem routes_other_bindings :
    (setup [.define [api] [group "\"/v1\"" [middleware "JWT"]], .assign [api] [.ident "app"]]).routes
        "ms_health" =
      [⟨"/v1/health", .get, "health", "ms_health", ["mw.JWT", "limit"]⟩] ∧
    (setup [.define [limit] [middleware "Slow"], .assign [limit] [.ident "burst"]]).routes
        "ms_health" =
      [⟨"/health", .get, "health", "ms_health", ["mw.Slow"]⟩] ∧
    (setup [.var [⟨["api"], none, [group "\"/v1\"" []]⟩]]).routes "ms_health" =
      [⟨"/health", .get, "health", "ms_health", ["limit"]⟩] ∧
    (setup [.define [api, limit] [group "\"/v1\"" [], middleware "Slow"]]).routes "ms_health" =
      [⟨"/health", .get, "health", "ms_health", ["limit"]⟩] := by
  refine ⟨?_, ?_, ?_, ?_⟩ <;> rfl

end HealthRoutes

end RouteDoc
