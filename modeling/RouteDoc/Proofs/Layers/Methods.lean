import RouteDoc.Layers
import RouteDoc.Proofs.KeyMap
import RouteDoc.Proofs.Last

/-! Business layers as rows of methods. The files of a package add the methods of their layers under
package, type and method name, and the last method with a key answers for it. A key without a method
is answered by the least package that has the type and the name, whether or not the layer itself is
known; methods with different keys may come in any order. -/
namespace RouteDoc
open Go

/-- A method of a layer, as it is added to the others. -/
structure LayerMethod where
  package : String
  type : String
  name : String
  results : List String
deriving DecidableEq

namespace LayerMethod

/-- Where the results are found. -/
def key (m : LayerMethod) : String × String × String := (m.package, m.type, m.name)

/-- The last method with its key. -/
def IsLast (ms : List LayerMethod) (m : LayerMethod) : Prop := IsLastBy key ms m

/-- The last method with its key, in the least package that has the type and the name. -/
structure Leads (ms : List LayerMethod) (m : LayerMethod) : Prop where
  last : IsLast ms m
  least : ∀ m' ∈ ms, m'.type = m.type → m'.name = m.name → m.package ≤ m'.package

/-- The results of the last method with a key. -/
def last? (ms : List LayerMethod) (package type name : String) : Option (List String) :=
  (ms.reverse.find? fun m => m.key = (package, type, name)).map results

variable {ms : List LayerMethod} {m : LayerMethod} {package type name : String}

theorem last?_eq_some_iff {results : List String} :
    last? ms package type name = some results ↔
      ∃ m, IsLast ms m ∧ m.key = (package, type, name) ∧ m.results = results := by
  unfold last?
  rw [Option.map_eq_some_iff]
  refine exists_congr fun m => ?_
  rw [find?_reverse_eq_some_iff, and_comm (a := m.key = _), and_assoc]
  rfl

theorem last?_eq_none_iff :
    last? ms package type name = none ↔ ∀ m ∈ ms, m.key ≠ (package, type, name) := by
  simp [last?]

theorem IsLast.mem (h : IsLast ms m) : m ∈ ms := by
  obtain ⟨before, after, hms, -⟩ := h
  rw [hms]
  exact List.mem_append_right _ List.mem_cons_self

theorem IsLast.last?_eq (h : IsLast ms m) : last? ms m.package m.type m.name = some m.results :=
  last?_eq_some_iff.mpr ⟨m, h, rfl, rfl⟩

theorem Leads.isLeast (h : Leads ms m) :
    IsLeast {p | (last? ms p m.type m.name).isSome = true} m.package := by
  constructor
  · exact Option.isSome_of_mem h.last.last?_eq
  · intro p hp
    obtain ⟨results, hresults⟩ := Option.isSome_iff_exists.mp hp
    obtain ⟨m', hm', hkey, -⟩ := last?_eq_some_iff.mp hresults
    have hle := h.least m' hm'.mem (congrArg (·.2.1) hkey) (congrArg (·.2.2) hkey)
    exact hle.trans_eq (congrArg (·.1) hkey)

theorem exists_leads_of_isLeast {results : List String}
    (hleast : IsLeast {p | (last? ms p type name).isSome = true} package)
    (hresults : last? ms package type name = some results) :
    ∃ m, Leads ms m ∧ m.type = type ∧ m.name = name ∧ m.results = results := by
  obtain ⟨m, hm, hkey, hres⟩ := last?_eq_some_iff.mp hresults
  obtain ⟨rfl, rfl, rfl⟩ : m.package = package ∧ m.type = type ∧ m.name = name := by
    simpa [key] using hkey
  refine ⟨m, ⟨hm, fun m' hm' htype hname => hleast.2 ?_⟩, rfl, rfl, hres⟩
  -- the package of another such method has an answer too
  have hne : last? ms m'.package m.type m.name ≠ none := fun hnone =>
    last?_eq_none_iff.mp hnone m' hm' (by rw [key, htype, hname])
  exact Option.isSome_iff_ne_none.mpr hne

theorem last?_eq_some_iff_of_nodup (hkeys : (ms.map key).Nodup) {results : List String} :
    last? ms package type name = some results ↔
      ∃ m ∈ ms, m.key = (package, type, name) ∧ m.results = results := by
  rw [last?_eq_some_iff]
  refine exists_congr fun m => and_congr_left fun _ => ⟨IsLast.mem, fun hm => ?_⟩
  -- the only method with its key is the last one
  obtain ⟨before, after, hms⟩ := List.append_of_mem hm
  rw [hms, List.map_append, List.map_cons, List.nodup_append] at hkeys
  have hafter := (List.nodup_cons.mp hkeys.2.1).1
  exact ⟨before, after, hms, fun m' hm' heq => hafter (List.mem_map.mpr ⟨m', hm', heq⟩)⟩

/-- Where no key occurs twice the order says nothing. -/
theorem last?_perm {ms' : List LayerMethod} (hperm : ms.Perm ms') (hkeys : (ms.map key).Nodup) :
    last? ms package type name = last? ms' package type name := by
  have hkeys' : (ms'.map key).Nodup := (hperm.map key).nodup_iff.mp hkeys
  refine Option.ext fun results => ?_
  rw [last?_eq_some_iff_of_nodup hkeys, last?_eq_some_iff_of_nodup hkeys']
  exact exists_congr fun m => and_congr_left fun _ => hperm.mem_iff

end LayerMethod

open LayerMethod

/-- What a function adds, if its receiver is one of the layer types. -/
def Go.FuncDecl.layerMethod? (types : List String) (package : String) (d : FuncDecl) :
    Option LayerMethod :=
  d.receiverType?.bind fun type =>
    if types.contains type then some ⟨package, type, d.name, d.resultTypes⟩ else none

/-- What the files of a package add, in the order of their declarations. -/
def layerMethods (files : List File) : List LayerMethod :=
  files.flatMap fun f => f.functions.filterMap (·.layerMethod? (Layers.typesOf files) f.package)

theorem layerMethods_perm {files files' : List File} (h : files.Perm files') :
    (layerMethods files).Perm (layerMethods files') := by
  have htypes : (Layers.typesOf files).Perm (Layers.typesOf files') :=
    (h.flatMap_right _).filter isLayerName
  have hcontains : (Layers.typesOf files).contains = (Layers.typesOf files').contains := by
    funext type
    rw [Bool.eq_iff_iff, List.contains_iff_mem, List.contains_iff_mem]
    exact htypes.mem_iff
  unfold layerMethods Go.FuncDecl.layerMethod?
  rw [hcontains]
  exact h.flatMap_right _

namespace Layers
variable {l l' : Layers}

def addLayerMethod (l : Layers) (m : LayerMethod) : Layers := l.add m.package m.type m.name m.results

theorem addMethod_eq (types : List String) (package : String) (l : Layers) (d : FuncDecl) :
    addMethod types package l d = (d.layerMethod? types package).elim l l.addLayerMethod := by
  unfold addMethod FuncDecl.layerMethod?
  cases d.receiverType? with
  | none => rfl
  | some type =>
    rw [Option.bind_some]
    dsimp only
    split_ifs <;> rfl

theorem addPackage_eq (l : Layers) (files : List File) :
    l.addPackage files = (layerMethods files).foldl addLayerMethod l := by
  have hfunctions : ∀ (package : String) (ds : List FuncDecl) (l : Layers),
      ds.foldl (addMethod (typesOf files) package) l =
        (ds.filterMap (·.layerMethod? (typesOf files) package)).foldl addLayerMethod l := by
    intro package ds l
    rw [List.foldl_filterMap]
    congr 1
    funext l d
    rw [addMethod_eq]
    cases d.layerMethod? (typesOf files) package <;> rfl
  unfold addPackage layerMethods
  rw [List.foldl_flatMap]
  simp only [hfunctions]

/-- The layers of several packages, added one after the other. -/
def ofPackages (packages : List (List File)) : Layers := packages.foldl addPackage {}

theorem ofPackages_eq (packages : List (List File)) :
    ofPackages packages = (packages.flatMap layerMethods).foldl addLayerMethod {} := by
  unfold ofPackages
  rw [List.foldl_flatMap]
  congr 1
  funext l files
  exact l.addPackage_eq files

theorem results?_addLayerMethod (l : Layers) (m : LayerMethod) (package type name : String) :
    (l.addLayerMethod m).results? package type name =
      if (package, type, name) = m.key then some m.results else l.results? package type name := by
  have hpackages : (l.addLayerMethod m).results? package type name =
      if package = m.package ∧ type = m.type ∧ name = m.name then some m.results
      else l.results? package type name := by
    refine KeyMap.bind_get?_update (e := {}) (c := type = m.type ∧ name = m.name)
      (f := fun types => types.insert m.type (((types.get? m.type).getD {}).insert m.name m.results))
      (fun types => (types.get? type).bind (·.get? name)) rfl (fun types => ?_) l.methods _ package
    exact KeyMap.bind_get?_update (e := {}) (·.get? name) rfl
      (fun methods => methods.get?_insert m.name name m.results) types m.type type
  rw [hpackages]
  simp only [key, Prod.mk.injEq]

theorem results?_addLayerMethods (l : Layers) (ms : List LayerMethod) (package type name : String) :
    (ms.foldl addLayerMethod l).results? package type name =
      (last? ms package type name).or (l.results? package type name) :=
  look_foldl_of_key (fun l : Layers => l.results? package type name)
    (fun l m => l.results?_addLayerMethod m package type name) ms l

theorem results?_addPackage (l : Layers) (files : List File) (package type name : String) :
    (l.addPackage files).results? package type name =
      (last? (layerMethods files) package type name).or (l.results? package type name) := by
  rw [addPackage_eq, results?_addLayerMethods]

theorem results?_ofPackages (packages : List (List File)) (package type name : String) :
    (ofPackages packages).results? package type name =
      last? (packages.flatMap layerMethods) package type name := by
  rw [ofPackages_eq, results?_addLayerMethods]
  exact Option.or_none

theorem resultType?_eq (l : Layers) (package type name : String) :
    l.resultType? package type name =
      ((l.results? package type name).or
        (l.methods.keys.findSome? (l.results? · type name))).bind primaryResult? := by
  unfold resultType?
  cases l.results? package type name <;> rfl

theorem contains_of_results? {package type name : String}
    (h : (l.results? package type name).isSome = true) : l.methods.contains package = true := by
  unfold results? at h
  cases hget : l.methods.get? package with
  | none => simp [hget] at h
  | some types => exact (l.methods.contains_iff_exists package).mpr ⟨types, hget⟩

/-- Where a key has no results, the least package that has the type and the name answers. -/
theorem resultType?_of_none {package type name : String}
    (h : l.results? package type name = none) :
    (∀ p, l.results? p type name = none) ∧ l.resultType? package type name = none ∨
      ∃ p results, IsLeast {p | (l.results? p type name).isSome = true} p ∧
        l.results? p type name = some results ∧
        l.resultType? package type name = primaryResult? results := by
  have hcontains : ∀ p, (l.results? p type name).isSome = true → l.methods.contains p = true :=
    fun _ => contains_of_results?
  rw [resultType?_eq, h, Option.none_or]
  rcases KeyMap.findSome?_keys_cases hcontains with ⟨hnone, hfind⟩ | ⟨p, hp, hfind⟩
  · left
    rw [hfind]
    exact ⟨hnone, rfl⟩
  · right
    obtain ⟨results, hresults⟩ := Option.isSome_iff_exists.mp hp.1
    refine ⟨p, results, hp, hresults, ?_⟩
    rw [hfind, hresults]
    rfl

/-- A method answers for its key, the last one if there are several. A key without a method is answered
by the least package that has the type and the name, and has no answer just where that method has no
result to give; it makes no difference whether the package has other methods of the type. -/
theorem resultType?_ofPackages (packages : List (List File)) (package type name : String) :
    (∀ m, IsLast (packages.flatMap layerMethods) m → m.key = (package, type, name) →
      (ofPackages packages).resultType? package type name = primaryResult? m.results) ∧
    ((∀ m ∈ packages.flatMap layerMethods, m.key ≠ (package, type, name)) →
      (∀ m, Leads (packages.flatMap layerMethods) m → m.type = type → m.name = name →
        (ofPackages packages).resultType? package type name = primaryResult? m.results) ∧
      ((ofPackages packages).resultType? package type name = none ↔
        ∀ m, Leads (packages.flatMap layerMethods) m → m.type = type → m.name = name →
          primaryResult? m.results = none)) := by
  constructor
  · intro m hm hkey
    have hlast := last?_eq_some_iff.mpr ⟨m, hm, hkey, rfl⟩
    rw [resultType?_eq, results?_ofPackages, hlast]
    rfl
  · intro hnone
    have hkey : (ofPackages packages).results? package type name = none := by
      rw [results?_ofPackages]
      exact last?_eq_none_iff.mpr hnone
    have hcases := resultType?_of_none hkey
    simp only [results?_ofPackages] at hcases
    have hleads : ∀ m, Leads (packages.flatMap layerMethods) m → m.type = type → m.name = name →
        (ofPackages packages).resultType? package type name = primaryResult? m.results := by
      intro m hm htype hname
      subst htype hname
      have hlast := hm.last.last?_eq
      rcases hcases with ⟨hall, -⟩ | ⟨p, results, hp, hresults, hanswer⟩
      · rw [hall m.package] at hlast
        cases hlast
      · rw [hp.unique hm.isLeast, hlast] at hresults
        rw [hanswer, Option.some.inj hresults]
    refine ⟨hleads, fun hanswer m hm htype hname => ?_, fun hprimary => ?_⟩
    · rw [← hleads m hm htype hname, hanswer]
    · rcases hcases with ⟨-, hanswer⟩ | ⟨p, results, hp, hresults, hanswer⟩
      · exact hanswer
      · obtain ⟨m, hm, htype, hname, hres⟩ := exists_leads_of_isLeast hp hresults
        rw [hanswer, ← hres]
        exact hprimary m hm htype hname

end Layers

/-! Two packages that have a layer of one name. -/
namespace OrderLayers

/-- A method with a result and an error. -/
def method (receiver : TypeExpr) (name : String) (result : TypeExpr) : FuncDecl where
  name := name
  receiver := some ⟨some "b", receiver⟩
  params := []
  results := [⟨[], result, none, []⟩, ⟨[], .named "error", none, []⟩]
  body := none
  doc := []
  line := 1

/-- A file that declares a type and some methods. -/
def file (package type : String) (methods : List FuncDecl) : File where
  package := package
  imports := []
  decls := .type ⟨type, .struct [], [], false⟩ :: methods.map .func

def orders : File := file "orders" "OrdersBusinessLayer"
  [method (.pointer (.named "OrdersBusinessLayer")) "Create" (.pointer (.named "Order"))]

def archive : File := file "archive" "OrdersBusinessLayer"
  [method (.pointer (.named "OrdersBusinessLayer")) "Create" (.named "Receipt"),
   method (.named "OrdersBusinessLayer") "List" (.slice (.named "Record"))]

theorem flatMap_layerMethods :
    [[orders], [archive]].flatMap layerMethods =
      [⟨"orders", "OrdersBusinessLayer", "Create", ["*Order", "error"]⟩,
       ⟨"archive", "OrdersBusinessLayer", "Create", ["Receipt", "error"]⟩,
       ⟨"archive", "OrdersBusinessLayer", "List", ["[]Record", "error"]⟩] := by
  decide +kernel

/-- A package answers with its own method, and for an unknown package the least one does. -/
theorem resultType?_ofPackages_orders :
    (Layers.ofPackages [[orders], [archive]]).resultType? "orders" "OrdersBusinessLayer" "Create" =
      some "*Order" ∧
    (Layers.ofPackages [[orders], [archive]]).resultType? "web" "OrdersBusinessLayer" "Create" =
      some "Receipt" := by
  have horders : IsLast ([[orders], [archive]].flatMap layerMethods)
      ⟨"orders", "OrdersBusinessLayer", "Create", ["*Order", "error"]⟩ := by
    rw [flatMap_layerMethods]
    exact ⟨[], _, rfl, by decide⟩
  have harchive : Leads ([[orders], [archive]].flatMap layerMethods)
      ⟨"archive", "OrdersBusinessLayer", "Create", ["Receipt", "error"]⟩ := by
    rw [flatMap_layerMethods]
    exact ⟨⟨[_], _, rfl, by decide⟩, by decide⟩
  have hweb : ∀ m ∈ [[orders], [archive]].flatMap layerMethods,
      m.key ≠ ("web", "OrdersBusinessLayer", "Create") := by
    rw [flatMap_layerMethods]
    decide
  constructor
  · exact (Layers.resultType?_ofPackages _ _ _ _).1 _ horders rfl
  · exact ((Layers.resultType?_ofPackages _ _ _ _).2 hweb).1 _ harchive rfl rfl

/-- A known layer answers with a method that only another package has. -/
theorem resultType?_orders_list :
    (∃ m ∈ [[orders], [archive]].flatMap layerMethods,
      m.package = "orders" ∧ m.type = "OrdersBusinessLayer") ∧
    (∀ m ∈ [[orders], [archive]].flatMap layerMethods,
      m.key ≠ ("orders", "OrdersBusinessLayer", "List")) ∧
    (Layers.ofPackages [[orders], [archive]]).resultType? "orders" "OrdersBusinessLayer" "List" =
      some "[]Record" := by
  rw [flatMap_layerMethods]
  exact ⟨by decide, by decide, by decide +kernel⟩

end OrderLayers

namespace Layers
variable {l l' : Layers}

/-- All questions have the same answers. -/
structure SameAnswers (l l' : Layers) : Prop where
  method : ∀ package type name, l.resultType? package type name = l'.resultType? package type name
  field : ∀ fieldType name, l.fieldCall? fieldType name = l'.fieldCall? fieldType name

theorem sameAnswers_of_results?
    (h : ∀ package type name, l.results? package type name = l'.results? package type name) :
    l.SameAnswers l' := by
  have hmethod : ∀ package type name,
      l.resultType? package type name = l'.resultType? package type name := by
    intro package type name
    have hlook : (l.results? · type name) = (l'.results? · type name) :=
      funext fun p => h p type name
    have hfind : l.methods.keys.findSome? (l.results? · type name) =
        l'.methods.keys.findSome? (l'.results? · type name) := by
      rw [hlook]
      refine KeyMap.findSome?_keys_eq (fun p hp => ?_) fun _ => contains_of_results?
      exact contains_of_results? (h p type name ▸ hp)
    rw [resultType?_eq, resultType?_eq, h, hfind]
  refine ⟨hmethod, fun fieldType name => ?_⟩
  unfold fieldCall?
  simp only [hmethod]

theorem sameAnswers_addPackage_comm (l : Layers) {a b : List File}
    (h : ∀ m ∈ layerMethods a, ∀ m' ∈ layerMethods b, m.key ≠ m'.key) :
    SameAnswers ((l.addPackage a).addPackage b) ((l.addPackage b).addPackage a) := by
  refine sameAnswers_of_results? fun package type name => ?_
  simp only [results?_addPackage]
  -- only one of the packages has the key
  cases ha : last? (layerMethods a) package type name with
  | none => simp only [Option.none_or]
  | some results =>
    obtain ⟨m, hm, hkey, -⟩ := last?_eq_some_iff.mp ha
    have hb : last? (layerMethods b) package type name = none :=
      last?_eq_none_iff.mpr fun m' hm' heq => h m hm.mem m' hm' (hkey.trans heq.symm)
    rw [hb, Option.none_or, Option.none_or]

theorem sameAnswers_addPackage_perm (l : Layers) {files files' : List File}
    (hperm : files.Perm files') (hkeys : ((layerMethods files).map key).Nodup) :
    SameAnswers (l.addPackage files) (l.addPackage files') := by
  refine sameAnswers_of_results? fun package type name => ?_
  rw [results?_addPackage, results?_addPackage, last?_perm (layerMethods_perm hperm) hkeys]

/-- Packages without a common key may be added in either order, and the files of a package that has no
key twice in any order: no answer tells the difference. -/
theorem sameAnswers_of_any_order (l : Layers) :
    (∀ a b : List File, (∀ m ∈ layerMethods a, ∀ m' ∈ layerMethods b, m.key ≠ m'.key) →
      SameAnswers ((l.addPackage a).addPackage b) ((l.addPackage b).addPackage a)) ∧
    (∀ files files' : List File, files.Perm files' → ((layerMethods files).map key).Nodup →
      SameAnswers (l.addPackage files) (l.addPackage files')) :=
  ⟨fun _ _ => l.sameAnswers_addPackage_comm, fun _ _ => l.sameAnswers_addPackage_perm⟩

end Layers

namespace OrderLayers

/-- The two packages, as packages of their own and as two files of one. -/
theorem sameAnswers_of_any_order_orders :
    Layers.SameAnswers ((({} : Layers).addPackage [orders]).addPackage [archive])
      ((({} : Layers).addPackage [archive]).addPackage [orders]) ∧
    Layers.SameAnswers (({} : Layers).addPackage [orders, archive])
      (({} : Layers).addPackage [archive, orders]) := by
  have hkeys : ∀ m ∈ layerMethods [orders], ∀ m' ∈ layerMethods [archive], m.key ≠ m'.key := by
    decide +kernel
  have hnodup : ((layerMethods [orders, archive]).map key).Nodup := by decide +kernel
  constructor
  · exact (Layers.sameAnswers_of_any_order {}).1 _ _ hkeys
  · exact (Layers.sameAnswers_of_any_order {}).2 _ _ (.swap _ _ _) hnodup

end OrderLayers

end RouteDoc
