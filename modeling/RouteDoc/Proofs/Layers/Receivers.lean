import RouteDoc.Proofs.Layers.Methods
import RouteDoc.Proofs.Text

/-! Methods of business layers, and the receivers they are declared with. The layers of some files
answer with the last declaration of a method that has the type as its receiver, as long as receivers
that mention the type are the type itself or a pointer to it. With type arguments a receiver counts
for its first argument. -/
namespace RouteDoc
open Go LayerMethod

namespace Go

/-- The name of a type without pointers and type arguments. -/
def TypeExpr.ownName? : TypeExpr → Option String
  | named name => some name
  | pointer elem => elem.ownName?
  | generic base _ => base.ownName?
  | _ => none

/-- A name, behind any number of pointers. -/
def TypeExpr.isPlain : TypeExpr → Bool
  | named _ => true
  | pointer elem => elem.isPlain
  | _ => false

theorem TypeExpr.baseName?_of_isPlain {t : TypeExpr} (h : t.isPlain = true) :
    t.baseName? = t.ownName? := by
  fun_induction isPlain t with
  | case1 name => simp [baseName?, ownName?]
  | case2 elem ih => simpa [baseName?, ownName?] using ih h
  | case3 => cases h

/-- A type whose text is that of errors, here or in some package. -/
def TypeExpr.IsError (t : TypeExpr) : Prop :=
  t.render = "error" ∨ ".error".toList <:+ t.render.toList

instance (t : TypeExpr) : Decidable t.IsError := inferInstanceAs (Decidable (_ ∨ _))

/-- The type of the first result that is no error. -/
def FuncDecl.firstResult? (d : FuncDecl) : Option String :=
  (d.results.find? fun f => ¬f.type.IsError).map (·.type.render)

end Go

theorem isLayerName_iff {name : String} :
    isLayerName name = true ↔ layerSuffix.toList <:+ name.toList := List.isSuffixOf_iff_suffix

/-- Results that share a type count as one. -/
theorem primaryResult?_resultTypes (d : FuncDecl) : primaryResult? d.resultTypes = d.firstResult? := by
  have herror : ∀ t : TypeExpr, (t.render != "error" &&
      !".error".toList.isSuffixOf t.render.toList) = decide (¬t.IsError) := by
    intro t
    rw [Bool.eq_iff_iff]
    simp [TypeExpr.IsError, ← List.isSuffixOf_iff_suffix]
  unfold primaryResult? FuncDecl.resultTypes FuncDecl.firstResult?
  induction d.results with
  | nil => rfl
  | cons f fs ih =>
    have hmax : max f.names.length 1 ≠ 0 := by omega
    rw [List.flatMap_cons, List.find?_append, ih, List.find?_replicate, if_neg hmax, herror,
      List.find?_cons]
    by_cases hf : f.type.IsError
    · simp [hf]
    · simp [hf]

/-- The declarations of a method in the files of a package, in order, where `nameOf` tells to which
type a receiver belongs. -/
def methodDecls (nameOf : TypeExpr → Option String) (files : List File)
    (package type name : String) : List FuncDecl :=
  files.flatMap fun f => f.functions.filter fun d =>
    f.package = package ∧ d.receiver.bind (nameOf ·.type) = some type ∧ d.name = name

/-- Some file declares the type, and its name is that of a layer. -/
def DeclaresLayer (files : List File) (type : String) : Prop :=
  (∃ f ∈ files, ∃ spec ∈ f.types, spec.name = type) ∧ layerSuffix.toList <:+ type.toList

instance (files : List File) (type : String) : Decidable (DeclaresLayer files type) :=
  inferInstanceAs (Decidable (_ ∧ _))

theorem mem_typesOf_iff {files : List File} {type : String} :
    type ∈ Layers.typesOf files ↔ DeclaresLayer files type := by
  unfold DeclaresLayer
  rw [← isLayerName_iff]
  simp [Layers.typesOf]

theorem map_results_layerMethod? {types : List String} {type : String} (htype : type ∈ types)
    (d : FuncDecl) (package p name : String) :
    ((d.layerMethod? types package).filter fun m => m.key = (p, type, name)).map results =
      if package = p ∧ d.receiverType? = some type ∧ d.name = name then some d.resultTypes
      else none := by
  unfold FuncDecl.layerMethod?
  cases d.receiverType? with
  | none => simp
  | some t =>
    by_cases ht : t ∈ types
    · have hkey : (LayerMethod.mk package t d.name d.resultTypes).key = (p, type, name) ↔
          package = p ∧ t = type ∧ d.name = name := by simp [key]
      by_cases hall : package = p ∧ t = type ∧ d.name = name
      · obtain ⟨rfl, rfl, rfl⟩ := hall
        simp [ht, key]
      · simp [ht, hkey, hall]
    · have hne : t ≠ type := fun heq => ht (heq ▸ htype)
      simp [ht, hne]

theorem map_results_layerMethods {files : List File} {type : String} (h : DeclaresLayer files type)
    (package name : String) :
    ((layerMethods files).filter fun m => m.key = (package, type, name)).map results =
      (methodDecls TypeExpr.baseName? files package type name).map FuncDecl.resultTypes := by
  have htype : type ∈ Layers.typesOf files := mem_typesOf_iff.mpr h
  unfold layerMethods methodDecls
  rw [List.filter_flatMap, List.map_flatMap, List.map_flatMap]
  congr 1
  funext f
  rw [List.filter_filterMap, List.map_filterMap, ← List.filterMap_eq_map, List.filterMap_filter]
  refine List.filterMap_congr fun d _ => ?_
  rw [map_results_layerMethod? htype]
  simp only [decide_eq_true_eq]
  rfl

/-- The last method with a key is the last declaration with its parts. -/
theorem last?_layerMethods {files : List File} {type : String} (h : DeclaresLayer files type)
    (package name : String) :
    last? (layerMethods files) package type name =
      (methodDecls TypeExpr.baseName? files package type name).getLast?.map FuncDecl.resultTypes := by
  unfold last?
  rw [← List.getLast?_filter, ← List.getLast?_map, map_results_layerMethods h, List.getLast?_map]

theorem last?_layerMethods_eq_none {files : List File} {type : String}
    (h : ¬DeclaresLayer files type) (package name : String) :
    last? (layerMethods files) package type name = none := by
  refine last?_eq_none_iff.mpr fun m hm hkey => h ?_
  obtain ⟨f, -, hm⟩ := List.mem_flatMap.mp hm
  obtain ⟨d, -, hd⟩ := List.mem_filterMap.mp hm
  obtain ⟨t, -, ht⟩ := Option.bind_eq_some_iff.mp hd
  split_ifs at ht with hmem
  have hm := Option.some.inj ht
  subst hm
  have htype : t = type := congrArg (·.2.1) hkey
  exact mem_typesOf_iff.mp (htype ▸ List.contains_iff_mem.mp hmem)

/-- The layers of some files answer for a type by the declarations of its methods, where `nameOf` tells
to which type a receiver belongs: in each package by the last one, and by nothing else. -/
structure AnswersBy (nameOf : TypeExpr → Option String) (files : List File) (type : String) :
    Prop where
  complete : DeclaresLayer files type → ∀ package name d,
    (methodDecls nameOf files package type name).getLast? = some d →
      (Layers.addPackage {} files).resultType? package type name = d.firstResult?
  sound : ∀ package name result,
    (Layers.addPackage {} files).resultType? package type name = some result →
      DeclaresLayer files type ∧ ∃ p d,
        (methodDecls nameOf files p type name).getLast? = some d ∧ d.firstResult? = some result

theorem results?_addPackage_empty (files : List File) (package type name : String) :
    (Layers.addPackage {} files).results? package type name =
      last? (layerMethods files) package type name := by
  rw [Layers.results?_addPackage]
  exact Option.or_none

theorem Layers.exists_results?_of_resultType? {l : Layers} {package type name result : String}
    (h : l.resultType? package type name = some result) :
    ∃ p results, l.results? p type name = some results ∧ primaryResult? results = some result := by
  rw [resultType?_eq] at h
  obtain ⟨results, hresults, hprimary⟩ := Option.bind_eq_some_iff.mp h
  rcases Option.or_eq_some_iff.mp hresults with hown | ⟨-, hother⟩
  · exact ⟨package, results, hown, hprimary⟩
  · obtain ⟨p, -, hp⟩ := List.exists_of_findSome?_eq_some hother
    exact ⟨p, results, hp, hprimary⟩

theorem answersBy_baseName? (files : List File) (type : String) :
    AnswersBy TypeExpr.baseName? files type := by
  constructor
  · intro hlayer package name d hd
    have hresults : (Layers.addPackage {} files).results? package type name =
        some d.resultTypes := by
      rw [results?_addPackage_empty, last?_layerMethods hlayer, hd]
      rfl
    rw [Layers.resultType?_eq, hresults, ← primaryResult?_resultTypes]
    rfl
  · intro package name result hresult
    obtain ⟨p, results, hresults, hprimary⟩ := Layers.exists_results?_of_resultType? hresult
    rw [results?_addPackage_empty] at hresults
    by_cases hlayer : DeclaresLayer files type
    · rw [last?_layerMethods hlayer] at hresults
      obtain ⟨d, hd, rfl⟩ := Option.map_eq_some_iff.mp hresults
      refine ⟨hlayer, p, d, hd, ?_⟩
      rw [← primaryResult?_resultTypes, hprimary]
    · rw [last?_layerMethods_eq_none hlayer] at hresults
      cases hresults

/-- Receivers that may be taken for the type, by their own name or by the one that counts, are the type
itself or pointers to it. -/
def PlainReceivers (files : List File) (type : String) : Prop :=
  ∀ f ∈ files, ∀ d ∈ f.functions, ∀ r ∈ d.receiver,
    r.type.baseName? = some type ∨ r.type.ownName? = some type → r.type.isPlain = true

instance (files : List File) (type : String) : Decidable (PlainReceivers files type) :=
  inferInstanceAs (Decidable (∀ f ∈ files, ∀ d ∈ f.functions, ∀ r ∈ d.receiver, _))

theorem PlainReceivers.methodDecls_eq {files : List File} {type : String}
    (h : PlainReceivers files type) (package name : String) :
    methodDecls TypeExpr.baseName? files package type name =
      methodDecls TypeExpr.ownName? files package type name := by
  have hreceiver : ∀ f ∈ files, ∀ d ∈ f.functions,
      d.receiver.bind (·.type.baseName?) = some type ↔
        d.receiver.bind (·.type.ownName?) = some type := by
    intro f hf d hd
    cases hr : d.receiver with
    | none => rfl
    | some r =>
      have hplain := h f hf d hd r hr
      rw [Option.bind_some, Option.bind_some]
      constructor
      · intro hbase
        rw [← TypeExpr.baseName?_of_isPlain (hplain (.inl hbase)), hbase]
      · intro hown
        rw [TypeExpr.baseName?_of_isPlain (hplain (.inr hown)), hown]
  unfold methodDecls
  refine List.flatMap_congr fun f hf => List.filter_congr fun d hd => ?_
  simp only [hreceiver f hf d hd]

theorem PlainReceivers.answersBy {files : List File} {type : String} (h : PlainReceivers files type) :
    AnswersBy TypeExpr.ownName? files type := by
  have hbase := answersBy_baseName? files type
  constructor
  · intro hlayer package name d hd
    rw [← h.methodDecls_eq] at hd
    exact hbase.complete hlayer package name d hd
  · intro package name result hresult
    obtain ⟨hlayer, p, d, hd, hfirst⟩ := hbase.sound package name result hresult
    rw [h.methodDecls_eq] at hd
    exact ⟨hlayer, p, d, hd, hfirst⟩

theorem Layers.exists_resultType?_of_fieldCall? {l : Layers} {fieldType name result : String}
    (h : l.fieldCall? fieldType name = some result) :
    ∃ package type, l.resultType? package type name = some result := by
  obtain ⟨⟨package, type⟩, -, h⟩ := Option.bind_eq_some_iff.mp h
  dsimp only at h
  split_ifs at h
  exact ⟨_, _, h⟩

/-- A type whose receivers are the type itself or pointers to it is answered for by its own methods, the
last declaration in each package, and by no others. In general a receiver with type arguments counts
for the first of them. Calls through fields have no answers of their own. -/
theorem resultType?_by_receivers (files : List File) :
    (∀ type, PlainReceivers files type → AnswersBy TypeExpr.ownName? files type) ∧
    (∀ type, AnswersBy TypeExpr.baseName? files type) ∧
    (∀ fieldType name result, (Layers.addPackage {} files).fieldCall? fieldType name = some result →
      ∃ package type, (Layers.addPackage {} files).resultType? package type name = some result) :=
  ⟨fun _ => PlainReceivers.answersBy, answersBy_baseName? files,
    fun _ _ _ => Layers.exists_resultType?_of_fieldCall?⟩

namespace OrderLayers

/-- A generic type beside the layer. -/
def pages : File := file "orders" "Page"
  [method (.pointer (.generic (.named "Page") [.named "Order"])) "Next" (.named "Order")]

theorem resultType?_by_receivers_orders :
    PlainReceivers [orders, pages] "OrdersBusinessLayer" ∧
      (Layers.addPackage {} [orders, pages]).resultType? "orders" "OrdersBusinessLayer" "Create" =
        some "*Order" := by
  have hplain : PlainReceivers [orders, pages] "OrdersBusinessLayer" := by decide +kernel
  have hlayer : DeclaresLayer [orders, pages] "OrdersBusinessLayer" := by decide +kernel
  have hanswers := (resultType?_by_receivers [orders, pages]).1 _ hplain
  exact ⟨hplain, hanswers.complete hlayer "orders" "Create" _ rfl⟩

/-- A layer with a type parameter. -/
def cache : File := file "cache" "CacheBusinessLayer"
  [method (.pointer (.generic (.named "CacheBusinessLayer") [.named "K"])) "Get"
    (.pointer (.named "Entry"))]

/-- A generic type with the name of a layer as its type parameter. -/
def box : File := file "orders" "OrdersBusinessLayer"
  [method (.pointer (.generic (.named "Box") [.named "OrdersBusinessLayer"])) "Open"
    (.named "string")]

/-- The method of the generic layer is not found, and that of the other type is found on the layer. -/
theorem not_answersBy_ownName? :
    ¬AnswersBy TypeExpr.ownName? [cache] "CacheBusinessLayer" ∧
      ¬AnswersBy TypeExpr.ownName? [box] "OrdersBusinessLayer" := by
  constructor
  · intro h
    have hlayer : DeclaresLayer [cache] "CacheBusinessLayer" := by decide +kernel
    have hnone : (Layers.addPackage {} [cache]).resultType? "cache" "CacheBusinessLayer" "Get" =
        none := by decide +kernel
    have hanswer := h.complete hlayer "cache" "Get" _ rfl
    rw [hnone] at hanswer
    cases hanswer
  · intro h
    have hsome : (Layers.addPackage {} [box]).resultType? "orders" "OrdersBusinessLayer" "Open" =
        some "string" := by decide +kernel
    obtain ⟨-, p, d, hd, -⟩ := h.sound "orders" "Open" "string" hsome
    have hnil : methodDecls TypeExpr.ownName? [box] p "OrdersBusinessLayer" "Open" = [] := by
      simp [methodDecls, box, file, method, File.functions, TypeExpr.ownName?]
    rw [hnil] at hd
    cases hd

end OrderLayers

end RouteDoc
