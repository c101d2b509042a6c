import RouteDoc.Proofs.KeyMap
import RouteDoc.Proofs.Last
import RouteDoc.Symbols

/-! Symbol tables of directories. Each look-up is answered by the last file that knows the name, so a
further file changes no answers but its own. -/
namespace RouteDoc
open Go

/-- The entries of a map, inserted into another one, count before those that were there. -/
theorem KeyMap.get?_foldl_insert {α : Type} (entries : List (String × α)) (m : KeyMap α)
    (k : String) :
    (entries.foldl (fun m e => m.insert e.1 e.2) m).get? k =
      ((ofList entries).get? k).or (m.get? k) := by
  have hlook := look_foldl (·.get? k) (fun (m : KeyMap α) (e : String × α) =>
    m.get?_insert_or e.1 k e.2) entries
  have hofList := hlook empty
  rw [show (empty : KeyMap α).get? k = none from rfl, Option.or_none] at hofList
  exact (hlook m).trans (congrArg (Option.or · _) hofList.symm)

namespace Go

/-- The type of a field, if it belongs to the struct that is declared. -/
def TypeSpec.fieldType? (spec : TypeSpec) (imports : KeyMap String) (struct field : String) :
    Option String :=
  match spec.type with
  | .struct fields =>
    fields.reverse.findSome? fun f => f.names.reverse.findSome? fun name =>
      if struct = spec.name ∧ field = name then some (f.type.mapPackages imports.resolve).render
      else none
  | _ => none

def TypeSpec.isStruct (spec : TypeSpec) : Bool :=
  match spec.type with
  | .struct _ => true
  | _ => false

namespace File

def function? (f : File) (name : String) : Option FuncDecl :=
  f.functions.reverse.findSome? fun d => if name = d.name then some d else none

def fieldType? (f : File) (struct field : String) : Option String :=
  f.types.reverse.findSome? fun spec => spec.fieldType? f.importMap struct field

theorem function?_eq_none {f : File} {name : String} (h : ∀ d ∈ f.functions, d.name ≠ name) :
    f.function? name = none := by
  refine List.findSome?_eq_none_iff.mpr fun d hd => ?_
  exact if_neg (Ne.symm (h d (List.mem_reverse.mp hd)))

theorem fieldType?_eq_none {f : File} {struct : String}
    (h : ∀ spec ∈ f.types, spec.isStruct = true → spec.name ≠ struct) (field : String) :
    f.fieldType? struct field = none := by
  refine List.findSome?_eq_none_iff.mpr fun spec hspec => ?_
  have hname := h spec (List.mem_reverse.mp hspec)
  unfold TypeSpec.isStruct at hname
  unfold TypeSpec.fieldType?
  split
  · rename_i fields htype
    rw [htype] at hname
    refine List.findSome?_eq_none_iff.mpr fun _ _ => List.findSome?_eq_none_iff.mpr fun _ _ => ?_
    exact if_neg fun heq => hname rfl heq.1.symm
  · rfl

end File

end Go

namespace Symbols
variable (s : Symbols)

theorem function?_addFunction (d : FuncDecl) (name : String) :
    (s.addFunction d).function? name =
      (if name = d.name then some d else none).or (s.function? name) :=
  s.functions.get?_insert_or d.name name d

theorem fieldType?_addField (a b type struct field : String) :
    (s.addField a b type).fieldType? struct field =
      (if struct = a ∧ field = b then some type else none).or (s.fieldType? struct field) := by
  have hupdate := KeyMap.bind_get?_update (e := {}) (·.get? field) rfl
    (fun fields => fields.get?_insert b field type) s.fields a struct
  refine Eq.trans hupdate ?_
  split_ifs <;> rfl

theorem fieldType?_addStruct (imports : KeyMap String) (spec : TypeSpec) (struct field : String) :
    (addStruct imports s spec).fieldType? struct field =
      (spec.fieldType? imports struct field).or (s.fieldType? struct field) := by
  unfold addStruct TypeSpec.fieldType?
  cases spec.type with
  | struct fields =>
    refine look_foldl (·.fieldType? struct field) (fun s f => ?_) fields s
    exact look_foldl (·.fieldType? struct field)
      (fun s name => s.fieldType?_addField spec.name name _ struct field) f.names s
  | _ => rfl

/-- Steps that change only the fields of structs do so together. -/
theorem foldl_fields {ε : Type} {step : Symbols → ε → Symbols}
    (h : ∀ s e, step s e = { s with fields := (step s e).fields }) (es : List ε) :
    es.foldl step s = { s with fields := (es.foldl step s).fields } := by
  induction es generalizing s with
  | nil => rfl
  | cons e es ih =>
    rw [List.foldl_cons, ih, h s e]

theorem addStruct_eq (imports : KeyMap String) (spec : TypeSpec) :
    addStruct imports s spec = { s with fields := (addStruct imports s spec).fields } := by
  unfold addStruct
  split
  · exact foldl_fields s (fun s f => foldl_fields s (fun _ _ => rfl) _) _
  · rfl

theorem foldl_addFunction (ds : List FuncDecl) :
    ds.foldl addFunction s =
      { s with functions := (ds.foldl addFunction s).functions } := by
  induction ds generalizing s with
  | nil => rfl
  | cons d ds ih =>
    rw [List.foldl_cons, ih]
    rfl

theorem function?_addFile (f : File) (name : String) :
    (s.addFile f).function? name = (f.function? name).or (s.function? name) := by
  unfold addFile
  dsimp only
  rw [foldl_fields _ (addStruct_eq · f.importMap)]
  exact look_foldl (fun s : Symbols => s.function? name) (fun s d => s.function?_addFunction d name)
    f.functions _

theorem package?_addFile (f : File) (name : String) :
    (s.addFile f).package? name = (f.importMap.get? name).or (s.package? name) := by
  unfold addFile
  dsimp only
  rw [foldl_fields _ (addStruct_eq · f.importMap), foldl_addFunction]
  have hget := KeyMap.get?_foldl_insert f.importMap.entries s.imports name
  rwa [f.importMap.ofList_entries] at hget

theorem fieldType?_addFile (f : File) (struct field : String) :
    (s.addFile f).fieldType? struct field =
      (f.fieldType? struct field).or (s.fieldType? struct field) := by
  unfold addFile
  dsimp only
  rw [foldl_addFunction]
  exact look_foldl (fun s : Symbols => s.fieldType? struct field)
    (fun s spec => s.fieldType?_addStruct f.importMap spec struct field) f.types _

/-- The last file that declares a function decides. -/
theorem function?_ofFiles (files : List File) (name : String) :
    (ofFiles files).function? name = files.reverse.findSome? fun f => f.function? name := by
  have h := look_foldl (fun s : Symbols => s.function? name)
    (fun s f => s.function?_addFile f name) files {}
  exact h.trans Option.or_none

theorem package?_ofFiles (files : List File) (name : String) :
    (ofFiles files).package? name = files.reverse.findSome? fun f => f.importMap.get? name := by
  have h := look_foldl (fun s : Symbols => s.package? name)
    (fun s f => s.package?_addFile f name) files {}
  exact h.trans Option.or_none

theorem fieldType?_ofFiles (files : List File) (struct field : String) :
    (ofFiles files).fieldType? struct field =
      files.reverse.findSome? fun f => f.fieldType? struct field := by
  have h := look_foldl (fun s : Symbols => s.fieldType? struct field)
    (fun s f => s.fieldType?_addFile f struct field) files {}
  exact h.trans Option.or_none

section Insertion
variable {before after : List File} {g : File}

private theorem findSome?_reverse_insert {β : Type} (answer : File → Option β) :
    (before ++ g :: after).reverse.findSome? answer =
      (after.reverse.findSome? answer).or
        ((answer g).or (before.reverse.findSome? answer)) := by
  have hlast : [g].findSome? answer = answer g := by simp
  rw [List.reverse_append, List.reverse_cons, List.append_assoc, List.findSome?_append,
    List.findSome?_append, hlast]

private theorem findSome?_reverse_insert_of_none {β : Type} {answer : File → Option β}
    (h : answer g = none) :
    (before ++ g :: after).reverse.findSome? answer =
      (before ++ after).reverse.findSome? answer := by
  rw [findSome?_reverse_insert, h, Option.none_or, List.reverse_append, List.findSome?_append]

theorem function?_insert {name : String} (h : ∀ d ∈ g.functions, d.name ≠ name) :
    (ofFiles (before ++ g :: after)).function? name = (ofFiles (before ++ after)).function? name := by
  rw [function?_ofFiles, function?_ofFiles,
    findSome?_reverse_insert_of_none (File.function?_eq_none h)]

theorem fieldType?_insert {struct : String}
    (h : ∀ spec ∈ g.types, spec.isStruct = true → spec.name ≠ struct) (field : String) :
    (ofFiles (before ++ g :: after)).fieldType? struct field =
      (ofFiles (before ++ after)).fieldType? struct field := by
  rw [fieldType?_ofFiles, fieldType?_ofFiles,
    findSome?_reverse_insert_of_none (File.fieldType?_eq_none h field)]

/-- The new file imports nothing under the name, or what it imports does not count: a later file
imports something under the name, or it stood for the same package before. -/
def LeavesImport (before : List File) (g : File) (after : List File) (name : String) : Prop :=
  ∀ package, g.importMap.get? name = some package →
    (∃ f ∈ after, f.importMap.contains name = true) ∨
      (ofFiles before).imports.resolve name = package

/-- Exactly then the name stands for the same package as without the file. -/
theorem resolve_insert_iff {name : String} :
    (ofFiles (before ++ g :: after)).imports.resolve name =
        (ofFiles (before ++ after)).imports.resolve name ↔
      LeavesImport before g after name := by
  have hresolve : ∀ files, (ofFiles files).imports.resolve name =
      (files.reverse.findSome? fun f => f.importMap.get? name).getD name :=
    fun files => congrArg (Option.getD · name) (package?_ofFiles files name)
  have hafter : after.reverse.findSome? (fun f => f.importMap.get? name) = none ↔
      ¬∃ f ∈ after, f.importMap.contains name = true := by
    simp [KeyMap.contains]
  unfold LeavesImport
  rw [hresolve, hresolve, hresolve, findSome?_reverse_insert, List.reverse_append,
    List.findSome?_append]
  cases hlater : after.reverse.findSome? (fun f => f.importMap.get? name) with
  | some package =>
    have hex := not_not.mp (mt hafter.mpr (by simp [hlater]))
    simp [hex]
  | none =>
    have hnex := hafter.mp hlater
    cases hg : g.importMap.get? name with
    | none => simp
    | some package =>
      rw [Option.none_or, Option.none_or, Option.some_or, Option.getD_some]
      constructor
      · intro heq p hp
        cases hp
        exact .inr heq.symm
      · intro hleaves
        exact ((hleaves package rfl).resolve_left hnex).symm

end Insertion

end Symbols

namespace Go.TypeExpr

mutual
/-- The packages that qualify names in a type, except inside inline structs. -/
def packages : TypeExpr → List String
  | qualified package _ => [package]
  | pointer elem => elem.packages
  | slice elem => elem.packages
  | chan elem => elem.packages
  | array _ elem => elem.packages
  | map key value => key.packages ++ value.packages
  | generic base args => base.packages ++ packagesList args
  | _ => []

def packagesList : List TypeExpr → List String
  | [] => []
  | t :: ts => t.packages ++ packagesList ts
end

theorem packagesList_eq_flatMap (ts : List TypeExpr) : packagesList ts = ts.flatMap packages := by
  induction ts with
  | nil => simp [packagesList]
  | cons t ts ih => simp [packagesList, ih]

theorem mapPackagesList_eq_map (f : String → String) (ts : List TypeExpr) :
    mapPackagesList f ts = ts.map (mapPackages f) := by
  induction ts with
  | nil => simp [mapPackagesList]
  | cons t ts ih => simp [mapPackagesList, ih]

theorem mapPackages_congr {f f' : String → String} (t : TypeExpr)
    (h : ∀ package ∈ t.packages, f package = f' package) : t.mapPackages f = t.mapPackages f' := by
  have ih : ∀ part : TypeExpr, sizeOf part < sizeOf t → part.packages ⊆ t.packages →
      part.mapPackages f = part.mapPackages f' := fun part _ hsub =>
    mapPackages_congr part fun package hpackage => h package (hsub hpackage)
  cases t with
  | qualified package name => simp only [mapPackages, h package (by simp [packages])]
  | pointer elem => simp only [mapPackages, ih elem (by simp) (by simp [packages])]
  | slice elem => simp only [mapPackages, ih elem (by simp) (by simp [packages])]
  | chan elem => simp only [mapPackages, ih elem (by simp) (by simp [packages])]
  | array length elem => simp only [mapPackages, ih elem (by simp) (by simp [packages])]
  | map key value =>
    have hkey := ih key (by rw [map.sizeOf_spec]; omega) (by simp [packages])
    have hvalue := ih value (by simp) (by simp [packages])
    simp only [mapPackages, hkey, hvalue]
  | generic base args =>
    have hbase := ih base (by rw [generic.sizeOf_spec]; omega) (by simp [packages])
    have hargs : ∀ arg ∈ args, arg.mapPackages f = arg.mapPackages f' := by
      intro arg harg
      refine ih arg ?_ ?_
      · have hlt := List.sizeOf_lt_of_mem harg
        rw [generic.sizeOf_spec]
        omega
      · rw [packages, packagesList_eq_flatMap]
        exact fun p hp => List.mem_append_right _ (List.mem_flatMap.mpr ⟨arg, harg, hp⟩)
    simp only [mapPackages, hbase, mapPackagesList_eq_map, List.map_congr_left hargs]
  | _ => rfl
termination_by sizeOf t

end Go.TypeExpr

/-- The text of a type depends only on the packages in it. -/
theorem Symbols.typeText_eq {s s' : Symbols} {t : TypeExpr}
    (h : ∀ package ∈ t.packages, s.imports.resolve package = s'.imports.resolve package) :
    s.typeText t = s'.typeText t :=
  congrArg TypeExpr.render (t.mapPackages_congr h)

end RouteDoc
