import RouteDoc.Model
import RouteDoc.Proofs.Text

/-! The model that a name refers to. A qualifier is answered by the first model that lies in the
directory of the package or below it, or has the package in its clause. So the package itself answers
unless another one below its directory comes first. -/
namespace RouteDoc
open Disk Go

namespace ModelIndex
variable {index : ModelIndex} {name : String}

theorem mem_named {m : Model} : m ∈ index.named name ↔ m ∈ index.models ∧ m.name = name := by
  simp [named]

theorem contains_iff : index.contains name = true ↔ ∃ m, m ∈ index.named name := by
  rw [contains, Bool.not_eq_true', List.isEmpty_eq_false_iff_exists_mem]

theorem mem_named_of_find? {package : Option String} {dir : Option FilePath} {m : Model}
    (h : index.find? package name dir = some m) : m ∈ index.named name := by
  simp only [find?, Option.orElse_eq_orElse, Option.orElse_eq_or, Option.or_eq_some_iff,
    Option.bind_eq_some_iff] at h
  rcases h with ⟨p, -, h⟩ | ⟨-, ⟨d, -, h⟩ | ⟨-, h⟩⟩
  · exact List.mem_of_find?_eq_some h
  · exact List.mem_of_find?_eq_some h
  · exact List.mem_of_head? h

theorem find?_eq_none_iff {package : Option String} {dir : Option FilePath} :
    index.find? package name dir = none ↔ index.contains name = false := by
  constructor
  · intro h
    simp only [find?, Option.orElse_eq_orElse, Option.orElse_eq_or, Option.or_eq_none_iff,
      List.head?_eq_none_iff] at h
    simp [contains, h.2.2]
  · intro h
    cases hf : index.find? package name dir with
    | none => rfl
    | some m =>
      have hc := contains_iff.mpr ⟨m, mem_named_of_find? hf⟩
      rw [h] at hc
      cases hc

theorem packageDir_models (index : ModelIndex) (dir : String) :
    index.packageDir (dir ++ "_models") = FilePath.join index.root dir := by
  have hsuffix : "_models".toList.isSuffixOf? (dir ++ "_models").toList = some dir.toList := by
    rw [String.toList_append]
    exact List.isSuffixOf?_eq_some_iff_append_eq.mpr rfl
  rw [packageDir, hsuffix, Option.map_some, Option.getD_some, String.ofList_toList]

/-- A model that a qualifier can be taken for. -/
def Fits (index : ModelIndex) (package : String) (m : Model) : Prop :=
  FilePath.isUnder m.dir (index.packageDir package) = true ∨ m.package = package

/-- Before every model with the name that lies below the directory of the package and belongs to
another one there is a model of the package itself. -/
def OwnFirst (index : ModelIndex) (package name : String) : Prop :=
  ∀ before m after, index.named name = before ++ m :: after →
    FilePath.isUnder m.dir (index.packageDir package) = true → m.package ≠ package →
      ∃ own ∈ before, own.package = package

theorem ownFirst_of_forall {package : String} (h : ∀ m ∈ index.named name,
    FilePath.isUnder m.dir (index.packageDir package) = true → m.package = package) :
    index.OwnFirst package name := by
  intro before m after hnamed hunder hother
  have hm : m ∈ index.named name := hnamed ▸ List.mem_append_right before List.mem_cons_self
  exact absurd (h m hm hunder) hother

/-- Of the models that fit, the first one answers. -/
theorem exists_first_fit {package : String} (h : ∃ m ∈ index.named name, index.Fits package m)
    (dir : Option FilePath) :
    ∃ before m after, index.named name = before ++ m :: after ∧
      index.find? (some package) name dir = some m ∧ index.Fits package m ∧
        ∀ x ∈ before, ¬ index.Fits package x := by
  have hfits : ∀ m : Model, (FilePath.isUnder m.dir (index.packageDir package) ||
      m.package == package) = true ↔ index.Fits package m := by
    intro m
    rw [Bool.or_eq_true, beq_iff_eq]
    rfl
  obtain ⟨m, hm⟩ : ∃ m, ((index.named name).find? fun m =>
      FilePath.isUnder m.dir (index.packageDir package) || m.package == package) = some m := by
    obtain ⟨m, hm, hfit⟩ := h
    exact Option.isSome_iff_exists.mp (List.find?_isSome.mpr ⟨m, hm, (hfits m).mpr hfit⟩)
  obtain ⟨hfit, before, after, hnamed, hbefore⟩ := List.find?_eq_some_iff_append.mp hm
  refine ⟨before, m, after, hnamed, ?_, (hfits m).mp hfit, fun x hx hfit => ?_⟩
  · simp only [find?, Option.bind_some, hm]
    rfl
  · have hnot := hbefore x hx
    rw [(hfits x).mpr hfit] at hnot
    cases hnot

/-- A package that has a model with the name is answered by one of its own exactly if none of another
package below its directory comes first. -/
theorem exists_find?_package_iff {package : String}
    (h : ∃ m ∈ index.named name, m.package = package) (dir : Option FilePath) :
    (∃ m, index.find? (some package) name dir = some m ∧ m.package = package) ↔
      index.OwnFirst package name := by
  obtain ⟨own, hown, hpackage⟩ := h
  obtain ⟨before, m, after, hnamed, hfind, hfit, hbefore⟩ :=
    exists_first_fit ⟨own, hown, .inr hpackage⟩ dir
  constructor
  · rintro ⟨m', hm', hm'package⟩
    rw [hfind] at hm'
    cases hm'
    intro front x rest hsplit hunder hother
    -- `x` fits as well, so it comes after `m`
    rcases List.append_eq_append_iff.mp (hnamed.symm.trans hsplit) with ⟨gap, rfl, hgap⟩ | ⟨gap, rfl, hgap⟩
    · rcases List.cons_eq_append_iff.mp hgap with ⟨rfl, hcons⟩ | ⟨gap, rfl, -⟩
      · cases hcons
        exact absurd hm'package hother
      · exact ⟨m, by simp, hm'package⟩
    · rcases List.cons_eq_append_iff.mp hgap with ⟨rfl, hcons⟩ | ⟨gap, rfl, -⟩
      · cases hcons
        exact absurd hm'package hother
      · exact absurd (.inl hunder) (hbefore x (by simp))
  · intro hfirst
    by_cases hm : m.package = package
    · exact ⟨m, hfind, hm⟩
    · obtain ⟨x, hx, hxpackage⟩ := hfirst before m after hnamed (hfit.resolve_right hm) hm
      exact absurd (.inr hxpackage) (hbefore x hx)

/-- A name refers to some model exactly if it is declared, and then to a model with that name. With a
qualifier whose own directory holds the name, the model fits the qualifier, and it is of the package
itself exactly if no other package below the directory comes first. -/
theorem find?_exact (index : ModelIndex) (name : String) (dir : Option FilePath) :
    (∀ package, (∃ m, index.find? package name dir = some m) ↔ ∃ m ∈ index.models, m.name = name) ∧
    (∀ package m, index.find? package name dir = some m → m ∈ index.models ∧ m.name = name) ∧
    ∀ package, (∃ m ∈ index.models, m.name = name ∧
        FilePath.same m.dir (index.packageDir package) = true ∧ m.package = package) →
      (∃ m, index.find? (some package) name dir = some m ∧ index.Fits package m) ∧
      ((∃ m, index.find? (some package) name dir = some m ∧ m.package = package) ↔
        index.OwnFirst package name) := by
  refine ⟨fun package => ?_, fun package m hm => mem_named.mp (mem_named_of_find? hm), ?_⟩
  · rw [← Option.isSome_iff_exists, ← Option.ne_none_iff_isSome, Ne, find?_eq_none_iff,
      Bool.not_eq_false, contains_iff]
    exact exists_congr fun m => mem_named
  · rintro package ⟨m, hm, hname, -, hpackage⟩
    have hnamed : m ∈ index.named name := mem_named.mpr ⟨hm, hname⟩
    obtain ⟨-, first, -, -, hfind, hfit, -⟩ := exists_first_fit ⟨m, hnamed, .inr hpackage⟩ dir
    exact ⟨⟨first, hfind, hfit⟩, exists_find?_package_iff ⟨m, hnamed, hpackage⟩ dir⟩

namespace NestedModels

/-- A file that declares one type. -/
def itemFile (package : String) : File := ⟨package, [], [.type ⟨"Item", .struct [], [], false⟩]⟩

def item (package : String) (dir : FilePath) : Model := ⟨"Item", package, dir, none, .struct []⟩

/-- Two packages that declare the same name. The file of the archive comes first. -/
def shop (archive : FilePath) : ModelIndex :=
  .ofFiles "/models" [(archive, itemFile "archive_models"),
    ("/models/orders/item.go", itemFile "orders_models")]

theorem models_shop (archive : FilePath) : (shop archive).models =
    [item "archive_models" ((FilePath.parent? archive).getD ""),
      item "orders_models" "/models/orders"] := rfl

theorem exists_own_item (archive : FilePath) : ∃ m ∈ (shop archive).models, m.name = "Item" ∧
    FilePath.same m.dir ((shop archive).packageDir "orders_models") = true ∧
      m.package = "orders_models" := by
  have hdir : (shop archive).packageDir "orders_models" = "/models/orders" :=
    (packageDir_models _ "orders").trans (by decide : FilePath.join "/models" "orders" = _)
  refine ⟨item "orders_models" "/models/orders", ?_, rfl, ?_, rfl⟩
  · rw [models_shop]
    exact List.mem_cons_of_mem _ List.mem_cons_self
  · rw [hdir]
    exact beq_self_eq_true _

/-- Beside the orders the archive does no harm. -/
theorem find?_exact_sibling :
    ∃ m, (shop "/models/archive/item.go").find? (some "orders_models") "Item" none = some m ∧
      m.package = "orders_models" := by
  have hown := exists_own_item "/models/archive/item.go"
  refine (((shop "/models/archive/item.go").find?_exact "Item" none).2.2 _ hown).2.mpr ?_
  refine ownFirst_of_forall ?_
  decide +kernel

/-- Below the orders the archive answers for them. -/
theorem find?_nested_package :
    (∃ m ∈ (shop "/models/orders/archive/item.go").models, m.name = "Item" ∧
      FilePath.same m.dir ((shop "/models/orders/archive/item.go").packageDir "orders_models") = true ∧
        m.package = "orders_models") ∧
    ¬ ∃ m, (shop "/models/orders/archive/item.go").find? (some "orders_models") "Item" none = some m ∧
      m.package = "orders_models" := by
  refine ⟨exists_own_item _, ?_⟩
  have hfind : ((shop "/models/orders/archive/item.go").find? (some "orders_models") "Item" none).map
      Model.package = some "archive_models" := by decide +kernel
  rintro ⟨m, hm, hpackage⟩
  rw [hm, Option.map_some, hpackage] at hfind
  exact absurd hfind (by decide)

end NestedModels

end ModelIndex

end RouteDoc
