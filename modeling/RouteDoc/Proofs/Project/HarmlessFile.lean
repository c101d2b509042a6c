import RouteDoc.Go.Source
import RouteDoc.Proofs.Disk.Creation
import RouteDoc.Proofs.Project.Agreement

/-! A file that is no source or cannot be parsed changes neither the inventory nor the document of a
project, wherever it is made. The configured paths must not lead back out of a directory that is made
for the file: they would lead nowhere without it. -/
namespace RouteDoc

namespace Disk

theorem isSource_of_isController (name : String) (h : isController name = true) :
    isSource name = true := by
  unfold isController at h
  exact (Bool.and_eq_true_iff.mp h).1

/-- The package of a directory on a walk that looks for layers. Directories without sources are left
out. -/
def Entry.layerPackage (parse : Go.Parser) (suffix : String) (e : Entry) : List (List Go.File) :=
  if e.node.isDir && suffix.toList.isSuffixOf e.name.toList && !(e.node.package parse).isEmpty then
    [e.node.package parse]
  else []

variable {d : Disk} {parse : Go.Parser}

theorem steady_layerPackage (suffix : String) (path : FilePath) :
    Steady parse fun e => Entry.layerPackage parse suffix ⟨path, e.1, e.2⟩ where
  blank {name n} hn := by
    have hpackage : n.package parse = [] := (Change.blank hn).package_eq
    simp [Entry.layerPackage, hpackage]
  gains {name n n'} hn := by
    have hchange : Change parse name (some n) (some n') := .gains hn
    have hpackage : n'.package parse = n.package parse := hchange.package_eq
    simp only [Entry.layerPackage, hpackage, hn.isDir_eq]

theorem foldl_layerPackage (hwf : d.root.WellFormed) (suffix : String) (root : FilePath) :
    (d.dirsEndingWith suffix root).foldl (fun l dir => l.addPackage (d.packageFiles parse dir)) {} =
      (((d.walk? root).getD []).flatMap (Entry.layerPackage parse suffix)).foldl
        Layers.addPackage {} := by
  unfold dirsEndingWith
  rw [List.foldl_map, List.foldl_filter, List.foldl_flatMap]
  refine List.foldl_ext _ _ _ fun l e he => ?_
  have hfind : d.find? e.path = some e.node := by
    cases hw : d.walk? root with
    | none =>
      rw [hw] at he
      cases he
    | some es =>
      rw [hw] at he
      exact find?_of_mem_walk hwf hw he
  have hpackage : d.packageFiles parse e.path = e.node.package parse := by
    rw [packageFiles_eq parse hwf, hfind]
    rfl
  unfold Entry.layerPackage
  rw [hpackage]
  cases e.node.isDir && suffix.toList.isSuffixOf e.name.toList with
  | false => rfl
  | true =>
    -- a package without files adds nothing
    cases e.node.package parse <;> rfl

namespace Harmless
variable {place : Place} {text : Option String} (h : d.Harmless parse place text)
include h

theorem models_create {root : FilePath} (hroot : d.Clear place text root) :
    (d.create place text).models parse root = d.models parse root := by
  unfold models
  rw [parsedFiles_scan parse h.wellFormed_create, parsedFiles_scan parse h.wellFormed,
    List.filterMap_eq_flatMap_toList, List.filterMap_eq_flatMap_toList]
  exact congrArg (ModelIndex.ofFiles root)
    (flatMap_walk?_of_change (steady_entry_goFile? fun _ hs => hs) (h.change_find? hroot))

theorem packageFiles_create {dir : FilePath} (hdir : d.Clear place text dir) :
    (d.create place text).packageFiles parse dir = d.packageFiles parse dir := by
  rw [packageFiles_eq parse h.wellFormed_create, packageFiles_eq parse h.wellFormed]
  exact (h.change_find? hdir).package_eq

end Harmless

end Disk

namespace Project
open Disk (FilePath Node Entry)
variable (p : Project)

theorem layers_eq (hwf : p.disk.root.WellFormed) :
    p.layers = (((p.disk.walk? (p.config.domainRoot p.dir)).getD []).flatMap
      (Entry.layerPackage p.parse p.config.layerSuffix)).foldl Layers.addPackage {} := by
  rw [← Disk.foldl_layerPackage hwf]
  unfold layers Disk.layers
  by_cases hdir : p.disk.isDir (p.config.domainRoot p.dir) = true
  · rw [if_pos hdir]
    rfl
  · rw [if_neg hdir]
    unfold Disk.dirsEndingWith Disk.walk?
    unfold Disk.isDir at hdir
    cases hn : p.disk.find? (p.config.domainRoot p.dir) with
    | none => rfl
    | some n =>
      cases n with
      | file text => rfl
      | dir entries =>
        rw [hn] at hdir
        exact absurd rfl hdir

/-- The routes below an entry of the directory of services. -/
def entryRoutes (filters : List String) (e : String × Node) : List (FilePath × List Route) :=
  if e.2.isDir && p.config.serviceMark.toList.isPrefixOf e.1.toList &&
      Disk.isSelected filters e.1 then
    (e.2.content (Disk.FilePath.join (p.config.serviceRoot p.dir) e.1)).flatMap fun x =>
      (x.goFile? p.parse Disk.isController).toList.map fun f => (f.1, f.2.routes e.1)
  else []

/-- A directory among the services is found under its path, with all files below it. -/
theorem serviceRoutes_eq (hwf : p.disk.root.WellFormed) {name : String} {path : FilePath} {n : Node}
    (hn : p.disk.find? path = some n) (hdir : n.isDir = true) :
    p.serviceRoutes ⟨name, path⟩ = (n.content path).flatMap fun x =>
      (x.goFile? p.parse Disk.isController).toList.map fun f => (f.1, f.2.routes name) := by
  have hstart : Entry.goFile? p.parse Disk.isController ⟨path, Disk.startName path, n⟩ = none := by
    cases n with
    | file text => cases hdir
    | dir entries => rfl
  unfold serviceRoutes controllers
  rw [Disk.parsedFiles_scan p.parse hwf]
  unfold Disk.walk?
  rw [hn, Option.map_some, Option.getD_some, List.filterMap_cons_none hstart,
    List.filterMap_eq_flatMap_toList, List.map_flatMap]

theorem foundRoutes_eq (hwf : p.disk.root.WellFormed) (filters : List String) :
    p.foundRoutes filters =
      (((p.disk.find? (p.config.serviceRoot p.dir)).map Node.children).getD []).flatMap
        (p.entryRoutes filters) := by
  unfold foundRoutes services Disk.services
  rw [List.flatMap_map, flatMap_filter, Disk.entries_eq]
  cases hroot : p.disk.find? (p.config.serviceRoot p.dir) with
  | none => rfl
  | some n =>
    refine List.flatMap_congr fun e he => ?_
    unfold entryRoutes
    split_ifs with hselected
    · have hdir : e.2.isDir = true := by
        simp only [Bool.and_eq_true] at hselected
        exact hselected.1.1
      exact p.serviceRoutes_eq hwf (Disk.find?_of_mem_children hwf hroot he).2 hdir
    · rfl

theorem steady_routes (name : String) (path : FilePath) :
    Disk.Steady p.parse fun e => (Entry.goFile? p.parse Disk.isController ⟨path, e.1, e.2⟩).toList.map
      fun f => (f.1, f.2.routes name) :=
  (Disk.steady_entry_goFile? Disk.isSource_of_isController path).map _

theorem steady_entryRoutes (filters : List String) : Disk.Steady p.parse (p.entryRoutes filters) where
  blank {name n} hn := by
    unfold entryRoutes
    split
    next => exact Disk.flatMap_content_of_blank (p.steady_routes name) hn _
    next => rfl
  gains {name n n'} hn := by
    unfold entryRoutes
    simp only [hn.isDir_eq]
    split
    next => exact Disk.flatMap_content_of_gains (p.steady_routes name) hn _
    next => rfl

/-- The files with routes stand in directories that are found from their paths. -/
theorem exists_locate_parent (hwf : p.disk.root.WellFormed) {filters : List String}
    {file : FilePath × List Route} (hfile : file ∈ p.foundRoutes filters) :
    ∃ place, p.disk.locate ((Disk.FilePath.parent? file.1).getD "") = .ok place := by
  rw [foundRoutes_eq p hwf] at hfile
  cases hroot : p.disk.find? (p.config.serviceRoot p.dir) with
  | none =>
    rw [hroot] at hfile
    cases hfile
  | some n =>
    rw [hroot] at hfile
    obtain ⟨service, hservice, hfile⟩ := List.mem_flatMap.mp hfile
    obtain ⟨-, hfind⟩ := Disk.find?_of_mem_children hwf hroot hservice
    unfold entryRoutes at hfile
    split_ifs at hfile
    · obtain ⟨e, he, hfile⟩ := List.mem_flatMap.mp hfile
      obtain ⟨f, hf, rfl⟩ := List.mem_map.mp hfile
      have hpath : f.1 = e.path := by
        obtain ⟨file, -, rfl⟩ := Option.map_eq_some_iff.mp (Option.mem_toList.mp hf)
        rfl
      have hstands := Disk.stands_of_mem_content hwf (hwf.find? hfind) hfind he
      obtain ⟨dir, entries, hjoin, hdir⟩ := hstands.dir
      obtain ⟨place, hplace, hnode⟩ := Disk.find?_eq_some_iff.mp hdir
      obtain ⟨parent, hparent, hlocate⟩ := Disk.locate_parent hplace hnode hstands.name
      refine ⟨place, ?_⟩
      rw [hpath, hjoin, hparent]
      exact hlocate
    · cases hfile

/-- The project with a new file on its disk. -/
def create (place : Disk.Place) (text : Option String) : Project :=
  { p with disk := p.disk.create place text }

/-- The directories that the configuration names. -/
def roots : List FilePath :=
  [p.config.serviceRoot p.dir, p.config.domainRoot p.dir, p.config.modelsRoot p.dir]

section
variable {p} {place : Disk.Place} {text : Option String} (h : p.disk.Harmless p.parse place text)
  (hroots : ∀ root ∈ p.roots, p.disk.Clear place text root)
include h hroots

theorem foundRoutes_create (filters : List String) :
    (p.create place text).foundRoutes filters = p.foundRoutes filters := by
  rw [foundRoutes_eq _ h.wellFormed_create, foundRoutes_eq _ h.wellFormed]
  have hchange := h.change_find? (hroots (p.config.serviceRoot p.dir) (by simp [roots]))
  exact (p.steady_entryRoutes filters).children_of_change hchange

theorem layers_create : (p.create place text).layers = p.layers := by
  rw [layers_eq _ h.wellFormed_create, layers_eq _ h.wellFormed]
  have hroot := hroots (p.config.domainRoot p.dir) (by simp [roots])
  exact congrArg (List.foldl Layers.addPackage {})
    (Disk.flatMap_walk?_of_change (Disk.steady_layerPackage _) (h.change_find? hroot))

theorem models_create : (p.create place text).models = p.models :=
  h.models_create (hroots (p.config.modelsRoot p.dir) (by simp [roots]))

theorem document_create (o : Options) : (p.create place text).document o = p.document o := by
  have hfiles : ∀ s : Draft × SchemaTable, ∀ file ∈ p.foundRoutes o.filters,
      (p.create place text).addFile p.layers p.models s file = p.addFile p.layers p.models s file := by
    intro s file hfile
    obtain ⟨q, hq⟩ := p.exists_locate_parent h.wellFormed hfile
    have hcontext : (p.create place text).contextOf p.layers p.models file.1 =
        p.contextOf p.layers p.models file.1 :=
      congrArg (fun files => Context.mk (.ofFiles files) p.layers p.models)
        (h.packageFiles_create (h.clear_of_locate hq))
    unfold addFile
    rw [hcontext]
  unfold document
  rw [foundRoutes_create h hroots, layers_create h hroots, models_create h hroots,
    List.foldl_ext _ _ _ hfiles]
  rfl

end

/-- A project with one route, whose services are looked for under the given path. -/
def ofOrders (serviceDir : String) : Project where
  disk := { root := (Node.dir []).put ["services", "ms_orders", "setup.go"] (.file (some
    "package orders\nfunc Setup() \x7b\napp.Get(\"/orders\", List)\n\x7d")) }
  parse := Go.File.parse
  dir := "/"
  config := { serviceDir }

theorem harmless_ofOrders (serviceDir : String) {place : Disk.Place} {text : Option String}
    (hnames : ∀ name ∈ place, Disk.IsFileName name)
    (hfree : (ofOrders serviceDir).disk.root.Free place)
    (hignored : Disk.isSource (place.getLastD "") = false ∨
      ∀ source ∈ text, (Go.File.parse source).isOk = false) :
    (ofOrders serviceDir).disk.Harmless Go.File.parse place text where
  wellFormed := Node.wellFormed_empty.put (by decide) (.file _)
  names := hnames
  free := hfree
  ignored := hignored

end Project

end RouteDoc
