import Mathlib.Data.List.Lex
import RouteDoc.Proofs.Disk.Walk

/-! What a scan finds. The entries of a walk are the nodes that can be reached without entering a
skipped directory, and they come in the order of their paths. -/
namespace RouteDoc.Disk

namespace FilePath

/-- The order of paths by their components, one after the other. -/
def Precedes (p q : FilePath) : Prop := List.Lex (· < ·) (components p) (components q)

/-- The path from a directory down along the given names. -/
def descend (dir : FilePath) (names : List String) : FilePath := names.foldl join dir

end FilePath

open FilePath

theorem join_ne_empty {dir : FilePath} (hdir : dir ≠ "") {name : String} (hname : IsFileName name) :
    join dir name ≠ "" := by
  obtain ⟨p, hjoin, -⟩ := exists_join_eq hdir hname
  simp [hjoin]

theorem components_descend {dir : FilePath} (hdir : dir ≠ "") {names : List String}
    (hnames : ∀ name ∈ names, IsFileName name) :
    components (descend dir names) = components dir ++ names := by
  induction names generalizing dir with
  | nil => exact (List.append_nil _).symm
  | cons name names ih =>
    obtain ⟨hname, hrest⟩ := List.forall_mem_cons.mp hnames
    calc components (descend dir (name :: names))
      _ = components (join dir name) ++ names := ih (join_ne_empty hdir hname) hrest
      _ = components dir ++ name :: names := by
        rw [components_join hdir hname, List.append_assoc, List.singleton_append]

theorem precedes_of_components {p q dir : FilePath} {left right : List String}
    (hp : components p = components dir ++ left) (hq : components q = components dir ++ right)
    (h : List.Lex (· < ·) left right) : Precedes p q := by
  unfold Precedes
  rw [hp, hq]
  exact List.Lex.append_left _ h _

/-- Names of directories that a walk does not enter. -/
def IsSkippedName (name : String) : Prop :=
  name.toList.head? = some '.' ∨ name = "vendor" ∨ name = "testdata"

instance : DecidablePred IsSkippedName := fun _ => inferInstanceAs (Decidable (_ ∨ _ ∨ _))

theorem isSkipped_iff {name : String} {n : Node} :
    isSkipped name n = true ↔ n.isDir = true ∧ IsSkippedName name := by
  simp [isSkipped, IsSkippedName, or_assoc]

/-- An entry stands below a node, under the path and in the directories given, and neither these
directories nor the entry are skipped. -/
structure Entry.IsReached (e : Entry) (n : Node) (p : FilePath) (dirs : List String) : Prop where
  path : e.path = descend p (dirs ++ [e.name])
  node : n.at? (dirs ++ [e.name]) = some e.node
  entered : ∀ dir ∈ dirs, ¬ IsSkippedName dir
  kept : isSkipped e.name e.node = false

theorem not_isReached_file (e : Entry) (text : Option String) (p : FilePath) (dirs : List String) :
    ¬ e.IsReached (.file text) p dirs := by
  intro h
  have hnode := h.node
  cases dirs <;> cases hnode

theorem isReached_nil_iff {e : Entry} {entries : List (String × Node)} {p : FilePath} :
    e.IsReached (.dir entries) p [] ↔
      e.path = join p e.name ∧ entries.lookup e.name = some e.node ∧
        isSkipped e.name e.node = false := by
  have hnode : (Node.dir entries).at? [e.name] = entries.lookup e.name := Option.bind_fun_some _
  constructor
  · intro h
    exact ⟨h.path, hnode.symm.trans h.node, h.kept⟩
  · rintro ⟨hpath, hget, hkept⟩
    exact ⟨hpath, hnode.trans hget, fun dir hdir => absurd hdir List.not_mem_nil, hkept⟩

/-- What is reached through a directory is reached from there. -/
theorem isReached_cons_iff {e : Entry} {entries : List (String × Node)} {p : FilePath} {dir : String}
    {dirs : List String} :
    e.IsReached (.dir entries) p (dir :: dirs) ↔
      ∃ child, entries.lookup dir = some child ∧ ¬ IsSkippedName dir ∧
        e.IsReached child (join p dir) dirs := by
  constructor
  · intro h
    obtain ⟨child, hchild, hnode⟩ := Option.bind_eq_some_iff.mp h.node
    obtain ⟨hdir, hdirs⟩ := List.forall_mem_cons.mp h.entered
    exact ⟨child, hchild, hdir, h.path, hnode, hdirs, h.kept⟩
  · rintro ⟨child, hchild, hdir, h⟩
    exact ⟨h.path, Option.bind_eq_some_iff.mpr ⟨child, hchild, h.node⟩,
      List.forall_mem_cons.mpr ⟨hdir, h.entered⟩, h.kept⟩

theorem mem_walkEntry_iff {p : FilePath} {child : String × Node} {e : Entry} :
    e ∈ walkEntry p child ↔ isSkipped child.1 child.2 = false ∧
      (e = ⟨join p child.1, child.1, child.2⟩ ∨ e ∈ child.2.content (join p child.1)) := by
  unfold walkEntry
  split_ifs with hskip
  · simp [hskip]
  · simp [hskip]

theorem Node.mem_content_iff {n : Node} (hn : n.WellFormed) {p : FilePath} {e : Entry} :
    e ∈ n.content p ↔ ∃ dirs, e.IsReached n p dirs := by
  induction hn generalizing p with
  | file text =>
    rw [content_eq_flatMap]
    constructor
    · exact fun h => absurd h List.not_mem_nil
    · rintro ⟨dirs, h⟩
      exact absurd h (not_isReached_file e text p dirs)
  | @dir entries sorted names nodes ih =>
    rw [content_eq_flatMap, List.mem_flatMap]
    constructor
    · rintro ⟨child, hchild, he⟩
      have hget : entries.lookup child.1 = some child.2 := (sorted.mem_iff_lookup _ _).mp hchild
      obtain ⟨hkept, rfl | he⟩ := mem_walkEntry_iff.mp he
      · exact ⟨[], isReached_nil_iff.mpr ⟨rfl, hget, hkept⟩⟩
      · -- something is reached through the child, so it is a directory that was entered
        obtain ⟨dirs, h⟩ := (ih child hchild).mp he
        have hdir : child.2.isDir = true := by
          cases hc : child.2 with
          | file text => exact absurd (hc ▸ h) (not_isReached_file e text _ dirs)
          | dir entries => rfl
        have hname : ¬ IsSkippedName child.1 := by
          intro hname
          rw [isSkipped_iff.mpr ⟨hdir, hname⟩] at hkept
          cases hkept
        exact ⟨child.1 :: dirs, isReached_cons_iff.mpr ⟨child.2, hget, hname, h⟩⟩
    · rintro ⟨dirs, h⟩
      cases dirs with
      | nil =>
        obtain ⟨hpath, hget, hkept⟩ := isReached_nil_iff.mp h
        refine ⟨(e.name, e.node), (sorted.mem_iff_lookup _ _).mpr hget, ?_⟩
        refine mem_walkEntry_iff.mpr ⟨hkept, .inl ?_⟩
        rw [← hpath]
      | cons dir dirs =>
        obtain ⟨child, hget, hname, h⟩ := isReached_cons_iff.mp h
        have hchild : (dir, child) ∈ entries := (sorted.mem_iff_lookup _ _).mpr hget
        have hkept : isSkipped dir child = false := by
          rw [← Bool.not_eq_true, isSkipped_iff]
          exact fun hskip => hname hskip.2
        exact ⟨(dir, child), hchild,
          mem_walkEntry_iff.mpr ⟨hkept, .inr ((ih _ hchild).mpr ⟨dirs, h⟩)⟩⟩

theorem Node.WellFormed.isFileName_of_at? {n m : Node} (hn : n.WellFormed) {place : List String}
    (h : n.at? place = some m) : ∀ name ∈ place, IsFileName name := by
  induction place generalizing n with
  | nil => exact fun name hname => absurd hname List.not_mem_nil
  | cons first rest ih =>
    cases n with
    | file text => cases h
    | dir entries =>
      obtain ⟨child, hget, hchild⟩ := Option.bind_eq_some_iff.mp h
      obtain ⟨hname, hwf⟩ := hn.lookup hget
      exact List.forall_mem_cons.mpr ⟨hname, ih hwf hchild⟩

theorem Entry.IsReached.components_path {e : Entry} {n : Node} {p : FilePath} {dirs : List String}
    (h : e.IsReached n p dirs) (hn : n.WellFormed) (hp : p ≠ "") :
    components e.path = components p ++ (dirs ++ [e.name]) := by
  rw [h.path]
  exact components_descend hp (hn.isFileName_of_at? h.node)

/-- Below a directory an entry comes after the directory. -/
theorem precedes_of_mem_content {n : Node} (hn : n.WellFormed) {p : FilePath} (hp : p ≠ "") {e : Entry}
    (he : e ∈ n.content p) : Precedes p e.path := by
  obtain ⟨dirs, h⟩ := (Node.mem_content_iff hn).mp he
  refine precedes_of_components (List.append_nil _).symm (h.components_path hn hp) ?_
  cases dirs <;> exact .nil

/-- All that comes with an entry of a directory has its name next after the directory. -/
theorem exists_components_of_mem_walkEntry {p : FilePath} (hp : p ≠ "") {child : String × Node}
    (hname : IsFileName child.1) (hn : child.2.WellFormed) {e : Entry} (he : e ∈ walkEntry p child) :
    ∃ rest, components e.path = components p ++ child.1 :: rest := by
  have hjoin := components_join hp hname
  obtain ⟨-, rfl | he⟩ := mem_walkEntry_iff.mp he
  · exact ⟨[], hjoin⟩
  · obtain ⟨dirs, h⟩ := (Node.mem_content_iff hn).mp he
    refine ⟨dirs ++ [e.name], ?_⟩
    rw [h.components_path hn (join_ne_empty hp hname), hjoin, List.append_assoc,
      List.singleton_append]

theorem Node.pairwise_content {n : Node} (hn : n.WellFormed) {p : FilePath} (hp : p ≠ "") :
    (n.content p).Pairwise fun a b => Precedes a.path b.path := by
  induction hn generalizing p with
  | file text =>
    rw [content_eq_flatMap]
    exact List.Pairwise.nil
  | @dir entries sorted names nodes ih =>
    rw [content_eq_flatMap, List.pairwise_flatMap]
    constructor
    · intro child hchild
      have hjoin : join p child.1 ≠ "" := join_ne_empty hp (names child hchild)
      unfold walkEntry
      split_ifs
      · exact List.Pairwise.nil
      · refine List.pairwise_cons.mpr ⟨fun e he => ?_, ih child hchild hjoin⟩
        exact precedes_of_mem_content (nodes child hchild) hjoin he
    · -- two entries of the directory differ at once in their names
      refine List.Pairwise.imp_of_mem ?_ sorted
      intro a b ha hb hlt x hx y hy
      obtain ⟨left, hleft⟩ := exists_components_of_mem_walkEntry hp (names a ha) (nodes a ha) hx
      obtain ⟨right, hright⟩ := exists_components_of_mem_walkEntry hp (names b hb) (nodes b hb) hy
      exact precedes_of_components hleft hright (.rel hlt)

/-- A node below another is a source that a scan looks for. It is given by the directories on the way
to it and by its name. -/
structure Node.HasSource (n : Node) (dirs : List String) (name : String) : Prop where
  file : ∃ text, n.at? (dirs ++ [name]) = some (.file text)
  entered : ∀ dir ∈ dirs, ¬ IsSkippedName dir
  go : ".go".toList <:+ name.toList
  not_test : ¬ "_test.go".toList <:+ name.toList

/-- A name that tells of routes. -/
def NamesRoutes (name : String) : Prop :=
  ∃ word ∈ ["controller", "http", "setup"], word.toList <:+: Text.lower name.toList

instance : DecidablePred NamesRoutes := fun _ => inferInstanceAs (Decidable (∃ _ ∈ _, _))

theorem isSource_iff {name : String} :
    isSource name = true ↔ ".go".toList <:+ name.toList ∧ ¬ "_test.go".toList <:+ name.toList := by
  rw [isSource, Bool.and_eq_true, Bool.not_eq_true', ← Bool.not_eq_true, List.isSuffixOf_iff_suffix,
    List.isSuffixOf_iff_suffix]

theorem isController_eq (name : String) :
    isController name = (isSource name && decide (NamesRoutes name)) := by
  have hwords : (["controller", "http", "setup"].any fun word =>
      Text.contains (Text.lower name.toList) word.toList) = decide (NamesRoutes name) := by
    rw [Bool.eq_iff_iff, decide_eq_true_iff, List.any_eq_true]
    exact exists_congr fun word => and_congr_right fun _ => Text.contains_iff_infix
  exact congrArg (isSource name && ·) hwords

variable {d : Disk} {p : FilePath} {entries : List (String × Node)}

theorem scan_files (hp : d.find? p = some (.dir entries)) (accepts : String → Bool) :
    (d.scan accepts p).files =
      (((Node.dir entries).content p).filter fun e => e.node.isFile && accepts e.name).map (·.path) := by
  have hwalk : d.walk? p = some (⟨p, startName p, .dir entries⟩ :: (Node.dir entries).content p) := by
    rw [walk?, hp]
    rfl
  unfold scan
  rw [hwalk]
  rfl

theorem ne_empty_of_find? {n : Node} (hp : d.find? p = some n) : p ≠ "" := by
  obtain ⟨place, hplace, -⟩ := find?_eq_some_iff.mp hp
  exact ne_empty_of_locate hplace

theorem pairwise_scan (hwf : d.root.WellFormed) (hp : d.find? p = some (.dir entries))
    (accepts : String → Bool) : (d.scan accepts p).files.Pairwise Precedes := by
  rw [scan_files hp, List.pairwise_map]
  exact (Node.pairwise_content (hwf.find? hp) (ne_empty_of_find? hp)).filter _

theorem mem_scan_isSource_iff (hwf : d.root.WellFormed) (hp : d.find? p = some (.dir entries))
    {q : FilePath} : q ∈ (d.scan isSource p).files ↔
      ∃ dirs name, (Node.dir entries).HasSource dirs name ∧ q = descend p (dirs ++ [name]) := by
  rw [scan_files hp, List.mem_map]
  constructor
  · rintro ⟨e, he, rfl⟩
    obtain ⟨hcontent, haccepted⟩ := List.mem_filter.mp he
    obtain ⟨hfile, hsource⟩ := Bool.and_eq_true_iff.mp haccepted
    obtain ⟨hgo, htest⟩ := isSource_iff.mp hsource
    obtain ⟨dirs, h⟩ := (Node.mem_content_iff (hwf.find? hp)).mp hcontent
    have hnode := h.node
    cases hn : e.node with
    | dir entries =>
      rw [hn] at hfile
      cases hfile
    | file text =>
      rw [hn] at hnode
      exact ⟨dirs, e.name, ⟨⟨text, hnode⟩, h.entered, hgo, htest⟩, h.path⟩
  · rintro ⟨dirs, name, h, rfl⟩
    obtain ⟨text, hnode⟩ := h.file
    have hreached : Entry.IsReached ⟨descend p (dirs ++ [name]), name, .file text⟩ (.dir entries) p
        dirs := ⟨rfl, hnode, h.entered, rfl⟩
    refine ⟨_, List.mem_filter.mpr ⟨(Node.mem_content_iff (hwf.find? hp)).mpr ⟨dirs, hreached⟩, ?_⟩,
      rfl⟩
    exact isSource_iff.mpr ⟨h.go, h.not_test⟩

/-- An entry is known by the last name of its path. -/
theorem name_of_mem_content {n : Node} (hn : n.WellFormed) (hp : p ≠ "") {e : Entry}
    (he : e ∈ n.content p) : FilePath.name e.path = e.name := by
  obtain ⟨dirs, h⟩ := (Node.mem_content_iff hn).mp he
  unfold FilePath.name
  rw [h.components_path hn hp, ← List.append_assoc, List.getLastD_concat]

theorem scan_isController (hwf : d.root.WellFormed) (hp : d.find? p = some (.dir entries)) :
    (d.scan isController p).files =
      (d.scan isSource p).files.filter fun q => NamesRoutes (FilePath.name q) := by
  rw [scan_files hp, scan_files hp, List.filter_map, List.filter_filter]
  refine congrArg _ (List.filter_congr fun e he => ?_)
  have hname := name_of_mem_content (hwf.find? hp) (ne_empty_of_find? hp) he
  rw [Function.comp_apply, hname, isController_eq, ← Bool.and_assoc, Bool.and_comm]

theorem FilePath.Precedes.ne {q q' : FilePath} (h : Precedes q q') : q ≠ q' := by
  rintro rfl
  exact List.lex_irrefl (fun x => String.lt_irrefl x) _ h

/-- From a directory a scan finds every source below it that stands in no skipped directory, and no
other file, each once and in the order of the paths. The sources with a name that tells of routes are
found in the same order. -/
theorem scan_exact (hwf : d.root.WellFormed) (hp : d.find? p = some (.dir entries)) :
    (∀ q, q ∈ (d.scan isSource p).files ↔
      ∃ dirs name, (Node.dir entries).HasSource dirs name ∧ q = descend p (dirs ++ [name])) ∧
    (∀ dirs name, (Node.dir entries).HasSource dirs name →
      components (descend p (dirs ++ [name])) = components p ++ (dirs ++ [name])) ∧
    (d.scan isSource p).files.Nodup ∧ (d.scan isSource p).files.Pairwise Precedes ∧
    (d.scan isController p).files =
      (d.scan isSource p).files.filter fun q => NamesRoutes (FilePath.name q) := by
  refine ⟨fun q => mem_scan_isSource_iff hwf hp, ?_, ?_, pairwise_scan hwf hp _,
    scan_isController hwf hp⟩
  · intro dirs name h
    obtain ⟨text, hnode⟩ := h.file
    exact components_descend (ne_empty_of_find? hp) ((hwf.find? hp).isFileName_of_at? hnode)
  · exact (pairwise_scan hwf hp _).imp Precedes.ne

namespace VendoredShop

/-- A directory that is skipped in a walk from above, with its entries in no order. -/
def vendor : Node := .ofList [
  ("setup.go", .file none),
  ("setup", .ofList [("router.go", .file none), ("router_test.go", .file none)]),
  (".cache", .ofList [("http.go", .file none)])]

def disk : Disk where
  root := .ofList [("vendor", vendor)]

theorem wellFormed_root : disk.root.WellFormed := by
  have hfiles : ∀ names : List String, (∀ name ∈ names, IsFileName name) →
      (Node.ofList (names.map fun name => (name, .file none))).WellFormed := by
    intro names hnames
    refine .ofList ?_ ?_
    · exact List.forall_mem_map.mpr hnames
    · exact List.forall_mem_map.mpr fun name _ => .file none
  have hvendor : vendor.WellFormed := by
    refine .ofList (by decide) ?_
    simp only [List.forall_mem_cons, List.not_mem_nil, false_implies, implies_true, and_true]
    exact ⟨.file none, hfiles ["router.go", "router_test.go"] (by decide),
      hfiles ["http.go"] (by decide)⟩
  exact .ofList (by decide) (List.forall_mem_singleton.mpr hvendor)

theorem scan_exact_vendor :
    "/vendor/setup/router.go" ∈ (disk.scan isSource "/vendor").files ∧
      (disk.scan isSource "/vendor").files.Pairwise Precedes ∧
      (disk.scan isController "/vendor").files =
        (disk.scan isSource "/vendor").files.filter fun q => NamesRoutes (FilePath.name q) := by
  obtain ⟨hmem, -, -, horder, hcontrollers⟩ := scan_exact wellFormed_root (p := "/vendor") rfl
  have hrouter : vendor.HasSource ["setup"] "router.go" := ⟨⟨none, rfl⟩, by decide, by decide, by decide⟩
  exact ⟨(hmem _).mpr ⟨_, _, hrouter, rfl⟩, horder, hcontrollers⟩

-- Paths are compared name by name: as texts the two would stand the other way round.
example : (disk.scan isSource "/vendor").files = ["/vendor/setup/router.go", "/vendor/setup.go"] ∧
    (disk.scan isController "/vendor").files = ["/vendor/setup.go"] := by decide +kernel

end VendoredShop

end RouteDoc.Disk
