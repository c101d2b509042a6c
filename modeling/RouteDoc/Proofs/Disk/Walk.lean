import Mathlib.Data.List.Induction
import RouteDoc.Project
import RouteDoc.Proofs.Disk.Path

/-! Walks, and the files that are read on them. Every entry of a walk stands under its path, so what is
read from the paths is what the tree holds. -/
namespace RouteDoc.Disk

/-- An entry of a directory with all that lies below it. -/
def walkEntry (dir : FilePath) (e : String × Node) : List Entry :=
  if isSkipped e.1 e.2 then []
  else ⟨FilePath.join dir e.1, e.1, e.2⟩ :: e.2.content (FilePath.join dir e.1)

theorem walkEntries_eq_flatMap (dir : FilePath) (es : List (String × Node)) :
    walkEntries dir es = es.flatMap (walkEntry dir) := by
  induction es with
  | nil => simp [walkEntries]
  | cons e es ih => simp [walkEntries, walkEntry, ih]

/-- The entries of a directory. A file has none. -/
def Node.children : Node → List (String × Node)
  | .file _ => []
  | .dir entries => entries

theorem Node.content_eq_flatMap (n : Node) (p : FilePath) :
    n.content p = n.children.flatMap (walkEntry p) := by
  cases n with
  | file text => simp [content, children]
  | dir entries => simp [content, children, walkEntries_eq_flatMap]

variable {d : Disk}

theorem Node.WellFormed.find? (hwf : d.root.WellFormed) {p : FilePath} {n : Node}
    (h : d.find? p = some n) : n.WellFormed := by
  obtain ⟨place, -, hn⟩ := find?_eq_some_iff.mp h
  exact hwf.at? hn

/-- What a directory holds is found under the name below the directory. -/
theorem find?_of_mem_children (hwf : d.root.WellFormed) {dir : FilePath} {n : Node}
    (hdir : d.find? dir = some n) {e : String × Node} (he : e ∈ n.children) :
    IsFileName e.1 ∧ d.find? (FilePath.join dir e.1) = some e.2 := by
  cases Node.WellFormed.find? hwf hdir with
  | file text => cases he
  | dir sorted names nodes =>
    exact ⟨names e he, find?_join hdir (names e he) ((sorted.mem_iff_lookup e.1 e.2).mp he)⟩

/-- An entry stands under its path, in a directory that stands under its own. -/
structure Entry.Stands (d : Disk) (e : Entry) : Prop where
  node : d.find? e.path = some e.node
  name : IsFileName e.name
  dir : ∃ dir entries, e.path = FilePath.join dir e.name ∧ d.find? dir = some (.dir entries)

theorem stands_of_mem_content (hwf : d.root.WellFormed) {n : Node} (hn : n.WellFormed) {p : FilePath}
    (hp : d.find? p = some n) {e : Entry} (he : e ∈ n.content p) : e.Stands d := by
  induction hn generalizing p with
  | file text =>
    rw [Node.content_eq_flatMap] at he
    cases he
  | @dir entries sorted names nodes ih =>
    rw [Node.content_eq_flatMap, List.mem_flatMap] at he
    obtain ⟨child, hchild, he⟩ := he
    obtain ⟨hname, hfind⟩ := find?_of_mem_children hwf hp hchild
    unfold walkEntry at he
    split_ifs at he
    · cases he
    · rcases List.mem_cons.mp he with rfl | he
      · exact ⟨hfind, hname, p, entries, rfl, hp⟩
      · exact ih child hchild hfind he

theorem find?_of_mem_walk (hwf : d.root.WellFormed) {p : FilePath} {es : List Entry}
    (hw : d.walk? p = some es) {e : Entry} (he : e ∈ es) : d.find? e.path = some e.node := by
  obtain ⟨n, hn, rfl⟩ := Option.map_eq_some_iff.mp hw
  rcases List.mem_cons.mp he with rfl | he
  · exact hn
  · exact (stands_of_mem_content hwf (hwf.find? hn) hn he).node

theorem startName_of_pieces {p : FilePath} {front : List String} {name : String}
    (hp : pieces p = front ++ [name]) (hname : IsFileName name) : startName p = name := by
  have hlast : (FilePath.components p).getLast? = some name := by
    rw [components_eq, hp, List.filter_append, hname.filter_singleton, ← List.append_assoc,
      List.getLast?_concat]
  have hplain : ["/", ".", ".."].contains name = false := by
    have hslash : name ≠ "/" := by
      rintro rfl
      exact hname.no_slash (by decide)
    simp [hslash, hname.ne_dot, hname.ne_dots]
  unfold startName
  simp only [hlast, hplain, Bool.false_eq_true, if_false]

/-- A file is known by the last name of every path to it. -/
theorem startName_of_locate (hwf : d.root.WellFormed) {p : FilePath} {place : Place}
    (hp : d.locate p = .ok place) {text : Option String}
    (hfile : d.root.at? place = some (.file text)) : startName p = place.getLastD "" := by
  obtain ⟨front, name, hpieces⟩ : ∃ front name, pieces p = front ++ [name] :=
    (List.eq_nil_or_concat' _).resolve_left (pieces_ne_nil p)
  rw [locate_of_ne_empty (ne_empty_of_locate hp), hpieces, foldlM_step_concat] at hp
  obtain ⟨q, -, hstep⟩ := hp
  obtain ⟨entries, hdir, ⟨-, rfl⟩ | ⟨-, rfl⟩ | ⟨hc, rfl⟩⟩ := step_cases hstep
  · rw [hdir] at hfile
    cases hfile
  · -- around a directory there is no file
    cases q using List.reverseRecOn with
    | nil =>
      rw [List.dropLast_nil, hdir] at hfile
      cases hfile
    | append_singleton q k _ =>
      rw [List.dropLast_concat] at hfile
      rw [Node.at?_append, hfile] at hdir
      cases hdir
  · rw [startName_of_pieces hpieces (isFileName_of_isSome hwf hdir hc), List.getLastD_concat]

/-- The syntax tree of a file, if its name is accepted and its text can be parsed. -/
def Node.goFile? (parse : Go.Parser) (accepts : String → Bool) (name : String) :
    Node → Option Go.File
  | .file text => if accepts name then text.bind fun source => (parse source).toOption else none
  | .dir _ => none

def Entry.goFile? (parse : Go.Parser) (accepts : String → Bool) (e : Entry) :
    Option (FilePath × Go.File) :=
  (e.node.goFile? parse accepts e.name).map (e.path, ·)

/-- The parsed sources that stand in a directory itself. -/
def Node.package (parse : Go.Parser) (n : Node) : List Go.File :=
  n.children.filterMap fun e => e.2.goFile? parse isSource e.1

variable (parse : Go.Parser)

theorem toOption_parseFile {p : FilePath} {text : Option String}
    (h : d.find? p = some (.file text)) :
    (d.parseFile parse p).toOption = text.bind fun source => (parse source).toOption := by
  have hfind : d.find p = .ok (.file text) := by
    unfold find? at h
    cases hp : d.find p with
    | error fault =>
      rw [hp] at h
      cases h
    | ok n =>
      rw [hp] at h
      cases h
      rfl
  cases text with
  | none =>
    have hread : d.read p = .error .invalidData := by
      unfold read
      rw [hfind]
      rfl
    unfold parseFile
    rw [hread]
    rfl
  | some text =>
    have hread : d.read p = .ok text := by
      unfold read
      rw [hfind]
      rfl
    unfold parseFile
    rw [hread, Option.bind_some]
    simp only
    cases parse text <;> rfl

theorem parsedFiles_scan (hwf : d.root.WellFormed) (accepts : String → Bool) (p : FilePath) :
    d.parsedFiles parse (d.scan accepts p).files =
      ((d.walk? p).getD []).filterMap (Entry.goFile? parse accepts) := by
  unfold scan
  cases hw : d.walk? p with
  | none => rfl
  | some es =>
    change ((es.filter _).map _).filterMap _ = es.filterMap _
    rw [List.filterMap_map, List.filterMap_filter]
    refine List.filterMap_congr fun e he => ?_
    have hfind := find?_of_mem_walk hwf hw he
    obtain ⟨path, name, n⟩ := e
    cases n with
    | dir entries => rfl
    | file text =>
      simp only [Node.isFile, Bool.true_and, Entry.goFile?, Node.goFile?, Function.comp]
      cases accepts name with
      | false => rfl
      | true => simp only [if_true, toOption_parseFile parse hfind]

theorem entries_eq (p : FilePath) : d.entries p = ((d.find? p).map Node.children).getD [] := by
  unfold entries
  cases d.find? p with
  | none => rfl
  | some n => cases n <;> rfl

theorem packageFiles_eq (hwf : d.root.WellFormed) (dir : FilePath) :
    d.packageFiles parse dir = ((d.find? dir).map (Node.package parse)).getD [] := by
  unfold packageFiles sourcesIn
  rw [entries_eq]
  cases hdir : d.find? dir with
  | none => rfl
  | some n =>
    change (((n.children.filter _).map _).filterMap _).map _ = n.children.filterMap _
    rw [List.filterMap_map, List.filterMap_filter, List.map_filterMap]
    refine List.filterMap_congr fun e he => ?_
    obtain ⟨-, hfind⟩ := find?_of_mem_children hwf hdir he
    obtain ⟨name, n⟩ := e
    cases n with
    | dir entries => rfl
    | file text =>
      simp only [Node.isFile, Bool.true_and, Node.goFile?, Function.comp]
      cases isSource name with
      | false => rfl
      | true =>
        simp only [if_true, toOption_parseFile parse hfind]
        cases text.bind fun source => (parse source).toOption <;> rfl

end RouteDoc.Disk
