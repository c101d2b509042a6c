import RouteDoc.Proofs.Disk.Walk

/-! Nodes from which no Go file is read. A directory that gains such a node, at whatever depth, reads
as before: its package is the same, and so is all that a walk reads. -/
namespace RouteDoc.Disk

namespace Node

/-- No Go file is read from a node of the given name. -/
inductive Blank (parse : Go.Parser) : String → Node → Prop where
  | file {name : String} {text : Option String}
      (h : (Node.file text).goFile? parse isSource name = none) : Blank parse name (.file text)
  | dir (name : String) {entries : List (String × Node)} (h : ∀ e ∈ entries, Blank parse e.1 e.2) :
      Blank parse name (.dir entries)

/-- The second node is the first one with at most one entry more, from which nothing is read. -/
inductive Gains (parse : Go.Parser) : Node → Node → Prop where
  | refl (n : Node) : Gains parse n n
  | entry (before after : List (String × Node)) {name : String} {n : Node} (h : Blank parse name n) :
      Gains parse (.dir (before ++ after)) (.dir (before ++ (name, n) :: after))
  | inside (before after : List (String × Node)) (name : String) {n n' : Node}
      (h : Gains parse n n') :
      Gains parse (.dir (before ++ (name, n) :: after)) (.dir (before ++ (name, n') :: after))

variable {parse : Go.Parser}

theorem Gains.isDir_eq {n n' : Node} (h : Gains parse n n') : n'.isDir = n.isDir := by
  cases h <;> rfl

theorem Blank.children {name : String} {n : Node} (h : Blank parse name n) :
    ∀ e ∈ n.children, Blank parse e.1 e.2 := by
  cases h with
  | file h =>
    intro e he
    cases he
  | dir name h => exact h

theorem goFile?_eq_none_iff {accepts : String → Bool} {name : String} {text : Option String} :
    (Node.file text).goFile? parse accepts name = none ↔
      accepts name = false ∨ ∀ source ∈ text, (parse source).isOk = false := by
  have hparse : (text.bind fun source => (parse source).toOption) = none ↔
      ∀ source ∈ text, (parse source).isOk = false := by
    rw [Option.bind_eq_none_iff]
    refine forall₂_congr fun source _ => ?_
    cases parse source <;> simp [Except.toOption, Except.isOk, Except.toBool]
  rw [← hparse]
  unfold goFile?
  cases accepts name <;> simp

variable {text : Option String}

/-- The directories made for a file hold nothing else. -/
theorem blank_put_empty {names : List String} {name : String}
    (h : (Node.file text).goFile? parse isSource (names.getLastD name) = none) :
    Blank parse name ((Node.dir []).put names (.file text)) := by
  induction names generalizing name with
  | nil => exact .file h
  | cons k ks ih =>
    rw [List.getLastD_cons] at h
    refine .dir name fun e he => ?_
    cases List.mem_singleton.mp he
    exact ih h

theorem gains_put {n : Node} (hn : n.WellFormed) {names : List String} (hfree : n.Free names)
    {name : String} (h : (Node.file text).goFile? parse isSource (names.getLastD name) = none) :
    Gains parse n (n.put names (.file text)) := by
  induction hfree generalizing name with
  | @new entries k ks hnone =>
    rw [List.getLastD_cons] at h
    obtain ⟨before, after, hold, hnew⟩ :=
      insertEntry_of_lookup_eq_none ((Node.dir []).put ks (.file text)) hnone
    rw [put_dir_cons, hnone, Option.getD_none, hnew, hold]
    exact .entry before after (blank_put_empty h)
  | @inside entries k m ks hsome _ ih =>
    rw [List.getLastD_cons] at h
    cases hn with
    | dir sorted names nodes =>
      have hgains := ih (nodes _ (mem_of_lookup hsome)) h
      obtain ⟨before, after, hold, hnew⟩ :=
        sorted.insertEntry_of_lookup_eq_some (m.put ks (.file text)) hsome
      rw [put_dir_cons, hsome, Option.getD_some, hnew, hold]
      exact .inside before after k hgains

theorem Free.at? {n m : Node} {p q : List String} (h : n.Free (p ++ q)) (hm : n.at? p = some m) :
    m.Free q := by
  induction p generalizing n with
  | nil =>
    cases hm
    exact h
  | cons name names ih =>
    cases h with
    | new _ hnone =>
      rw [at?_dir_cons, hnone] at hm
      cases hm
    | inside hsome hfree =>
      rw [at?_dir_cons, hsome] at hm
      exact ih hfree hm

end Node

/-- A reading of the entries of a directory that gets nothing from blank nodes. -/
structure Steady (parse : Go.Parser) {β : Type} (f : String × Node → List β) : Prop where
  blank : ∀ {name n}, Node.Blank parse name n → f (name, n) = []
  gains : ∀ {name n n'}, Node.Gains parse n n' → f (name, n') = f (name, n)

/-- What is found under a name before and after a file was made. -/
inductive Change (parse : Go.Parser) (name : String) : Option Node → Option Node → Prop where
  | gains {n n' : Node} (h : Node.Gains parse n n') : Change parse name (some n) (some n')
  | blank {n : Node} (h : Node.Blank parse name n) : Change parse name none (some n)
  | none : Change parse name none none

variable {parse : Go.Parser}

theorem Change.isSome {name : String} {o o' : Option Node} (h : Change parse name o o')
    (ho : o.isSome = true) : o'.isSome = true := by
  cases h with
  | gains h => rfl
  | blank h => rfl
  | none => cases ho

theorem steady_goFile? {accepts : String → Bool}
    (h : ∀ name, accepts name = true → isSource name = true) :
    Steady parse fun e => (e.2.goFile? parse accepts e.1).toList where
  blank := by
    intro name n hn
    cases hn with
    | dir _ _ => rfl
    | file hfile =>
      have haccepts : (Node.file _).goFile? parse accepts name = none :=
        Node.goFile?_eq_none_iff.mpr ((Node.goFile?_eq_none_iff.mp hfile).imp_left fun hs => by
          simpa [hs] using h name)
      simp only [haccepts, Option.toList_none]
  gains := by
    intro name n n' hn
    cases hn <;> rfl

namespace Steady
variable {β : Type} {f : String × Node → List β}

theorem children_of_blank (hf : Steady parse f) {name : String} {n : Node}
    (h : Node.Blank parse name n) : n.children.flatMap f = [] :=
  List.flatMap_eq_nil_iff.mpr fun e he => hf.blank (h.children e he)

theorem children_of_gains (hf : Steady parse f) {n n' : Node} (h : Node.Gains parse n n') :
    n'.children.flatMap f = n.children.flatMap f := by
  cases h with
  | refl => rfl
  | entry before after h => simp [Node.children, hf.blank h]
  | inside before after name h => simp [Node.children, hf.gains h]

theorem children_of_change (hf : Steady parse f) {name : String} {o o' : Option Node}
    (h : Change parse name o o') :
    ((o'.map Node.children).getD []).flatMap f = ((o.map Node.children).getD []).flatMap f := by
  cases h with
  | gains h => exact hf.children_of_gains h
  | blank h => exact hf.children_of_blank h
  | none => rfl

theorem map {γ : Type} (hf : Steady parse f) (k : β → γ) : Steady parse fun e => (f e).map k where
  blank h := by rw [hf.blank h, List.map_nil]
  gains h := by rw [hf.gains h]

end Steady

/-- The packages of nodes are the same. -/
theorem Change.package_eq {name : String} {o o' : Option Node} (h : Change parse name o o') :
    (o'.map (Node.package parse)).getD [] = (o.map (Node.package parse)).getD [] := by
  have hpackage : ∀ o : Option Node, (o.map (Node.package parse)).getD [] =
      ((o.map Node.children).getD []).flatMap fun e => (e.2.goFile? parse isSource e.1).toList := by
    intro o
    cases o with
    | none => rfl
    | some n => exact List.filterMap_eq_flatMap_toList _ _
  rw [hpackage, hpackage]
  exact (steady_goFile? fun _ h => h).children_of_change h

theorem steady_entry_goFile? {accepts : String → Bool}
    (h : ∀ name, accepts name = true → isSource name = true) (path : FilePath) :
    Steady parse fun e => (Entry.goFile? parse accepts ⟨path, e.1, e.2⟩).toList := by
  simpa only [Entry.goFile?, Option.toList_map] using (steady_goFile? h).map (path, ·)

section
variable {β : Type} {g : Entry → List β} (hg : ∀ path, Steady parse fun e => g ⟨path, e.1, e.2⟩)
include hg

theorem flatMap_walkEntry_of_blank {name : String} {n : Node} (h : Node.Blank parse name n)
    (dir : FilePath) : (walkEntry dir (name, n)).flatMap g = [] := by
  induction h generalizing dir with
  | @file name text h =>
    have hread := (hg (FilePath.join dir name)).blank (.file h)
    simpa [walkEntry, isSkipped, Node.isDir, Node.isFile, Node.content] using hread
  | @dir name entries h ih =>
    have hread := (hg (FilePath.join dir name)).blank (.dir name h)
    have hinside : ((Node.dir entries).content (FilePath.join dir name)).flatMap g = [] := by
      rw [Node.content_eq_flatMap, List.flatMap_assoc, List.flatMap_eq_nil_iff]
      exact fun e he => ih e he _
    unfold walkEntry
    split_ifs
    · rfl
    · rw [List.flatMap_cons, hinside, hread]
      rfl

theorem flatMap_walkEntry_of_content {n n' : Node} (h : Node.Gains parse n n')
    (hcontent : ∀ p, (n'.content p).flatMap g = (n.content p).flatMap g) (dir : FilePath)
    (name : String) : (walkEntry dir (name, n')).flatMap g = (walkEntry dir (name, n)).flatMap g := by
  have hread : g ⟨_, name, n'⟩ = g ⟨_, name, n⟩ := (hg (FilePath.join dir name)).gains h
  unfold walkEntry isSkipped
  simp only [h.isDir_eq]
  split_ifs
  · rfl
  · rw [List.flatMap_cons, List.flatMap_cons, hcontent, hread]

theorem flatMap_content_of_gains {n n' : Node} (h : Node.Gains parse n n') (p : FilePath) :
    (n'.content p).flatMap g = (n.content p).flatMap g := by
  induction h generalizing p with
  | refl n => rfl
  | entry before after h =>
    rw [Node.content_eq_flatMap, Node.content_eq_flatMap]
    simp [Node.children, List.flatMap_assoc, flatMap_walkEntry_of_blank hg h]
  | inside before after name h ih =>
    rw [Node.content_eq_flatMap, Node.content_eq_flatMap]
    simp [Node.children, List.flatMap_assoc, flatMap_walkEntry_of_content hg h ih]

/-- All entries below a node, taken together, are a reading too. -/
theorem steady_walkEntry (dir : FilePath) : Steady parse fun e => (walkEntry dir e).flatMap g where
  blank h := flatMap_walkEntry_of_blank hg h dir
  gains h := flatMap_walkEntry_of_content hg h (flatMap_content_of_gains hg h) dir _

theorem flatMap_content_of_blank {name : String} {n : Node} (h : Node.Blank parse name n)
    (p : FilePath) : (n.content p).flatMap g = [] := by
  rw [Node.content_eq_flatMap, List.flatMap_assoc]
  exact (steady_walkEntry hg p).children_of_blank h

/-- What is read on a walk from a path is the same. -/
theorem flatMap_walk?_of_change {d d' : Disk} {p : FilePath}
    (h : Change parse (startName p) (d.find? p) (d'.find? p)) :
    ((d'.walk? p).getD []).flatMap g = ((d.walk? p).getD []).flatMap g := by
  unfold walk?
  generalize d.find? p = o, d'.find? p = o' at h
  cases h with
  | none => rfl
  | blank h =>
    change g _ ++ List.flatMap g _ = []
    rw [(hg p).blank h, flatMap_content_of_blank hg h]
    rfl
  | gains h =>
    change g _ ++ List.flatMap g _ = g _ ++ List.flatMap g _
    rw [flatMap_content_of_gains hg h, (hg p).gains h]

end

end RouteDoc.Disk
