import RouteDoc.Proofs.Disk.Tree
import RouteDoc.Proofs.Text

/-! Where paths lead. A name after a path is one more step from the place that the path leads to, and
slashes and dots at the end of a path change nothing. -/
namespace RouteDoc

namespace Disk

theorem pieces_slash (p q : FilePath) : pieces (p ++ "/" ++ q) = pieces p ++ pieces q := by
  have hchars : (p ++ "/" ++ q).toList = p.toList ++ '/' :: q.toList := by simp
  unfold pieces
  rw [hchars, List.splitOn_append_cons_self, List.map_append]

theorem pieces_eq_singleton {name : String} (h : '/' ∉ name.toList) : pieces name = [name] := by
  unfold pieces
  rw [List.splitOn_eq_singleton h, List.map_singleton, String.ofList_toList]

theorem pieces_ne_nil (p : FilePath) : pieces p ≠ [] :=
  mt List.map_eq_nil_iff.mp (List.splitOn_ne_nil _ _)

theorem isAbsolute_append {p : FilePath} (hp : p ≠ "") (q : String) :
    FilePath.isAbsolute (p ++ q) = FilePath.isAbsolute p := by
  have hhead : (p ++ q).toList.head? = p.toList.head? := by
    rw [String.toList_append]
    exact List.head?_append_of_ne_nil _ (by simpa using hp)
  unfold FilePath.isAbsolute
  rw [hhead]

theorem start_append (d : Disk) {p : FilePath} (hp : p ≠ "") (q : String) :
    d.start (p ++ q) = d.start p := by
  unfold start
  rw [isAbsolute_append hp]

/-- There is one slash between a directory and a name. -/
theorem exists_join_eq {dir : FilePath} (hdir : dir ≠ "") {name : String} (hname : IsFileName name) :
    ∃ p, FilePath.join dir name = p ++ "/" ++ name ∧ (dir = p ∨ dir = p ++ "/") := by
  have habs : FilePath.isAbsolute name = false := by
    unfold FilePath.isAbsolute
    cases hcs : name.toList with
    | nil => rfl
    | cons c cs =>
      have hc : c ≠ '/' := by
        rintro rfl
        exact hname.no_slash (hcs ▸ List.mem_cons_self)
      simpa using hc
  unfold FilePath.join
  rw [if_neg (by simp [habs, hdir])]
  split_ifs with hlast
  · obtain ⟨cs, hcs⟩ : ∃ cs, dir.toList = cs ++ ['/'] := by
      rw [beq_iff_eq, List.getLast?_eq_some_iff] at hlast
      exact hlast
    have heq : dir = String.ofList cs ++ "/" := by
      rw [← String.toList_inj]
      simp [hcs]
    exact ⟨String.ofList cs, congrArg (· ++ name) heq, .inr heq⟩
  · exact ⟨dir, rfl, .inl rfl⟩

section
open FilePath

/-- What a path starts with, and its pieces without the empty ones and the dots. -/
theorem components_eq (p : FilePath) :
    components p =
      (if isAbsolute p then ["/"] else if (pieces p).head? = some "." then ["."] else []) ++
        (pieces p).filter fun n => n != "" && n != "." := by
  change (if isAbsolute p then _ else _) = _
  split_ifs with habs hdot
  · rfl
  · split
    next rest hrest =>
      rw [show pieces p = "." :: rest from hrest]
      rfl
    next hne =>
      obtain ⟨rest, hrest⟩ := List.head?_eq_some_iff.mp hdot
      exact absurd hrest (hne rest)
  · rw [List.nil_append]
    split
    next rest hrest => exact absurd (congrArg List.head? hrest) hdot
    next => rfl

theorem IsFileName.filter_singleton {name : String} (h : IsFileName name) :
    [name].filter (fun n => n != "" && n != ".") = [name] :=
  List.filter_cons_of_pos (by simp [h.ne_empty, h.ne_dot])

/-- One more piece is one more component, if it is not skipped. -/
theorem components_concat {p q : FilePath} (habs : isAbsolute q = isAbsolute p) {piece : String}
    (hpieces : pieces q = pieces p ++ [piece]) :
    components q = components p ++ [piece].filter fun n => n != "" && n != "." := by
  have hhead : (pieces q).head? = (pieces p).head? := by
    rw [hpieces]
    exact List.head?_append_of_ne_nil _ (pieces_ne_nil p)
  rw [components_eq q, components_eq p, habs, hhead, hpieces, List.filter_append, List.append_assoc]

theorem components_join {dir : FilePath} (hdir : dir ≠ "") {name : String} (hname : IsFileName name) :
    components (join dir name) = components dir ++ [name] := by
  have hpieces : ∀ p : FilePath, pieces (p ++ "/" ++ name) = pieces p ++ [name] := by
    intro p
    rw [pieces_slash, pieces_eq_singleton hname.no_slash]
  have hslash : ∀ p : FilePath, p ≠ "" →
      components (p ++ "/" ++ name) = components p ++ [name] := by
    intro p hp
    have habs : isAbsolute (p ++ "/" ++ name) = isAbsolute p := by
      rw [isAbsolute_append (by simp), isAbsolute_append hp]
    rw [components_concat habs (hpieces p), hname.filter_singleton]
  obtain ⟨p, hjoin, rfl | rfl⟩ := exists_join_eq hdir hname
  · rw [hjoin, hslash dir hdir]
  · rw [hjoin]
    by_cases hp : p = ""
    · subst hp
      have hroot : isAbsolute ("" ++ "/" ++ name) = true := isAbsolute_append (by simp) name
      rw [components_eq, hroot, hpieces, List.filter_append, hname.filter_singleton]
      rfl
    · -- a slash at the end of a directory only adds an empty piece
      have hempty : pieces (p ++ "/") = pieces p ++ [""] := by
        have hpiece := pieces_slash p ""
        rwa [String.append_empty] at hpiece
      have hend : components (p ++ "/") = components p := by
        rw [components_concat (isAbsolute_append hp "/") hempty]
        exact List.append_nil _
      rw [hslash p hp, hend]

end

theorem bind_eq_ok_iff {α β : Type} {x : Except Fault α} {f : α → Except Fault β} {b : β} :
    (x >>= f) = .ok b ↔ ∃ a, x = .ok a ∧ f a = .ok b := by
  cases x with
  | error fault => exact ⟨fun h => (by cases h), fun ⟨_, h, _⟩ => (by cases h)⟩
  | ok a => exact ⟨fun h => ⟨a, rfl, h⟩, fun ⟨_, h, hf⟩ => (by cases h; exact hf)⟩

variable {d : Disk} {place : Place}

theorem step_of_isFileName {entries : List (String × Node)} {name : String}
    (hdir : d.root.at? place = some (.dir entries)) (hname : IsFileName name) :
    d.step place name =
      if (entries.lookup name).isSome then .ok (place ++ [name]) else .error .notFound := by
  unfold step
  rw [hdir]
  simp only [hname.ne_empty, hname.ne_dot, hname.ne_dots, decide_false, Bool.or_self,
    Bool.false_eq_true, if_false]
  rfl

/-- Only from a directory there is a step. It leads to the directory itself, to the one around it or
to an entry. -/
theorem step_cases {name : String} {place' : Place} (h : d.step place name = .ok place') :
    ∃ entries, d.root.at? place = some (.dir entries) ∧
      ((name = "" ∨ name = ".") ∧ place' = place ∨ name = ".." ∧ place' = place.dropLast ∨
        (entries.lookup name).isSome = true ∧ place' = place ++ [name]) := by
  unfold step at h
  cases hnode : d.root.at? place with
  | none =>
    rw [hnode] at h
    cases h
  | some n =>
    rw [hnode] at h
    cases n with
    | file text => cases h
    | dir entries =>
      refine ⟨entries, rfl, ?_⟩
      simp only at h
      split_ifs at h with hstay hup hc
      · cases h
        exact .inl ⟨by simpa using hstay, rfl⟩
      · cases h
        exact .inr (.inl ⟨hup, rfl⟩)
      · cases h
        exact .inr (.inr ⟨hc, rfl⟩)

/-- From a directory an empty name and a dot lead nowhere else. -/
theorem step_stay {entries : List (String × Node)} (hdir : d.root.at? place = some (.dir entries))
    {name : String} (hname : name = "" ∨ name = ".") : d.step place name = .ok place := by
  unfold step
  rw [hdir]
  simp only
  rw [if_pos (by simpa using hname)]
  rfl

theorem step_up {entries : List (String × Node)} (hdir : d.root.at? place = some (.dir entries)) :
    d.step place ".." = .ok place.dropLast := by
  unfold step
  rw [hdir]
  rfl

theorem isSome_lookup_eq {entries : List (String × Node)}
    (hdir : d.root.at? place = some (.dir entries)) (name : String) :
    (entries.lookup name).isSome = (d.root.at? (place ++ [name])).isSome := by
  rw [Node.at?_concat_of_dir hdir]

theorem foldlM_step_concat {names : List String} {name : String} {place place' : Place} :
    (names ++ [name]).foldlM d.step place = .ok place' ↔
      ∃ place₁, names.foldlM d.step place = .ok place₁ ∧ d.step place₁ name = .ok place' := by
  have hone : ∀ place₁, [name].foldlM d.step place₁ = d.step place₁ name := fun _ => bind_pure _
  rw [List.foldlM_append, bind_eq_ok_iff]
  simp only [hone]

theorem isFileName_of_isSome (hwf : d.root.WellFormed) {entries : List (String × Node)}
    (hdir : d.root.at? place = some (.dir entries)) {name : String}
    (hc : (entries.lookup name).isSome = true) : IsFileName name := by
  obtain ⟨n, hn⟩ := Option.isSome_iff_exists.mp hc
  exact ((hwf.at? hdir).lookup hn).1

theorem find?_of_locate {p : FilePath} (h : d.locate p = .ok place) :
    d.find? p = d.root.at? place := by
  unfold find? find
  rw [h]
  simp only [bind, Except.bind]
  cases d.root.at? place <;> rfl

theorem find?_eq_some_iff {p : FilePath} {n : Node} :
    d.find? p = some n ↔ ∃ place, d.locate p = .ok place ∧ d.root.at? place = some n := by
  constructor
  · intro h
    cases hp : d.locate p with
    | error fault =>
      unfold find? find at h
      rw [hp] at h
      cases h
    | ok place => exact ⟨place, rfl, (find?_of_locate hp).symm.trans h⟩
  · rintro ⟨place, hp, hn⟩
    exact (find?_of_locate hp).trans hn

theorem ne_empty_of_locate {p : FilePath} (h : d.locate p = .ok place) : p ≠ "" := by
  rintro rfl
  cases h

theorem locate_of_ne_empty {p : FilePath} (hp : p ≠ "") :
    d.locate p = (pieces p).foldlM d.step (d.start p) := if_neg hp

/-- The last name of a path is one step. -/
theorem locate_slash (p : FilePath) {name : String} (hname : '/' ∉ name.toList) :
    d.locate (p ++ "/" ++ name) =
      (pieces p).foldlM d.step (d.start (p ++ "/")) >>= fun place => d.step place name := by
  have hslash : p ++ "/" ≠ "" := by simp
  have hne : p ++ "/" ++ name ≠ "" := by simp
  rw [locate_of_ne_empty hne, start_append d hslash, pieces_slash, pieces_eq_singleton hname,
    List.foldlM_append]
  refine bind_congr fun place => ?_
  rw [List.foldlM_cons]
  exact bind_pure _

theorem locate_slash_of_locate {p : FilePath} (hp : d.locate p = .ok place) {name : String}
    (hname : '/' ∉ name.toList) : d.locate (p ++ "/" ++ name) = d.step place name := by
  have hne := ne_empty_of_locate hp
  rw [locate_of_ne_empty hne] at hp
  rw [locate_slash p hname, start_append d hne, hp]
  rfl

/-- A path with a slash at its end leads to a directory, and so does the path without it. -/
theorem exists_of_locate_slash {p : FilePath} (h : d.locate (p ++ "/") = .ok place) :
    (pieces p).foldlM d.step (d.start (p ++ "/")) = .ok place ∧
      ∃ entries, d.root.at? place = some (.dir entries) := by
  have hempty : p ++ "/" ++ "" = p ++ "/" := by simp
  rw [← hempty, locate_slash p (by simp), bind_eq_ok_iff] at h
  obtain ⟨place', hp, hstep⟩ := h
  obtain ⟨entries, hdir, -⟩ := step_cases hstep
  rw [step_stay hdir (.inl rfl)] at hstep
  cases hstep
  exact ⟨hp, entries, hdir⟩

/-- A name below a directory is one step from its place. -/
theorem locate_join {dir : FilePath} (hdir : d.locate dir = .ok place) {name : String}
    (hname : IsFileName name) : d.locate (FilePath.join dir name) = d.step place name := by
  obtain ⟨p, hjoin, rfl | rfl⟩ := exists_join_eq (ne_empty_of_locate hdir) hname
  · rw [hjoin]
    exact locate_slash_of_locate hdir hname.no_slash
  · rw [hjoin, locate_slash p hname.no_slash, (exists_of_locate_slash hdir).1]
    rfl

theorem find?_join {dir : FilePath} {entries : List (String × Node)}
    (hdir : d.find? dir = some (.dir entries)) {name : String} (hname : IsFileName name) {n : Node}
    (hn : entries.lookup name = some n) :
    d.find? (FilePath.join dir name) = some n := by
  obtain ⟨place, hplace, hnode⟩ := find?_eq_some_iff.mp hdir
  have hc : (entries.lookup name).isSome = true := Option.isSome_iff_exists.mpr ⟨n, hn⟩
  refine find?_eq_some_iff.mpr ⟨place ++ [name], ?_, ?_⟩
  · rw [locate_join hplace hname, step_of_isFileName hnode hname, if_pos hc]
  · rw [Node.at?_concat_of_dir hnode, hn]

/-- Slashes and dots at the end of a path to a directory may be dropped. -/
theorem locate_trimTail {entries : List (String × Node)}
    (hdir : d.root.at? place = some (.dir entries)) {cs : List Char}
    (h : d.locate (String.ofList cs.reverse) = .ok place) :
    d.locate (String.ofList (FilePath.trimTail cs).reverse) = .ok place := by
  fun_induction FilePath.trimTail cs with
  | case1 => exact h
  | case2 cs hne ih =>
    have hp : String.ofList cs.reverse ≠ "" := by simpa using fun hnil : cs = [] => hne hnil
    have hslash : String.ofList ('/' :: cs).reverse = String.ofList cs.reverse ++ "/" := by
      rw [← String.toList_inj]
      simp
    rw [hslash] at h
    refine ih ?_
    rw [locate_of_ne_empty hp, ← start_append d hp "/"]
    exact (exists_of_locate_slash h).1
  | case3 cs ih =>
    have hdot : String.ofList ('.' :: '/' :: cs).reverse = String.ofList cs.reverse ++ "/" ++ "." := by
      rw [← String.toList_inj]
      simp
    have hslash : String.ofList ('/' :: cs).reverse = String.ofList cs.reverse ++ "/" ++ "" := by
      rw [← String.toList_inj]
      simp
    refine ih ?_
    rw [hdot, locate_slash _ (by decide), bind_eq_ok_iff] at h
    obtain ⟨place', hp, hstep⟩ := h
    obtain ⟨entries', hdir', -⟩ := step_cases hstep
    rw [step_stay hdir' (.inr rfl)] at hstep
    rw [hslash, locate_slash _ (by simp), hp]
    cases hstep
    exact step_stay hdir (.inl rfl)
  | case4 => exact h

private theorem trimTail_cons {c : Char} {cs : List Char} (hc : c ≠ '/')
    (hdot : c = '.' → cs.head? ≠ some '/') : FilePath.trimTail (c :: cs) = c :: cs := by
  unfold FilePath.trimTail
  split
  next heq =>
    cases heq
    exact absurd rfl hc
  next heq =>
    cases heq
    exact absurd rfl hc
  next heq =>
    cases heq
    exact absurd rfl (hdot rfl)
  next => rfl

/-- What stands before the last name of a path, without slashes and dots at its end. -/
theorem parent?_slash (p : FilePath) {name : String} (hname : IsFileName name) :
    FilePath.parent? (p ++ "/" ++ name) =
      some (String.ofList (FilePath.trimTail ('/' :: p.toList.reverse)).reverse) := by
  have hrev : (p ++ "/" ++ name).toList.reverse = name.toList.reverse ++ '/' :: p.toList.reverse := by
    simp
  have hslash : ∀ c ∈ name.toList.reverse, c ≠ '/' := by
    rintro c hc rfl
    exact hname.no_slash (List.mem_reverse.mp hc)
  have hdrop : (name.toList.reverse ++ '/' :: p.toList.reverse).dropWhile (· != '/') =
      '/' :: p.toList.reverse := by
    rw [List.dropWhile_append_of_pos (by simpa using hslash)]
    rfl
  unfold FilePath.parent?
  rw [hrev]
  cases hcs : name.toList.reverse with
  | nil => exact absurd (by simpa using hcs) hname.ne_empty
  | cons c cs =>
    rw [hcs] at hslash hdrop
    have hc : c ≠ '/' := hslash c List.mem_cons_self
    have hdot : c = '.' → (cs ++ '/' :: p.toList.reverse).head? ≠ some '/' := by
      rintro rfl
      cases cs with
      | nil =>
        refine absurd ?_ hname.ne_dot
        rw [← String.toList_inj, ← List.reverse_inj, hcs]
        rfl
      | cons c' cs =>
        have hc' : c' ≠ '/' := hslash c' (List.mem_cons_of_mem _ List.mem_cons_self)
        simpa using hc'
    rw [List.cons_append] at hdrop ⊢
    rw [trimTail_cons hc hdot]
    split
    next heq => cases heq
    next heq => exact absurd (List.cons.inj heq).1 hc
    next => rw [hdrop]

/-- The directory of a file is found again from the path of the file. -/
theorem locate_parent {dir : FilePath} (hdir : d.locate dir = .ok place)
    {entries : List (String × Node)} (hnode : d.root.at? place = some (.dir entries))
    {name : String} (hname : IsFileName name) :
    ∃ parent, FilePath.parent? (FilePath.join dir name) = some parent ∧
      d.locate parent = .ok place := by
  obtain ⟨p, hjoin, hp⟩ := exists_join_eq (ne_empty_of_locate hdir) hname
  have hslash : d.locate (p ++ "/") = .ok place := by
    rcases hp with rfl | rfl
    · have hempty : d.locate (dir ++ "/" ++ "") = d.step place "" :=
        locate_slash_of_locate hdir (by simp)
      rw [step_stay hnode (.inl rfl)] at hempty
      simpa using hempty
    · exact hdir
  refine ⟨_, hjoin ▸ parent?_slash p hname, locate_trimTail hnode ?_⟩
  have hchars : String.ofList ('/' :: p.toList.reverse).reverse = p ++ "/" := by
    rw [← String.toList_inj]
    simp
  rw [hchars, hslash]

end Disk

end RouteDoc
