import RouteDoc.Proofs.Disk.Blank

/-! Making a file from which nothing is read. Every path leads to the same place as before or to what
is new, so it finds what was there, with the file as its gain, or a node that holds nothing to read. -/
namespace RouteDoc.Disk

/-- Makes a file, and the directories on the way to it. -/
def create (d : Disk) (place : Place) (text : Option String) : Disk :=
  { d with root := d.root.put place (.file text) }

/-- A file from which nothing is read may be made at a place: the name is not that of a source, or the
text cannot be parsed. -/
structure Harmless (d : Disk) (parse : Go.Parser) (place : Place) (text : Option String) :
    Prop where
  wellFormed : d.root.WellFormed
  names : ∀ name ∈ place, IsFileName name
  free : d.root.Free place
  ignored : isSource (place.getLastD "") = false ∨
    ∀ source ∈ text, (parse source).isOk = false

/-- A path leads back out of no directory that is made for the file. -/
def Clear (d : Disk) (place : Place) (text : Option String) (p : FilePath) : Prop :=
  ∀ front back, pieces p = front ++ ".." :: back →
    ∀ q, front.foldlM (d.create place text).step (d.start p) = .ok q → (d.root.at? q).isSome = true

theorem clear_of_notMem (d : Disk) (place : Place) (text : Option String) {p : FilePath}
    (h : ".." ∉ pieces p) : d.Clear place text p := by
  intro front back hp
  exact absurd (hp ▸ List.mem_append_right front List.mem_cons_self) h

private theorem getLastD_append {α : Type} (p q : List α) (a : α) :
    (p ++ q).getLastD a = q.getLastD (p.getLastD a) := by
  cases q using List.reverseRecOn with
  | nil => rw [List.append_nil, List.getLastD_nil]
  | append_singleton q b _ => rw [← List.append_assoc, List.getLastD_concat, List.getLastD_concat]

namespace Harmless
variable {d : Disk} {parse : Go.Parser} {place : Place} {text : Option String}
  (h : d.Harmless parse place text)
include h

theorem wellFormed_create : (d.create place text).root.WellFormed :=
  h.wellFormed.put h.names (.file text)

theorem goFile?_eq_none : (Node.file text).goFile? parse isSource (place.getLastD "") = none :=
  Node.goFile?_eq_none_iff.mpr h.ignored

theorem change_at? (q : Place) :
    Change parse (q.getLastD "") (d.root.at? q) ((d.create place text).root.at? q) := by
  have hignored := h.goFile?_eq_none
  by_cases hq : q <+: place
  · obtain ⟨rest, rfl⟩ := hq
    rw [getLastD_append] at hignored
    change Change _ _ _ ((d.root.put (q ++ rest) (.file text)).at? q)
    rw [Node.at?_put_of_prefix]
    cases hn : d.root.at? q with
    | none => exact .blank (Node.blank_put_empty hignored)
    | some n =>
      exact .gains (Node.gains_put (h.wellFormed.at? hn) (h.free.at? hn) hignored)
  · change Change _ _ _ ((d.root.put place (.file text)).at? q)
    rw [Node.at?_put_of_not_prefix h.free text hq]
    cases d.root.at? q with
    | none => exact .none
    | some n => exact .gains (.refl n)

theorem exists_dir_create {q : Place} {entries : List (String × Node)}
    (hdir : d.root.at? q = some (.dir entries)) :
    ∃ entries', (d.create place text).root.at? q = some (.dir entries') := by
  have hchange := h.change_at? q
  rw [hdir] at hchange
  generalize (d.create place text).root.at? q = o' at hchange
  cases hchange with
  | gains hgains => cases hgains <;> exact ⟨_, rfl⟩

theorem exists_dir_of_create {q : Place} {entries' : List (String × Node)}
    (hdir' : (d.create place text).root.at? q = some (.dir entries')) :
    d.root.at? q = none ∨ ∃ entries, d.root.at? q = some (.dir entries) := by
  have hchange := h.change_at? q
  rw [hdir'] at hchange
  generalize d.root.at? q = o at hchange
  cases hchange with
  | blank _ => exact .inl rfl
  | gains hgains => cases hgains <;> exact .inr ⟨_, rfl⟩

/-- Every step that could be made still can. -/
theorem step_create {q q' : Place} {name : String} (hstep : d.step q name = .ok q') :
    (d.create place text).step q name = .ok q' := by
  obtain ⟨entries, hdir, hcases⟩ := step_cases hstep
  obtain ⟨entries', hdir'⟩ := h.exists_dir_create hdir
  rcases hcases with ⟨hname, rfl⟩ | ⟨rfl, rfl⟩ | ⟨hc, rfl⟩
  · exact step_stay hdir' hname
  · exact step_up hdir'
  · have hc' : (entries'.lookup name).isSome = true := by
      have hchange := h.change_at? (q ++ [name])
      rw [isSome_lookup_eq hdir] at hc
      rw [isSome_lookup_eq hdir']
      exact hchange.isSome hc
    rw [step_of_isFileName hdir' (isFileName_of_isSome h.wellFormed hdir hc), if_pos hc']

/-- A step that could not be made leads to what is new, unless it leads back from there. -/
theorem step_of_step_create {q q' : Place} {name : String}
    (hup : name = ".." → (d.root.at? q).isSome = true)
    (hstep : (d.create place text).step q name = .ok q') :
    d.step q name = .ok q' ∨ d.root.at? q' = none := by
  obtain ⟨entries', hdir', hcases⟩ := step_cases hstep
  rcases h.exists_dir_of_create hdir' with hnone | ⟨entries, hdir⟩
  · right
    rcases hcases with ⟨-, rfl⟩ | ⟨hname, -⟩ | ⟨-, rfl⟩
    · exact hnone
    · have hsome := hup hname
      rw [hnone] at hsome
      cases hsome
    · rw [Node.at?_append, hnone]
      rfl
  · rcases hcases with ⟨hname, rfl⟩ | ⟨rfl, rfl⟩ | ⟨hc, rfl⟩
    · exact .inl (step_stay hdir hname)
    · exact .inl (step_up hdir)
    · have hname := isFileName_of_isSome h.wellFormed_create hdir' hc
      rw [step_of_isFileName hdir hname, isSome_lookup_eq hdir]
      cases d.root.at? (q ++ [name]) with
      | none => exact .inr rfl
      | some n => exact .inl rfl

theorem foldlM_create {names : List String} {q q' : Place}
    (hsteps : names.foldlM d.step q = .ok q') :
    names.foldlM (d.create place text).step q = .ok q' := by
  induction names generalizing q with
  | nil => exact hsteps
  | cons name names ih =>
    rw [List.foldlM_cons, bind_eq_ok_iff] at hsteps ⊢
    obtain ⟨q₁, hstep, hsteps⟩ := hsteps
    exact ⟨q₁, h.step_create hstep, ih hsteps⟩

theorem locate_create {p : FilePath} {q : Place} (hp : d.locate p = .ok q) :
    (d.create place text).locate p = .ok q := by
  have hne := ne_empty_of_locate hp
  rw [locate_of_ne_empty hne] at hp ⊢
  exact h.foldlM_create hp

theorem clear_of_locate {p : FilePath} {q : Place} (hp : d.locate p = .ok q) :
    d.Clear place text p := by
  intro front back hback q' hfront'
  rw [locate_of_ne_empty (ne_empty_of_locate hp), hback, List.append_cons, List.foldlM_append,
    bind_eq_ok_iff] at hp
  obtain ⟨_, hback, -⟩ := hp
  obtain ⟨q₀, hfront, hstep⟩ := foldlM_step_concat.mp hback
  obtain ⟨entries, hdir, -⟩ := step_cases hstep
  have hsame := (h.foldlM_create hfront).symm.trans hfront'
  cases hsame
  rw [hdir]
  rfl

/-- On the new disk a path leads to the same place as before, or to what is new. -/
theorem locate_of_locate_create {p : FilePath} (hclear : d.Clear place text p) {q : Place}
    (hp : (d.create place text).locate p = .ok q) : d.locate p = .ok q ∨ d.root.at? q = none := by
  have hne := ne_empty_of_locate hp
  rw [locate_of_ne_empty hne] at hp ⊢
  -- by induction along the path, from its start on
  have hparts : ∀ front back, pieces p = front ++ back → ∀ q,
      front.foldlM (d.create place text).step (d.start p) = .ok q →
        front.foldlM d.step (d.start p) = .ok q ∨ d.root.at? q = none := by
    intro front
    induction front using List.reverseRecOn with
    | nil => exact fun back hback q hq => .inl hq
    | append_singleton front name ih =>
      intro back hback q hq
      have hsplit : pieces p = front ++ name :: back := by simpa using hback
      obtain ⟨q₀, hfront', hstep'⟩ := foldlM_step_concat.mp hq
      have hup : name = ".." → (d.root.at? q₀).isSome = true := by
        rintro rfl
        exact hclear front back hsplit q₀ hfront'
      rcases h.step_of_step_create hup hstep' with hstep | hnone
      · rcases ih (name :: back) hsplit q₀ hfront' with hfront | hnone
        · exact .inl (foldlM_step_concat.mpr ⟨q₀, hfront, hstep⟩)
        · obtain ⟨entries, hdir, -⟩ := step_cases hstep
          rw [hnone] at hdir
          cases hdir
      · exact .inr hnone
  exact hparts (pieces p) [] (List.append_nil _).symm q hp

/-- What is found by a path. -/
theorem change_find? {p : FilePath} (hclear : d.Clear place text p) :
    Change parse (startName p) (d.find? p) ((d.create place text).find? p) := by
  cases hfind' : (d.create place text).find? p with
  | none =>
    cases hfind : d.find? p with
    | none => exact .none
    | some n =>
      obtain ⟨q, hp, hn⟩ := find?_eq_some_iff.mp hfind
      have hchange := h.change_at? q
      rw [hn, ← find?_of_locate (h.locate_create hp), hfind'] at hchange
      cases hchange
  | some n' =>
    obtain ⟨q, hp', hn'⟩ := find?_eq_some_iff.mp hfind'
    have hfind : d.find? p = d.root.at? q := by
      rcases h.locate_of_locate_create hclear hp' with hp | hnone
      · exact find?_of_locate hp
      · cases hfind : d.find? p with
        | none => exact hnone.symm
        | some n =>
          obtain ⟨q₁, hp, hn⟩ := find?_eq_some_iff.mp hfind
          have hsame := (h.locate_create hp).symm.trans hp'
          cases hsame
          exact hn.symm
    have hchange := h.change_at? q
    rw [hn', ← hfind] at hchange
    generalize d.find? p = o at hchange
    cases hchange with
    | gains h => exact .gains h
    | blank hblank =>
      refine .blank ?_
      cases hblank with
      | dir _ h => exact .dir _ h
      | file hnone =>
        rw [← startName_of_locate h.wellFormed_create hp' hn'] at hnone
        exact .file hnone

end Harmless

end RouteDoc.Disk
