import RouteDoc.Disk.Tree
import RouteDoc.Proofs.KeyMap

/-! Places in directory trees, and what stands at them after a node was put somewhere. -/
namespace RouteDoc.Disk

/-- A name that an entry of a directory may have. -/
structure IsFileName (name : String) : Prop where
  ne_empty : name ≠ ""
  ne_dot : name ≠ "."
  ne_dots : name ≠ ".."
  no_slash : '/' ∉ name.toList

theorem isFileName_iff {name : String} :
    (name ≠ "" ∧ name ≠ "." ∧ name ≠ ".." ∧ '/' ∉ name.toList) ↔ IsFileName name :=
  ⟨fun h => ⟨h.1, h.2.1, h.2.2.1, h.2.2.2⟩, fun h => ⟨h.ne_empty, h.ne_dot, h.ne_dots, h.no_slash⟩⟩

instance (name : String) : Decidable (IsFileName name) := decidable_of_iff _ isFileName_iff

namespace Node

/-- Every directory lists its entries in the order of their names, and has no other names than files
may have. -/
inductive WellFormed : Node → Prop where
  | file (text : Option String) : WellFormed (.file text)
  | dir {entries : List (String × Node)} (sorted : SortedEntries entries)
      (names : ∀ e ∈ entries, IsFileName e.1)
      (nodes : ∀ e ∈ entries, WellFormed e.2) : WellFormed (.dir entries)

/-- Nothing stands at a place, and no file is on the way to it. -/
inductive Free : Node → List String → Prop where
  | new {entries : List (String × Node)} {name : String} (names : List String)
      (h : entries.lookup name = none) : Free (.dir entries) (name :: names)
  | inside {entries : List (String × Node)} {name : String} {n : Node} {names : List String}
      (h : entries.lookup name = some n) (hfree : Free n names) :
      Free (.dir entries) (name :: names)

theorem Free.ne_nil {n : Node} {place : List String} (h : n.Free place) : place ≠ [] := by
  cases h <;> exact List.cons_ne_nil _ _

theorem wellFormed_empty : (Node.dir []).WellFormed :=
  .dir List.Pairwise.nil (fun e he => by cases he) fun e he => by cases he

/-- The entries of a directory may be given in any order. -/
theorem WellFormed.ofList {l : List (String × Node)} (names : ∀ e ∈ l, IsFileName e.1)
    (nodes : ∀ e ∈ l, e.2.WellFormed) : (Node.ofList l).WellFormed :=
  .dir (KeyMap.ofList l).sorted (fun e he => names e (KeyMap.mem_of_mem_ofList he))
    fun e he => nodes e (KeyMap.mem_of_mem_ofList he)

theorem WellFormed.lookup {entries : List (String × Node)} (h : (Node.dir entries).WellFormed)
    {name : String} {n : Node} (hn : entries.lookup name = some n) : IsFileName name ∧ n.WellFormed := by
  cases h with
  | dir _ names nodes => exact ⟨names _ (mem_of_lookup hn), nodes _ (mem_of_lookup hn)⟩

theorem WellFormed.at? {n m : Node} (h : n.WellFormed) {place : List String}
    (hm : n.at? place = some m) : m.WellFormed := by
  induction place generalizing n with
  | nil =>
    cases hm
    exact h
  | cons name names ih =>
    cases n with
    | file text => cases hm
    | dir entries =>
      obtain ⟨child, hchild, hm⟩ := Option.bind_eq_some_iff.mp hm
      exact ih (h.lookup hchild).2 hm

theorem WellFormed.insert {entries : List (String × Node)} (h : (Node.dir entries).WellFormed)
    {name : String} (hname : IsFileName name) {n : Node} (hn : n.WellFormed) :
    (Node.dir (insertEntry name n entries)).WellFormed := by
  cases h with
  | dir sorted names nodes =>
    refine .dir (sorted.insert name n) ?_ ?_
    · intro e he
      rcases mem_of_mem_insertEntry he with rfl | he
      · exact hname
      · exact names e he
    · intro e he
      rcases mem_of_mem_insertEntry he with rfl | he
      · exact hn
      · exact nodes e he

/-- What a directory holds under a name, or else an empty directory. -/
theorem WellFormed.getD {entries : List (String × Node)} (h : (Node.dir entries).WellFormed)
    (name : String) : ((entries.lookup name).getD (.dir [])).WellFormed := by
  cases hn : entries.lookup name with
  | none => exact wellFormed_empty
  | some n => exact (h.lookup hn).2

theorem WellFormed.put {n m : Node} (h : n.WellFormed) {place : List String}
    (hplace : ∀ name ∈ place, IsFileName name) (hm : m.WellFormed) : (n.put place m).WellFormed := by
  induction place generalizing n with
  | nil =>
    cases n <;> exact hm
  | cons name names ih =>
    have hname := hplace name List.mem_cons_self
    have hrest := fun n (hn : n.WellFormed) =>
      ih (n := n) hn fun k hk => hplace k (List.mem_cons_of_mem _ hk)
    cases n with
    | file text => exact wellFormed_empty.insert hname (hrest _ wellFormed_empty)
    | dir entries => exact h.insert hname (hrest _ (h.getD name))

theorem at?_dir_cons (entries : List (String × Node)) (name : String) (names : List String) :
    (Node.dir entries).at? (name :: names) = (entries.lookup name).bind (at? names) := rfl

theorem put_dir_cons (entries : List (String × Node)) (name : String) (names : List String)
    (m : Node) :
    (Node.dir entries).put (name :: names) m =
      .dir (insertEntry name (((entries.lookup name).getD (.dir [])).put names m) entries) := rfl

theorem at?_append (n : Node) (p q : List String) : n.at? (p ++ q) = (n.at? p).bind (at? q) := by
  induction p generalizing n with
  | nil => rfl
  | cons name names ih =>
    cases n with
    | file text => rfl
    | dir entries =>
      rw [List.cons_append, at?_dir_cons, at?_dir_cons, Option.bind_assoc]
      exact congrArg _ (funext ih)

theorem at?_concat_of_dir {n : Node} {place : List String} {entries : List (String × Node)}
    (h : n.at? place = some (.dir entries)) (name : String) :
    n.at? (place ++ [name]) = entries.lookup name := by
  rw [at?_append, h, Option.bind_some, at?_dir_cons]
  cases entries.lookup name <;> rfl

/-- On the way to the new node there are directories. -/
theorem at?_put_of_prefix (n m : Node) (p rest : List String) :
    (n.put (p ++ rest) m).at? p = some (((n.at? p).getD (.dir [])).put rest m) := by
  induction p generalizing n with
  | nil => rfl
  | cons name names ih =>
    have hempty : ∀ names : List String, ((Node.dir []).at? names).getD (.dir []) = .dir [] := by
      intro names
      cases names <;> rfl
    cases n with
    | file text =>
      have hput : ((Node.file text).put (name :: (names ++ rest)) m).at? (name :: names) =
          ((Node.dir []).put (names ++ rest) m).at? names := by
        change (List.lookup name [(name, _)]).bind _ = _
        simp
      rw [List.cons_append, hput, ih, hempty]
      rfl
    | dir entries =>
      have hput : ((Node.dir entries).put (name :: (names ++ rest)) m).at? (name :: names) =
          (((entries.lookup name).getD (.dir [])).put (names ++ rest) m).at? names := by
        rw [put_dir_cons, at?_dir_cons, lookup_insertEntry, if_pos rfl, Option.bind_some]
      rw [List.cons_append, hput, ih, at?_dir_cons]
      cases entries.lookup name with
      | none => rw [Option.getD_none, hempty, Option.bind_none, Option.getD_none]
      | some child => rfl

/-- Away from the new file nothing changes. -/
theorem at?_put_of_not_prefix {n : Node} {place : List String} (hfree : n.Free place)
    (text : Option String) {q : List String} (hq : ¬ q <+: place) :
    (n.put place (.file text)).at? q = n.at? q := by
  induction place generalizing n q with
  | nil => exact absurd rfl hfree.ne_nil
  | cons name names ih =>
    cases q with
    | nil => exact absurd List.nil_prefix hq
    | cons name' names' =>
      cases n with
      | file _ => cases hfree
      | dir entries =>
        rw [put_dir_cons, at?_dir_cons, at?_dir_cons, lookup_insertEntry]
        by_cases hname : name' = name
        · subst hname
          have hrest : ¬ names' <+: names := fun h => hq ((List.prefix_cons_inj name').mpr h)
          rw [if_pos rfl, Option.bind_some]
          cases hfree with
          | new _ hnone =>
            rw [hnone, Option.getD_none, Option.bind_none]
            -- there was nothing, and the new directories hold nothing beside the way
            cases names with
            | nil =>
              cases names' with
              | nil => exact absurd List.nil_prefix hrest
              | cons _ _ => rfl
            | cons k ks =>
              rw [ih (.new ks rfl) hrest]
              cases names' with
              | nil => exact absurd List.nil_prefix hrest
              | cons _ _ => rfl
          | inside hsome hinside =>
            rw [hsome, Option.getD_some, Option.bind_some]
            exact ih hinside hrest
        · rw [if_neg hname]

end Node

end RouteDoc.Disk
