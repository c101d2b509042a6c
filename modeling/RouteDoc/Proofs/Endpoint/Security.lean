import Mathlib.Data.List.Nodup
import RouteDoc.Endpoint.Security
import RouteDoc.Proofs.Text

/-! What a chain of middleware demands of callers. It depends on the set of the entries alone: a check of
authentication, none of its absence, and the scopes in them, each taken up once. -/
namespace RouteDoc

/-- The elements of a list without repetition, in the order of their first occurrence. -/
structure Firsts (all firsts : List String) : Prop where
  nodup : firsts.Nodup
  mem_iff : ∀ s, s ∈ firsts ↔ s ∈ all
  ordered : firsts.Pairwise fun a b => all.idxOf a < all.idxOf b

theorem Firsts.addNew {all firsts : List String} (h : Firsts all firsts) (s : String) :
    Firsts (all ++ [s]) (addNew firsts s) := by
  -- what was there keeps its place
  have hold : firsts.Pairwise fun a b => (all ++ [s]).idxOf a < (all ++ [s]).idxOf b := by
    refine h.ordered.imp_of_mem fun {a b} ha hb hlt => ?_
    rwa [List.idxOf_append_of_mem ((h.mem_iff a).mp ha),
      List.idxOf_append_of_mem ((h.mem_iff b).mp hb)]
  unfold RouteDoc.addNew
  by_cases hs : s ∈ firsts
  · rw [if_pos (List.contains_iff_mem.mpr hs)]
    refine ⟨h.nodup, fun k => ?_, hold⟩
    have hall := (h.mem_iff s).mp hs
    rw [h.mem_iff, List.mem_append, List.mem_singleton]
    exact ⟨.inl, fun hk => hk.elim id fun hk => hk ▸ hall⟩
  · rw [if_neg (mt List.contains_iff_mem.mp hs)]
    refine ⟨?_, fun k => ?_, ?_⟩
    · refine List.nodup_append.mpr ⟨h.nodup, List.nodup_singleton s, ?_⟩
      intro a ha b hb heq
      rw [List.mem_singleton.mp hb] at heq
      exact hs (heq ▸ ha)
    · rw [List.mem_append, List.mem_append, h.mem_iff]
    · refine List.pairwise_append.mpr ⟨hold, List.pairwise_singleton _ _, ?_⟩
      intro a ha b hb
      have hall : a ∈ all := (h.mem_iff a).mp ha
      have hnot : s ∉ all := mt (h.mem_iff s).mpr hs
      rw [List.mem_singleton.mp hb, List.idxOf_append_of_mem hall,
        List.idxOf_append_of_notMem hnot]
      exact Nat.lt_add_right _ (List.idxOf_lt_length_of_mem hall)

theorem Firsts.addAll {all firsts : List String} (h : Firsts all firsts) (new : List String) :
    Firsts (all ++ new) (new.foldl RouteDoc.addNew firsts) := by
  induction new generalizing all firsts with
  | nil => rwa [List.append_nil]
  | cons s new ih =>
    have hstep := ih (h.addNew s)
    rwa [List.append_assoc, List.singleton_append] at hstep

theorem firsts_nil : Firsts [] [] :=
  ⟨List.nodup_nil, fun _ => Iff.rfl, List.Pairwise.nil⟩

namespace Middleware

/-- Some middleware of the chain has the word in its text. -/
def Mentions (chain : List String) (word : String) : Prop := ∃ m ∈ chain, word.toList <:+: m.toList

/-- The chain checks that callers are authenticated, and nowhere that they are not. -/
def Authenticates (chain : List String) : Prop :=
  Mentions chain "Authenticated" ∧ ¬Mentions chain "NotAuthenticated"

/-- Some middleware of the chain asks for the scope. -/
def Demands (chain : List String) (scope : String) : Prop := ∃ m ∈ chain, scope ∈ permissions m

variable {chain chain' : List String}

theorem any_contains_iff {word : String} :
    (chain.any fun m => Text.contains m.toList word.toList) = true ↔ Mentions chain word := by
  simp only [List.any_eq_true, Text.contains_iff_infix, Mentions]

theorem not_authenticates_iff :
    ((chain.any fun m => Text.contains m.toList "NotAuthenticated".toList) ||
      !chain.any fun m => Text.contains m.toList "Authenticated".toList) = true ↔
      ¬Authenticates chain := by
  rw [Bool.or_eq_true, Bool.not_eq_true', ← Bool.not_eq_true, any_contains_iff, any_contains_iff]
  unfold Authenticates
  rw [not_and_or, not_not, or_comm]

theorem mem_flatMap_permissions {scope : String} :
    scope ∈ chain.flatMap permissions ↔ Demands chain scope := List.mem_flatMap

theorem mentions_congr (h : ∀ m, m ∈ chain ↔ m ∈ chain') {word : String} :
    Mentions chain word ↔ Mentions chain' word :=
  exists_congr fun m => and_congr_left fun _ => h m

theorem authenticates_congr (h : ∀ m, m ∈ chain ↔ m ∈ chain') :
    Authenticates chain ↔ Authenticates chain' :=
  and_congr (mentions_congr h) (not_congr (mentions_congr h))

theorem demands_congr (h : ∀ m, m ∈ chain ↔ m ∈ chain') {scope : String} :
    Demands chain scope ↔ Demands chain' scope :=
  exists_congr fun m => and_congr_left fun _ => h m

end Middleware

open Middleware

/-- An argument without blanks and quotes around it. -/
def bare (arg : List Char) : List Char :=
  (Go.between? '"' (Text.trim arg) <|> Go.between? '\'' (Text.trim arg)).getD (Text.trim arg)

theorem permission?_eq (arg : List Char) :
    permission? arg =
      if bare arg = [] then none
      else some ((permissionNames.lookup (String.ofList (bare arg))).getD
        (String.ofList (bare arg))) := rfl

/-- A scope is an argument as it stands, or what a name stands for. -/
theorem permission?_eq_some {arg : List Char} {scope : String} (h : permission? arg = some scope) :
    bare arg ≠ [] ∧
      (scope = String.ofList (bare arg) ∨ ∃ e ∈ permissionNames, e.2 = scope) := by
  rw [permission?_eq] at h
  split_ifs at h with hnil
  have hscope := Option.some.inj h
  refine ⟨hnil, ?_⟩
  cases hlookup : permissionNames.lookup (String.ofList (bare arg)) with
  | none =>
    rw [hlookup, Option.getD_none] at hscope
    exact .inl hscope.symm
  | some value =>
    rw [hlookup, Option.getD_some] at hscope
    obtain ⟨before, after, hnames, -⟩ := List.lookup_eq_some_iff.mp hlookup
    exact .inr ⟨(String.ofList (bare arg), value), by rw [hnames]; simp, hscope⟩

theorem permission?_ne_empty {arg : List Char} {scope : String} (h : permission? arg = some scope) :
    scope ≠ "" := by
  have hnames : ∀ e ∈ permissionNames, e.2 ≠ "" := by decide
  obtain ⟨hnil, rfl | ⟨e, he, rfl⟩⟩ := permission?_eq_some h
  · intro hempty
    apply hnil
    rw [← String.toList_ofList (l := bare arg), hempty, String.toList_empty]
  · exact hnames e he

theorem empty_notMem_permissions (middleware : String) : "" ∉ permissions middleware := by
  intro hmem
  obtain ⟨⟨call, several⟩, -, hmem⟩ := List.mem_flatMap.mp hmem
  change "" ∈ callPermissions middleware.toList call.toList several at hmem
  unfold callPermissions at hmem
  split at hmem
  · cases hmem
  · obtain ⟨arg, -, harg⟩ := List.mem_filterMap.mp hmem
    exact permission?_ne_empty harg rfl

/-- All that a chain can give: nothing where it does not authenticate, and else the scopes that it
demands, under the scheme that their presence tells. -/
theorem security_cases (chain : List String) :
    ¬Authenticates chain ∧ security chain = [] ∨
    (Authenticates chain ∧ ¬∃ s, Demands chain s) ∧ security chain = [⟨bearerScheme, []⟩] ∨
    (Authenticates chain ∧ ∃ s, Demands chain s) ∧
      ∃ scopes, Firsts (chain.flatMap permissions) scopes ∧
        security chain = [⟨permissionsScheme, scopes⟩] := by
  have hfirsts : Firsts (chain.flatMap permissions) ((chain.flatMap permissions).foldl addNew []) :=
    firsts_nil.addAll (chain.flatMap permissions)
  simp only [security]
  split_ifs with hopen hnone
  · exact .inl ⟨not_authenticates_iff.mp hopen, rfl⟩
  · have hauth := not_not.mp (mt not_authenticates_iff.mpr hopen)
    refine .inr (.inl ⟨⟨hauth, ?_⟩, rfl⟩)
    rintro ⟨s, hs⟩
    have hmem := (hfirsts.mem_iff s).mpr (mem_flatMap_permissions.mpr hs)
    rw [List.isEmpty_iff.mp hnone] at hmem
    cases hmem
  · have hauth := not_not.mp (mt not_authenticates_iff.mpr hopen)
    refine .inr (.inr ⟨⟨hauth, ?_⟩, _, hfirsts, rfl⟩)
    obtain ⟨s, hs⟩ := List.exists_mem_of_ne_nil _ (mt List.isEmpty_iff.mpr hnone)
    exact ⟨s, mem_flatMap_permissions.mp ((hfirsts.mem_iff s).mp hs)⟩

section
variable {chain : List String}

/-- The bearer scheme without scopes, or the permissions scheme with some. -/
theorem mem_security {r : Requirement} (h : r ∈ security chain) :
    r = ⟨bearerScheme, []⟩ ∨ r.name = permissionsScheme ∧ r.scopes ≠ [] := by
  rcases security_cases chain with ⟨-, heq⟩ | ⟨-, heq⟩ | ⟨⟨-, s, hs⟩, scopes, hfirsts, heq⟩
  · rw [heq] at h
    cases h
  · rw [heq] at h
    exact .inl (List.mem_singleton.mp h)
  · rw [heq] at h
    rw [List.mem_singleton.mp h]
    have hmem := (hfirsts.mem_iff s).mpr (mem_flatMap_permissions.mpr hs)
    exact .inr ⟨rfl, List.ne_nil_of_mem hmem⟩

theorem security_eq_nil_iff : security chain = [] ↔ ¬Authenticates chain := by
  rcases security_cases chain with ⟨hcase, heq⟩ | ⟨hcase, heq⟩ | ⟨hcase, scopes, -, heq⟩
  · simp [heq, hcase]
  · simp [heq, hcase.1]
  · simp [heq, hcase.1]

theorem security_eq_bearer_iff :
    security chain = [⟨bearerScheme, []⟩] ↔ Authenticates chain ∧ ¬∃ s, Demands chain s := by
  have hne : permissionsScheme ≠ bearerScheme := by decide
  rcases security_cases chain with ⟨hcase, heq⟩ | ⟨hcase, heq⟩ | ⟨hcase, scopes, -, heq⟩
  · simp [heq, hcase]
  · exact ⟨fun _ => hcase, fun _ => heq⟩
  · simp [heq, hcase.2, hne]

theorem exists_security_eq_permissions_iff :
    (∃ scopes, security chain = [⟨permissionsScheme, scopes⟩]) ↔
      Authenticates chain ∧ ∃ s, Demands chain s := by
  have hne : bearerScheme ≠ permissionsScheme := by decide
  rcases security_cases chain with ⟨hcase, heq⟩ | ⟨hcase, heq⟩ | ⟨hcase, scopes, -, heq⟩
  · simp [heq, hcase]
  · simp [heq, hcase.2, hne]
  · exact ⟨fun _ => hcase, fun _ => ⟨scopes, heq⟩⟩

theorem firsts_of_security_eq {scopes : List String}
    (h : security chain = [⟨permissionsScheme, scopes⟩]) :
    Firsts (chain.flatMap permissions) scopes := by
  have hne : bearerScheme ≠ permissionsScheme := by decide
  rcases security_cases chain with ⟨-, heq⟩ | ⟨-, heq⟩ | ⟨-, scopes', hfirsts, heq⟩
  · simp [heq] at h
  · simp [heq, hne] at h
  · have hscopes : scopes' = scopes := by simpa [heq] using h
    exact hscopes ▸ hfirsts

end

/-- The same scheme with the same scopes, in whatever order. -/
def Requirement.Alike (r r' : Requirement) : Prop :=
  r.name = r'.name ∧ ∀ s, s ∈ r.scopes ↔ s ∈ r'.scopes

theorem security_alike {chain chain' : List String} (h : ∀ m, m ∈ chain ↔ m ∈ chain') :
    List.Forall₂ Requirement.Alike (security chain) (security chain') := by
  have hauth := authenticates_congr h
  have hdemands : (∃ s, Demands chain s) ↔ ∃ s, Demands chain' s :=
    exists_congr fun s => demands_congr h
  rcases security_cases chain with ⟨hcase, heq⟩ | ⟨hcase, heq⟩ | ⟨hcase, scopes, hfirsts, heq⟩
  · have heq' := security_eq_nil_iff.mpr (mt hauth.mpr hcase)
    rw [heq, heq']
    exact .nil
  · have heq' := security_eq_bearer_iff.mpr ⟨hauth.mp hcase.1, mt hdemands.mpr hcase.2⟩
    rw [heq, heq']
    exact .cons ⟨rfl, fun _ => Iff.rfl⟩ .nil
  · obtain ⟨scopes', heq'⟩ :=
      exists_security_eq_permissions_iff.mpr ⟨hauth.mp hcase.1, hdemands.mp hcase.2⟩
    have hfirsts' := firsts_of_security_eq heq'
    rw [heq, heq']
    refine .cons ⟨rfl, fun s => ?_⟩ .nil
    rw [hfirsts.mem_iff, hfirsts'.mem_iff, mem_flatMap_permissions, mem_flatMap_permissions]
    exact demands_congr h

theorem scopes_of_mem_security {chain : List String} {r : Requirement} (h : r ∈ security chain) :
    r.scopes.Nodup ∧ "" ∉ r.scopes ∧
      (r.name = permissionsScheme → ∀ s, s ∈ r.scopes ↔ Demands chain s) := by
  have hne : bearerScheme ≠ permissionsScheme := by decide
  rcases security_cases chain with ⟨-, heq⟩ | ⟨-, heq⟩ | ⟨-, scopes, hfirsts, heq⟩
  · rw [heq] at h
    cases h
  · rw [heq] at h
    rw [List.mem_singleton.mp h]
    exact ⟨List.nodup_nil, List.not_mem_nil, fun hname => absurd hname hne⟩
  · rw [heq] at h
    rw [List.mem_singleton.mp h]
    refine ⟨hfirsts.nodup, ?_, fun _ s => (hfirsts.mem_iff s).trans mem_flatMap_permissions⟩
    intro hempty
    obtain ⟨m, -, hm⟩ := List.mem_flatMap.mp ((hfirsts.mem_iff "").mp hempty)
    exact empty_notMem_permissions m hm

/-- What a chain of middleware requires depends on the set of its entries alone. Callers need a
permission exactly where the chain authenticates and demands a scope, and only a token where it
demands none; one entry that asks for callers without authentication opens the endpoint to all. -/
theorem security_depends_on_entries :
    (∀ chain chain' : List String, (∀ m, m ∈ chain ↔ m ∈ chain') →
      List.Forall₂ Requirement.Alike (security chain) (security chain')) ∧
    (∀ chain : List String,
      (∀ r ∈ security chain, r.scopes.Nodup ∧ "" ∉ r.scopes ∧
        (r.name = permissionsScheme → ∀ s, s ∈ r.scopes ↔ Demands chain s)) ∧
      ((∃ scopes, security chain = [⟨permissionsScheme, scopes⟩]) ↔
        Authenticates chain ∧ ∃ s, Demands chain s) ∧
      (security chain = [⟨bearerScheme, []⟩] ↔ Authenticates chain ∧ ¬∃ s, Demands chain s) ∧
      (security chain = [] ↔ ¬Authenticates chain)) ∧
    (∀ (before after : List String) (m : String), "NotAuthenticated".toList <:+: m.toList →
      security (before ++ m :: after) = []) := by
  refine ⟨fun _ _ => security_alike, fun chain => ⟨fun _ => scopes_of_mem_security,
    exists_security_eq_permissions_iff, security_eq_bearer_iff, security_eq_nil_iff⟩, ?_⟩
  intro before after m hm
  have hmem : m ∈ before ++ m :: after := List.mem_append_right _ List.mem_cons_self
  exact security_eq_nil_iff.mpr fun hauth => hauth.2 ⟨m, hmem, hm⟩

end RouteDoc
