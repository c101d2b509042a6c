import Mathlib.Data.List.Infix
import Mathlib.Data.Prod.Lex
import Mathlib.Data.String.Basic
import RouteDoc.Proofs.Project.Agreement
import RouteDoc.Proofs.Route.Registrations
import RouteDoc.Proofs.Text

/-! Order and selection in an inventory. Services are selected before their files are read; selecting
routes from the inventory of all services gives the same, since every route keeps the name of its
service and a stable sort commutes with taking a part of a list. -/
namespace RouteDoc

section StableSort
variable {α κ : Type} [LinearOrder κ] {key : α → κ}

private theorem mem_iff_of_filter_eq {l l' : List α}
    (heq : ∀ k, (l.filter fun a => key a = k) = l'.filter fun a => key a = k) (a : α) :
    a ∈ l ↔ a ∈ l' := by
  have ha : a ∈ (l.filter fun b => key b = key a) ↔ a ∈ l'.filter fun b => key b = key a := by
    rw [heq]
  simpa using ha

/-- A list in the order of its keys is fixed by its sublists of equal keys. -/
theorem eq_of_pairwise_of_filter_eq {l l' : List α} (h : l.Pairwise fun a b => key a ≤ key b)
    (h' : l'.Pairwise fun a b => key a ≤ key b)
    (heq : ∀ k, (l.filter fun a => key a = k) = l'.filter fun a => key a = k) : l = l' := by
  have hmem := mem_iff_of_filter_eq heq
  induction l generalizing l' with
  | nil =>
    cases l' with
    | nil => rfl
    | cons b l' => exact absurd ((hmem b).mpr List.mem_cons_self) List.not_mem_nil
  | cons a l ih =>
    cases l' with
    | nil => exact absurd ((hmem a).mp List.mem_cons_self) List.not_mem_nil
    | cons b l' =>
      obtain ⟨hal, hl⟩ := List.pairwise_cons.mp h
      obtain ⟨hbl, hl'⟩ := List.pairwise_cons.mp h'
      -- each first element occurs in the other list, so both keys are the least
      have hab : key a ≤ key b := by
        rcases List.mem_cons.mp ((hmem b).mpr List.mem_cons_self) with rfl | hb
        · exact le_refl _
        · exact hal b hb
      have hba : key b ≤ key a := by
        rcases List.mem_cons.mp ((hmem a).mp List.mem_cons_self) with rfl | ha
        · exact le_refl _
        · exact hbl a ha
      have hkey : key b = key a := le_antisymm hba hab
      have hfirst := heq (key a)
      rw [List.filter_cons_of_pos (by simp), List.filter_cons_of_pos (by simpa using hkey)] at hfirst
      obtain ⟨rfl, -⟩ := List.cons.inj hfirst
      have htail : ∀ k, (l.filter fun c => key c = k) = l'.filter fun c => key c = k := by
        intro k
        have hk := heq k
        by_cases ha : key a = k
        · rw [List.filter_cons_of_pos (by simpa using ha),
            List.filter_cons_of_pos (by simpa using ha)] at hk
          exact (List.cons.inj hk).2
        · rwa [List.filter_cons_of_neg (by simpa using ha),
            List.filter_cons_of_neg (by simpa using ha)] at hk
      rw [ih hl hl' htail (mem_iff_of_filter_eq htail)]

/-- Sorts by a key; elements with the same key stay in order. -/
def sortBy (key : α → κ) (l : List α) : List α := l.mergeSort fun a b => decide (key a ≤ key b)

private theorem decide_key_trans (a b c : α) (hab : decide (key a ≤ key b) = true)
    (hbc : decide (key b ≤ key c) = true) : decide (key a ≤ key c) = true := by
  rw [decide_eq_true_eq] at hab hbc ⊢
  exact le_trans hab hbc

private theorem decide_key_total (a b : α) :
    (decide (key a ≤ key b) || decide (key b ≤ key a)) = true := by
  simpa using le_total (key a) (key b)

theorem sortBy_perm (l : List α) : (sortBy key l).Perm l := List.mergeSort_perm _ _

theorem pairwise_sortBy (l : List α) : (sortBy key l).Pairwise fun a b => key a ≤ key b := by
  unfold sortBy
  simpa using List.pairwise_mergeSort decide_key_trans decide_key_total l

theorem filter_key_sortBy (l : List α) (k : κ) :
    ((sortBy key l).filter fun a => key a = k) = l.filter fun a => key a = k := by
  have hsorted : (l.filter fun a => key a = k).Pairwise fun a b =>
      decide (key a ≤ key b) = true := by
    refine List.pairwise_of_forall_mem_list ?_
    intro a ha b hb
    have hka : key a = k := by simpa using List.of_mem_filter ha
    have hkb : key b = k := by simpa using List.of_mem_filter hb
    rw [hka, hkb]
    simp
  have hsub : (l.filter fun a => key a = k).Sublist (sortBy key l) :=
    List.sublist_mergeSort decide_key_trans decide_key_total hsorted List.filter_sublist
  -- nothing with the key is left over, since sorting loses and repeats nothing
  have hin := hsub.filter fun a => key a = k
  rw [List.filter_filter] at hin
  simp only [Bool.and_self] at hin
  exact (hin.eq_of_length ((sortBy_perm l).filter _).length_eq.symm).symm

/-- Sorting commutes with taking a part of a list. -/
theorem filter_sortBy (p : α → Bool) (l : List α) :
    (sortBy key l).filter p = sortBy key (l.filter p) := by
  refine eq_of_pairwise_of_filter_eq ((pairwise_sortBy l).filter p) (pairwise_sortBy _) ?_
  intro k
  calc ((sortBy key l).filter p).filter (fun a => key a = k)
      = ((sortBy key l).filter fun a => key a = k).filter p := List.filter_comm _ _ _
    _ = (l.filter fun a => key a = k).filter p := by rw [filter_key_sortBy]
    _ = (l.filter p).filter fun a => key a = k := List.filter_comm _ _ _
    _ = (sortBy key (l.filter p)).filter fun a => key a = k := (filter_key_sortBy _ k).symm

end StableSort

/-- What an inventory is sorted by: the service, then the path. -/
def Route.key (r : Route) : String ×ₗ String := toLex (r.microservice, r.path)

theorem Go.File.microservice_of_mem_routes {f : File} {microservice : String} {r : Route}
    (h : r ∈ f.routes microservice) : r.microservice = microservice := by
  obtain ⟨before, n, after, registration, -, -, rfl⟩ := exists_registers_of_mem_routes h
  rfl

/-- A name is selected by filters, of which there are some, if it contains one. -/
theorem Disk.isSelected_cons_iff {f name : String} {filters : List String} :
    isSelected (f :: filters) name = true ↔ ∃ t ∈ f :: filters, t.toList <:+: name.toList := by
  simp only [isSelected, List.isEmpty_cons, Bool.false_or, List.any_eq_true, Text.contains_iff_infix]

namespace Project
variable (p : Project)

theorem inventory_eq_sortBy (filters : List String) :
    p.inventory filters = sortBy Route.key (p.scanned filters) := by
  have hle : precedes = fun a b : Route => decide (a.key ≤ b.key) := by
    funext a b
    apply Bool.eq_iff_iff.mpr
    simp only [precedes, Route.key, Prod.Lex.toLex_le_toLex, Bool.or_eq_true, Bool.and_eq_true,
      decide_eq_true_eq, beq_iff_eq, Bool.not_eq_true', decide_eq_false_iff_not, not_lt]
  unfold inventory sortBy
  rw [hle]

theorem microservice_of_mem_serviceRoutes {s : Disk.Service} {r : Route}
    (h : r ∈ (p.serviceRoutes s).flatMap (·.2)) : r.microservice = s.name := by
  obtain ⟨found, hfound, hr⟩ := List.mem_flatMap.mp h
  obtain ⟨file, -, rfl⟩ := List.mem_map.mp hfound
  exact Go.File.microservice_of_mem_routes hr

theorem services_eq_filter (filters : List String) :
    p.services filters = (p.services []).filter fun s => Disk.isSelected filters s.name := by
  have hall : ∀ name, Disk.isSelected [] name = true := fun name => rfl
  unfold services Disk.services
  simp only [hall, Bool.and_true, List.filter_map, List.filter_filter]
  congr 1
  apply List.filter_congr
  intro entry _
  exact Bool.and_comm _ _

/-- Selecting services before they are scanned selects routes by the names of their services. -/
theorem scanned_eq_filter (filters : List String) :
    p.scanned filters = (p.scanned []).filter fun r => Disk.isSelected filters r.microservice := by
  unfold scanned foundRoutes
  rw [p.services_eq_filter filters, List.flatMap_assoc, List.flatMap_assoc, flatMap_filter,
    List.filter_flatMap]
  refine List.flatMap_congr fun s _ => ?_
  have hname : ∀ r ∈ (p.serviceRoutes s).flatMap (·.2),
      Disk.isSelected filters r.microservice = Disk.isSelected filters s.name := by
    intro r hr
    rw [p.microservice_of_mem_serviceRoutes hr]
  rw [List.filter_congr hname]
  cases Disk.isSelected filters s.name <;> simp

/-- With any parser an inventory lists every route found once, by service and path, and routes that
agree in both in the order in which they are found. Filters, if there are any, keep of the inventory of
all services the routes of those whose name contains one of them. -/
theorem inventory_sorted_selected :
    (∀ filters, (p.inventory filters).Perm (p.scanned filters) ∧
      (p.inventory filters).Pairwise (fun a b => a.key ≤ b.key) ∧
      ∀ k, ((p.inventory filters).filter fun r => r.key = k) =
        (p.scanned filters).filter fun r => r.key = k) ∧
    ∀ f filters, p.inventory (f :: filters) =
      (p.inventory []).filter fun r => ∃ t ∈ f :: filters, t.toList <:+: r.microservice.toList := by
  constructor
  · intro filters
    rw [inventory_eq_sortBy]
    exact ⟨sortBy_perm _, pairwise_sortBy _, filter_key_sortBy _⟩
  · intro f filters
    rw [inventory_eq_sortBy, inventory_eq_sortBy, filter_sortBy, p.scanned_eq_filter (f :: filters)]
    congr 1
    apply List.filter_congr
    intro r _
    rw [Bool.eq_iff_iff, Disk.isSelected_cons_iff, decide_eq_true_eq]

end Project

end RouteDoc
