import Mathlib.Data.List.Nodup
import RouteDoc.Proofs.Schema.Growth

/-! Where every name has at most one model, the table holds exactly the models that the requested
types reach, so it depends neither on the order of the requests nor on that of the files. -/
namespace RouteDoc
open Disk Go Relation

namespace ModelIndex
variable {index index' : ModelIndex}

/-- No two models have the same name. -/
def Unique (index : ModelIndex) : Prop := (index.models.map Model.name).Nodup

instance : Decidable index.Unique := inferInstanceAs (Decidable (List.Nodup _))

theorem Unique.eq_of_mem_named (h : index.Unique) {name : String} {m m' : Model}
    (hm : m ∈ index.named name) (hm' : m' ∈ index.named name) : m = m' := by
  obtain ⟨hmem, hname⟩ := mem_named.mp hm
  obtain ⟨hmem', hname'⟩ := mem_named.mp hm'
  exact List.inj_on_of_nodup_map h hmem hmem' (hname.trans hname'.symm)

/-- A type reaches a model by a name it asks for, and by the names that models on the way ask for. -/
def Reaches (index : ModelIndex) (type : TypeExpr) (name : String) : Prop :=
  index.contains name = true ∧ ∃ a, type.Asks a ∧ ReflTransGen index.Leads a name

/-- The models asked for are there, and an entry brings along what its model asks for. -/
private theorem Grows.contains_of_path {A : String → Prop} {t : SchemaTable} (unique : index.Unique)
    (h : index.Grows A {} t) {a name : String} (ha : A a) (hpath : ReflTransGen index.Leads a name)
    (hc : index.contains name = true) : t.contains name = true := by
  induction hpath with
  | refl => exact h.contains_of_idle rfl ha hc
  | @tail b name _ hstep ih =>
    obtain ⟨m, hm, hasks⟩ := hstep
    obtain ⟨s, hs⟩ := (t.contains_iff_exists b).mp (ih (contains_iff.mpr ⟨m, hm⟩))
    obtain ⟨m', hm', -, hknown⟩ := h.sound.entry b s hs
    rw [unique.eq_of_mem_named hm hm'] at hasks
    rcases hknown name hasks hc with hk | hk
    · exact hk
    · rw [h.inProgress] at hk
      cases hk

theorem Grows.contains_iff_path {A : String → Prop} {t : SchemaTable} (unique : index.Unique)
    (h : index.Grows A {} t) {name : String} :
    t.contains name = true ↔
      index.contains name = true ∧ ∃ a, A a ∧ ReflTransGen index.Leads a name := by
  constructor
  · intro hn
    refine ⟨h.sound.contains hn, ?_⟩
    rcases h.new name hn with hempty | hpath
    · cases hempty
    · exact hpath
  · rintro ⟨hc, a, ha, hpath⟩
    exact h.contains_of_path unique ha hpath hc

section
variable (hm : ∀ m, m ∈ index'.models ↔ m ∈ index.models)
include hm

private theorem mem_named_congr {name : String} {m : Model} :
    m ∈ index'.named name ↔ m ∈ index.named name := by
  rw [mem_named, mem_named, hm]

private theorem contains_congr (name : String) : index'.contains name = index.contains name := by
  rw [Bool.eq_iff_iff, contains_iff, contains_iff]
  simp only [mem_named_congr hm]

private theorem leads_congr : index'.Leads = index.Leads := by
  funext a b
  simp only [Leads, mem_named_congr hm]

private theorem nameSchema_congr : index'.nameSchema = index.nameSchema := by
  funext name
  simp only [nameSchema, contains_congr hm]

/-- The same models and the same names asked for give the same entries. -/
theorem Grows.toKeyMap_eq {A : String → Prop} {t t' : SchemaTable} (unique : index.Unique)
    (unique' : index'.Unique) (h : index.Grows A {} t) (h' : index'.Grows A {} t') :
    t'.toKeyMap = t.toKeyMap := by
  have hcontains : ∀ k, t'.contains k = true ↔ t.contains k = true := by
    intro k
    rw [h.contains_iff_path unique, h'.contains_iff_path unique', contains_congr hm, leads_congr hm]
  refine KeyMap.ext_get? fun k => ?_
  by_cases hk : t.contains k = true
  · obtain ⟨s, hs⟩ := (t.contains_iff_exists k).mp hk
    obtain ⟨s', hs'⟩ := (t'.contains_iff_exists k).mp ((hcontains k).mpr hk)
    obtain ⟨m, hmem, rfl, -⟩ := h.sound.entry k s hs
    obtain ⟨m', hmem', rfl, -⟩ := h'.sound.entry k s' hs'
    rw [unique.eq_of_mem_named ((mem_named_congr hm).mp hmem') hmem, nameSchema_congr hm] at hs'
    exact hs'.trans hs.symm
  · have hk' : ¬ t'.contains k = true := fun h => hk ((hcontains k).mp h)
    simp only [KeyMap.contains, Bool.not_eq_true, Option.isSome_eq_false_iff,
      Option.isNone_iff_eq_none] at hk hk'
    rw [hk, hk']

end

/-- The table after requests for types, each with the directory of its use. -/
def tableOf (index : ModelIndex) (requests : List (TypeExpr × Option FilePath)) : SchemaTable :=
  requests.foldl (fun t r => (index.schemaOf r.1 r.2 t).2) {}

theorem tableOf_grows (index : ModelIndex) (requests : List (TypeExpr × Option FilePath)) :
    index.Grows (fun name => ∃ type ∈ requests.map Prod.fst, type.Asks name) {}
      (index.tableOf requests) := by
  unfold tableOf
  have hs := index.sound_empty
  generalize ({} : SchemaTable) = t at hs
  induction requests generalizing t with
  | nil =>
    refine .refl hs ?_
    rintro name ⟨type, h, -⟩
    cases h
  | cons r rest ih =>
    obtain ⟨-, hg⟩ := schemaOf_answers hs r.1 r.2
    refine (hg.trans (ih _ hg.sound)).congr fun name => ?_
    simp only [List.map_cons, List.exists_mem_cons_iff]

theorem models_perm_of_files_perm {root : FilePath} {files files' : List (FilePath × File)}
    (h : files'.Perm files) : (ofFiles root files').models.Perm (ofFiles root files).models :=
  h.flatMap_right _

/-- The keys are the reachable models. Requests for the same types, however often and in whatever
order, give the same entries, also when the models were read in another order. -/
theorem tableOf_exact (index : ModelIndex) (unique : index.Unique)
    (requests : List (TypeExpr × Option FilePath)) :
    (∀ name, (index.tableOf requests).contains name = true ↔
      ∃ type ∈ requests.map Prod.fst, index.Reaches type name) ∧
    (∀ requests' : List (TypeExpr × Option FilePath),
      (∀ type, type ∈ requests'.map Prod.fst ↔ type ∈ requests.map Prod.fst) →
        (index.tableOf requests').toKeyMap = (index.tableOf requests).toKeyMap) ∧
    ∀ (root : FilePath) (files files' : List (FilePath × File)), index = ofFiles root files →
      files'.Perm files →
        ((ofFiles root files').tableOf requests).toKeyMap = (index.tableOf requests).toKeyMap := by
  have hgrows := index.tableOf_grows requests
  refine ⟨?_, ?_, ?_⟩
  · intro name
    rw [hgrows.contains_iff_path unique]
    constructor
    · rintro ⟨hc, a, ⟨type, htype, ha⟩, hpath⟩
      exact ⟨type, htype, hc, a, ha, hpath⟩
    · rintro ⟨type, htype, hc, a, ha, hpath⟩
      exact ⟨hc, a, ⟨type, htype, ha⟩, hpath⟩
  · intro requests' hsame
    have hgrows' := (index.tableOf_grows requests').congr
      (B := fun name => ∃ type ∈ requests.map Prod.fst, type.Asks name)
      fun name => by simp only [hsame]
    exact Grows.toKeyMap_eq (fun _ => Iff.rfl) unique unique hgrows hgrows'
  · rintro root files files' rfl hperm
    have hmodels : (ofFiles root files').models.Perm (ofFiles root files).models :=
      models_perm_of_files_perm hperm
    have unique' : (ofFiles root files').Unique :=
      (hmodels.map Model.name).nodup_iff.mpr unique
    exact Grows.toKeyMap_eq (fun _ => hmodels.mem_iff) unique unique' hgrows
      ((ofFiles root files').tableOf_grows requests)

/-- Two files whose models lead to each other. -/
def orderFiles : List (FilePath × File) :=
  [("models/order.go", ⟨"orders", [], [.type ⟨"Order",
      .struct [⟨["Items"], .slice (.named "Item"), some "json:\"items\"", []⟩], [], false⟩]⟩),
    ("models/item.go", ⟨"orders", [], [.type ⟨"Item", .pointer (.named "Order"), [], false⟩]⟩)]

theorem tableOf_exact_orderFiles :
    (ofFiles "models" orderFiles).Unique ∧
      ((ofFiles "models" orderFiles).tableOf [(.named "Order", none)]).contains "Item" = true ∧
      ((ofFiles "models" orderFiles).tableOf
          [(.named "Item", none), (.named "Order", some "api"), (.named "Item", none)]).toKeyMap =
        ((ofFiles "models" orderFiles).tableOf
          [(.named "Order", none), (.named "Item", none)]).toKeyMap ∧
      ((ofFiles "models" orderFiles.reverse).tableOf [(.named "Order", none)]).toKeyMap =
        ((ofFiles "models" orderFiles).tableOf [(.named "Order", none)]).toKeyMap := by
  have unique : (ofFiles "models" orderFiles).Unique := by decide
  have hmodels : (ofFiles "models" orderFiles).models =
      [⟨"Order", "orders", "models", none,
          .struct [⟨"items", .slice (.named "Item"), true, none⟩]⟩,
        ⟨"Item", "orders", "models", none, .synonym (.pointer (.named "Order"))⟩] := by cbv
  have hleads : (ofFiles "models" orderFiles).Leads "Order" "Item" :=
    ⟨_, mem_named.mpr ⟨hmodels ▸ List.mem_cons_self, rfl⟩,
      .field List.mem_cons_self (.slice (.named (by decide)))⟩
  obtain ⟨hkeys, -, hfiles⟩ := tableOf_exact _ unique [(.named "Order", none)]
  obtain ⟨-, hrequests, -⟩ := tableOf_exact _ unique [(.named "Order", none), (.named "Item", none)]
  refine ⟨unique, ?_, ?_, ?_⟩
  · exact (hkeys "Item").mpr ⟨.named "Order", List.mem_cons_self, by decide, "Order",
      .named (by decide), .single hleads⟩
  · refine hrequests _ fun type => ?_
    simp [or_comm]
  · exact hfiles "models" orderFiles _ rfl (List.reverse_perm _)

end ModelIndex

end RouteDoc
