import Mathlib.Data.List.Basic
import RouteDoc.Go.TypeText

/-! Text whose brackets match. Neither the search for a closing bracket nor the cut at commas stops
inside it. -/
namespace RouteDoc.Go

/-- A character that neither nests text nor separates arguments. -/
def IsOrdinary (c : Char) : Prop := c ∉ [',', '[', ']', '(', ')', '{', '}']

instance (c : Char) : Decidable (IsOrdinary c) :=
  inferInstanceAs (Decidable (c ∉ [',', '[', ']', '(', ')', '{', '}']))

/-- A left and a right bracket of one kind, as far as types have them. -/
inductive Encloses : Char → Char → Prop where
  | brackets : Encloses '[' ']'
  | braces : Encloses '{' '}'

/-- Text whose brackets and braces match. Only inside them may a comma stand, unless `commas` is
set. -/
inductive Balanced : (commas : Bool) → List Char → Prop where
  | nil {commas : Bool} : Balanced commas []
  | comma {u : List Char} (hu : Balanced true u) : Balanced true (',' :: u)
  | char {commas : Bool} {c : Char} {u : List Char} (hc : IsOrdinary c) (hu : Balanced commas u) :
      Balanced commas (c :: u)
  | group {commas : Bool} {left right : Char} {u v : List Char}
      (hpair : Encloses left right) (hu : Balanced true u) (hv : Balanced commas v) :
      Balanced commas (left :: (u ++ right :: v))

namespace Balanced
variable {commas : Bool} {u v : List Char}

theorem append (hu : Balanced commas u) (hv : Balanced commas v) : Balanced commas (u ++ v) := by
  induction hu with
  | nil => exact hv
  | comma _ ih => exact .comma (ih hv)
  | char hc _ ih => exact .char hc (ih hv)
  | group hpair hu _ _ ih =>
    rw [List.cons_append, List.append_assoc, List.cons_append]
    exact .group hpair hu (ih hv)

theorem withCommas (hu : Balanced commas u) : Balanced true u := by
  induction hu with
  | nil => exact .nil
  | comma hu _ => exact .comma hu
  | char hc _ ih => exact .char hc ih
  | group hpair hu _ _ ih => exact .group hpair hu ih

theorem of_forall (h : ∀ c ∈ u, IsOrdinary c) : Balanced commas u := by
  induction u with
  | nil => exact .nil
  | cons c u ih =>
    exact .char (h c List.mem_cons_self) (ih fun c hc => h c (List.mem_cons_of_mem _ hc))

theorem of_all (h : u.all (fun c => decide (IsOrdinary c)) = true) : Balanced commas u :=
  of_forall fun c hc => of_decide_eq_true (List.all_eq_true.mp h c hc)

end Balanced

theorem closeBracket?_cons {c : Char} (hopen : c ≠ '[') (hclose : c ≠ ']') (depth : Nat)
    (cs : List Char) :
    closeBracket? depth (c :: cs) =
      (closeBracket? depth cs).map fun parts => (c :: parts.1, parts.2) := by
  rw [closeBracket?]
  · rw [if_neg hopen]
  · exact hclose

/-- The search for a closing bracket passes over balanced text. -/
theorem closeBracket?_append {commas : Bool} {u : List Char} (hu : Balanced commas u) (depth : Nat)
    (rest : List Char) :
    closeBracket? depth (u ++ rest) =
      (closeBracket? depth rest).map fun parts => (u ++ parts.1, parts.2) := by
  induction hu generalizing depth rest with
  | nil => simp
  | comma _ ih =>
    rw [List.cons_append, closeBracket?_cons (by decide) (by decide), ih, Option.map_map]
    rfl
  | @char _ c _ hc _ ih =>
    have hopen : c ≠ '[' := fun h => hc (by simp [h])
    have hclose : c ≠ ']' := fun h => hc (by simp [h])
    rw [List.cons_append, closeBracket?_cons hopen hclose, ih, Option.map_map]
    rfl
  | @group _ left right u v hpair _ _ ihu ihv =>
    have htext : left :: (u ++ right :: v) ++ rest = left :: (u ++ right :: (v ++ rest)) := by simp
    rw [htext]
    cases hpair with
    | brackets =>
      have hinner : closeBracket? (depth + 1) (u ++ ']' :: (v ++ rest)) =
          (closeBracket? depth rest).map fun parts => (u ++ ']' :: (v ++ parts.1), parts.2) := by
        rw [ihu, closeBracket?, ihv, Option.map_map, Option.map_map]
        rfl
      rw [closeBracket?, if_pos rfl, hinner, Option.map_map]
      · simp [Function.comp_def]
      · decide
    | braces =>
      -- braces count for nothing here
      rw [closeBracket?_cons (by decide) (by decide), ihu,
        closeBracket?_cons (by decide) (by decide), ihv]
      simp [Function.comp_def]

/-- Puts text in front of the first piece. -/
def consFirst (u : List Char) : List (List Char) → List (List Char)
  | [] => [u]
  | piece :: pieces => (u ++ piece) :: pieces

theorem consFirst_append (u v : List Char) (pieces : List (List Char)) :
    consFirst (u ++ v) pieces = consFirst u (consFirst v pieces) := by
  cases pieces <;> simp [consFirst]

/-- The number of open brackets after a character. -/
def depthAfter (depth : Nat) (c : Char) : Nat :=
  if c = '[' ∨ c = '(' ∨ c = '{' then depth + 1
  else if c = ']' ∨ c = ')' ∨ c = '}' then depth - 1
  else depth

theorem depthAfter_of_isOrdinary {c : Char} (hc : IsOrdinary c) (depth : Nat) :
    depthAfter depth c = depth := by
  simp only [IsOrdinary, List.mem_cons, List.not_mem_nil, or_false, not_or] at hc
  simp [depthAfter, hc]

theorem splitCommas_cons {c : Char} {depth : Nat} (h : c = ',' → depth ≠ 0) (cs : List Char) :
    splitCommas depth (c :: cs) = consFirst [c] (splitCommas (depthAfter depth c) cs) := by
  rw [splitCommas, if_neg fun hc => h hc.1 hc.2]
  change (match splitCommas (depthAfter depth c) cs with
    | [] => [[c]]
    | piece :: pieces => (c :: piece) :: pieces) = _
  cases splitCommas (depthAfter depth c) cs <;> rfl

theorem splitCommas_ne_nil (depth : Nat) (cs : List Char) : splitCommas depth cs ≠ [] := by
  cases cs with
  | nil => simp [splitCommas]
  | cons c cs =>
    by_cases h : c = ',' ∧ depth = 0
    · simp [splitCommas, h]
    · rw [splitCommas_cons fun hc hd => h ⟨hc, hd⟩]
      cases splitCommas (depthAfter depth c) cs <;> simp [consFirst]

/-- Balanced text without commas of its own stays in one piece; inside a bracket, so does all
balanced text. -/
theorem splitCommas_append {commas : Bool} {u : List Char} (hu : Balanced commas u) {depth : Nat}
    (hdepth : commas = true → depth ≠ 0) (rest : List Char) :
    splitCommas depth (u ++ rest) = consFirst u (splitCommas depth rest) := by
  induction hu generalizing depth rest with
  | nil =>
    obtain ⟨piece, pieces, h⟩ := List.exists_cons_of_ne_nil (splitCommas_ne_nil depth rest)
    rw [List.nil_append, h]
    rfl
  | comma _ ih =>
    have hnext : depthAfter depth ',' = depth := rfl
    rw [List.cons_append, splitCommas_cons fun _ => hdepth rfl, hnext, ih hdepth,
      ← consFirst_append]
    rfl
  | @char _ c _ hc _ ih =>
    have hcomma : c ≠ ',' := fun h => hc (by simp [h])
    rw [List.cons_append, splitCommas_cons fun h => absurd h hcomma, depthAfter_of_isOrdinary hc,
      ih hdepth, ← consFirst_append]
    rfl
  | @group _ left right u v hpair _ _ ihu ihv =>
    have hopen : depthAfter depth left = depth + 1 ∧ left ≠ ',' := by
      cases hpair <;> exact ⟨rfl, by decide⟩
    have hclose : depthAfter (depth + 1) right = depth := by
      cases hpair <;> rfl
    have htext : left :: (u ++ right :: v) ++ rest = left :: (u ++ right :: (v ++ rest)) := by simp
    rw [htext, splitCommas_cons fun h => absurd h hopen.2, hopen.1, ihu (by simp),
      splitCommas_cons (by simp), hclose, ihv hdepth, ← consFirst_append, ← consFirst_append,
      ← consFirst_append]
    simp

end RouteDoc.Go
