/-! Rows of steps in which the later ones replace the earlier ones: what is found in the end was
written last. -/
namespace RouteDoc
variable {σ ε β κ : Type}

/-- Where each step gives an answer or leaves the one there was, the last answer counts. -/
theorem look_foldl (look : σ → Option β) {step : σ → ε → σ} {answer : ε → Option β}
    (h : ∀ s e, look (step s e) = (answer e).or (look s)) (es : List ε) (s : σ) :
    look (es.foldl step s) = (es.reverse.findSome? answer).or (look s) := by
  induction es generalizing s with
  | nil => rfl
  | cons e es ih =>
    have hlast : [e].findSome? answer = answer e := by simp
    rw [List.foldl_cons, ih, h, List.reverse_cons, List.findSome?_append, hlast, Option.or_assoc]

/-- An element stands in a list, and none with the same key after it. -/
def IsLastBy (key : ε → κ) (es : List ε) (e : ε) : Prop :=
  ∃ before after, es = before ++ e :: after ∧ ∀ e' ∈ after, key e' ≠ key e

variable [DecidableEq κ] {key : ε → κ} {k : κ}

theorem find?_reverse_eq_some_iff {es : List ε} {e : ε} :
    (es.reverse.find? fun e => key e = k) = some e ↔ key e = k ∧ IsLastBy key es e := by
  rw [List.find?_eq_some_iff_append, decide_eq_true_eq]
  refine and_congr_right fun hkey => ?_
  subst hkey
  constructor
  · rintro ⟨after, before, hes, hafter⟩
    refine ⟨before.reverse, after.reverse, ?_, ?_⟩
    · rw [← List.reverse_reverse es, hes]
      simp
    · intro e' he'
      simpa using hafter e' (List.mem_reverse.mp he')
  · rintro ⟨before, after, rfl, hafter⟩
    refine ⟨after.reverse, before.reverse, by simp, ?_⟩
    intro e' he'
    simpa using hafter e' (List.mem_reverse.mp he')

/-- Where each step writes under a key, the last one with that key counts. -/
theorem look_foldl_of_key (look : σ → Option β) {step : σ → ε → σ} {value : ε → β}
    (h : ∀ s e, look (step s e) = if k = key e then some (value e) else look s) (es : List ε)
    (s : σ) :
    look (es.foldl step s) =
      ((es.reverse.find? fun e => key e = k).map value).or (look s) := by
  induction es generalizing s with
  | nil => rfl
  | cons e es ih =>
    rw [List.foldl_cons, ih, h, List.reverse_cons, List.find?_append]
    cases es.reverse.find? fun e => key e = k with
    | some last => rfl
    | none =>
      by_cases hk : k = key e
      · simp [hk]
      · simp [hk, Ne.symm hk]

end RouteDoc
