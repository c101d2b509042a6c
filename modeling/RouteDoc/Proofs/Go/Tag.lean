import RouteDoc.Go.Literal
import RouteDoc.Proofs.Text

/-! Struct tags and the pairs they are written from. Looking up a key in a tag gives the value of the
first pair with that key, whatever white space stands around the pairs. -/
namespace RouteDoc.Go

/-- A key and a value that can stand in a tag. -/
structure TagPair where
  key : String
  value : String
  /-- The key has characters, and no white space at its ends. -/
  key_tight : Text.Tight key.toList
  key_no_colon : ':' ∉ key.toList
  value_no_quote : '"' ∉ value.toList

/-- A pair as it is written. -/
def TagPair.chars (p : TagPair) : List Char :=
  p.key.toList ++ ':' :: '"' :: (p.value.toList ++ ['"'])

/-- A tag text that consists of the given pairs, with white space before, between and after them. -/
inductive IsTagText : List TagPair → List Char → Prop where
  | blank {space : List Char} (hspace : ∀ c ∈ space, Text.isSpace c = true) : IsTagText [] space
  | pair {space : List Char} (hspace : ∀ c ∈ space, Text.isSpace c = true) (p : TagPair)
      {pairs : List TagPair} {rest : List Char} (hrest : IsTagText pairs rest) :
      IsTagText (p :: pairs) (space ++ (p.chars ++ rest))

theorem colon_notMem_of_isSpace {space : List Char} (h : ∀ c ∈ space, Text.isSpace c = true) :
    ':' ∉ space := fun hmem => absurd (h ':' hmem) (by decide)

/-- In white space there is no pair. -/
theorem firstPair?_eq_none {space : List Char} (h : ∀ c ∈ space, Text.isSpace c = true) :
    firstPair? space = none := by
  have hcut : Text.cutAt? (· == ':') space = none :=
    Text.cutAt?_eq_none (Text.beq_eq_false_of_notMem (colon_notMem_of_isSpace h))
  rw [firstPair?, hcut]
  rfl

theorem firstPair?_append {space : List Char} (hspace : ∀ c ∈ space, Text.isSpace c = true)
    (p : TagPair) (rest : List Char) :
    firstPair? (space ++ (p.chars ++ rest)) = some (p.key.toList, p.value.toList, rest) := by
  have hcolon : ':' ∉ space ++ p.key.toList :=
    List.not_mem_append (colon_notMem_of_isSpace hspace) p.key_no_colon
  have hchars : space ++ (p.chars ++ rest) =
      (space ++ p.key.toList) ++ ':' :: '"' :: (p.value.toList ++ '"' :: rest) := by
    simp [TagPair.chars]
  have hkey : Text.cutAt? (· == ':') (space ++ (p.chars ++ rest)) =
      some (space ++ p.key.toList, '"' :: (p.value.toList ++ '"' :: rest)) := by
    rw [hchars]
    exact Text.cutAt?_append_cons (Text.beq_eq_false_of_notMem hcolon) (beq_self_eq_true ':') _
  have hquote : ['"'].isPrefixOf? ('"' :: (p.value.toList ++ '"' :: rest)) =
      some (p.value.toList ++ '"' :: rest) := List.isPrefixOf?_eq_some_iff_append_eq.mpr rfl
  have hvalue : Text.cutAt? (· == '"') (p.value.toList ++ '"' :: rest) =
      some (p.value.toList, rest) :=
    Text.cutAt?_append_cons (Text.beq_eq_false_of_notMem p.value_no_quote) (beq_self_eq_true '"') rest
  have htrim : Text.trim (space ++ p.key.toList) = p.key.toList := by
    rw [Text.trim_append_of_isSpace hspace, p.key_tight.trim_eq]
  simp only [firstPair?, hkey, hquote, hvalue, htrim, Option.bind_eq_bind, Option.bind_some]

theorem lookupTag_of_firstPair? {key tag k value rest : List Char}
    (h : firstPair? tag = some (k, value, rest)) :
    lookupTag key tag = if k = key then some value else lookupTag key rest := by
  rw [lookupTag]
  split
  next hnone =>
    rw [h] at hnone
    cases hnone
  next hsome =>
    rw [h] at hsome
    cases hsome
    rfl

theorem lookupTag_of_isTagText {pairs : List TagPair} {text : List Char} (h : IsTagText pairs text)
    (key : String) : lookupTag key.toList text =
      (pairs.find? fun p => p.key == key).map fun p => p.value.toList := by
  induction h with
  | @blank space hspace =>
    rw [lookupTag]
    split
    next => rfl
    next hsome =>
      rw [firstPair?_eq_none hspace] at hsome
      cases hsome
  | @pair space hspace p pairs rest _ ih =>
    rw [lookupTag_of_firstPair? (firstPair?_append hspace p rest), List.find?_cons]
    by_cases hkey : p.key = key
    · subst hkey
      simp
    · have hchars : p.key.toList ≠ key.toList := fun heq => hkey (String.toList_inj.mp heq)
      rw [if_neg hchars, ih, beq_false_of_ne hkey]

/-- The value of a key in a tag is that of the first pair with the key. -/
theorem Field.tagValue?_eq_first {f : Field} {text : String} (htag : f.tag = some text)
    {pairs : List TagPair} (htext : IsTagText pairs text.toList) (key : String) :
    f.tagValue? key = (pairs.find? fun p => p.key == key).map TagPair.value := by
  unfold Field.tagValue?
  rw [htag, Option.bind_eq_bind, Option.bind_some, lookupTag_of_isTagText htext]
  simp [Function.comp_def]

namespace TotalField

def json : TagPair := ⟨"json", "total,omitempty", by decide, by decide, by decide⟩

def source : TagPair := ⟨"source", "db: orders, 10:30", by decide, by decide, by decide⟩

def later : TagPair := ⟨"json", "sum", by decide, by decide, by decide⟩

/-- White space differs from pair to pair, and two pairs may touch. -/
def field : Field where
  names := ["Total"]
  type := .named "int64"
  tag := some "\tjson:\"total,omitempty\"source:\"db: orders, 10:30\" \n json:\"sum\" "
  doc := []

theorem isTagText_tag : IsTagText [json, source, later] (field.tag.getD "").toList := by
  have hend : IsTagText [] [' '] := .blank (List.all_eq_true.mp rfl)
  have hlater := @IsTagText.pair [' ', '\n', ' '] (List.all_eq_true.mp rfl) later _ _ hend
  have hsource := @IsTagText.pair [] (List.all_eq_true.mp rfl) source _ _ hlater
  exact @IsTagText.pair ['\t'] (List.all_eq_true.mp rfl) json _ _ hsource

theorem tagValue?_eq_first_total :
    field.tagValue? "json" = some "total,omitempty" ∧
      field.tagValue? "source" = some "db: orders, 10:30" ∧ field.tagValue? "db" = none := by
  have hfirst := Field.tagValue?_eq_first (f := field) rfl isTagText_tag
  exact ⟨hfirst "json", hfirst "source", hfirst "db"⟩

end TotalField

end RouteDoc.Go
