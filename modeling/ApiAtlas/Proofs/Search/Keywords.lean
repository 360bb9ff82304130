import ApiAtlas.Proofs.Search.Ranking
import ApiAtlas.Proofs.Text.LetterCase
import Mathlib.Algebra.BigOperators.Group.List.Basic

/-! # Search sees a bag of keywords

Matching asks whether some keyword occurs, and a score adds up what each keyword earns, so neither
depends on the order of the keywords. That a sum starts over from zero where 32 bits end does not change
this. Keywords are lower-case words: the case of ASCII letters and the blanks between the words do not
show either.
-/

namespace ApiAtlas

namespace Search

open Text

/-- What the keywords of a text earn from a record, added up without a limit. -/
def earned (text : String) (record : Record) : Nat :=
  ((keywords text).map fun keyword => (keywordScore record keyword).toNat).sum

/-- Numbers that are added up in 32 bits leave what their sum leaves there. -/
theorem toNat_foldl_add {α : Type} (term : α → UInt32) (start : UInt32) (items : List α) :
    (items.foldl (fun total item => total + term item) start).toNat =
      (start.toNat + (items.map fun item => (term item).toNat).sum) % UInt32.size := by
  induction items generalizing start with
  | nil =>
    rw [List.foldl_nil, List.map_nil, List.sum_nil, Nat.add_zero, Nat.mod_eq_of_lt start.toNat_lt]
  | cons item rest ih =>
    rw [List.foldl_cons, ih, UInt32.toNat_add, List.map_cons, List.sum_cons, Nat.mod_add_mod, Nat.add_assoc]

/-- The score of a record adds up what each keyword earns, as far as 32 bits go. -/
theorem toNat_score (text : String) (record : Record) :
    (score text record).toNat = earned text record % UInt32.size := by
  rw [score, toNat_foldl_add, UInt32.toNat_zero, Nat.zero_add, earned]

section Bag

variable {left right : String} (perm : (keywords left).Perm (keywords right))

include perm

theorem isBlankQuery_of_perm : isBlankQuery left = isBlankQuery right := by
  rw [Bool.eq_iff_iff, ← SearchQuery.keywords_eq_nil_iff, ← SearchQuery.keywords_eq_nil_iff]
  exact ⟨fun blank => (blank ▸ perm).symm.eq_nil, fun blank => (blank ▸ perm).eq_nil⟩

theorem isMatch_of_perm (record : Record) : isMatch left record = isMatch right record := by
  simp only [isMatch, perm.any_eq, perm.isEmpty_eq]

theorem score_of_perm (record : Record) : score left record = score right record := by
  rw [← UInt32.toNat_inj, toNat_score, toNat_score, earned, earned, (perm.map _).sum_eq]

end Bag

/-- Two words that differ at most in the case of ASCII letters, which are all that `Char.toLower` moves. -/
def CaseVariant (left right : List Char) : Prop :=
  left.map Char.toLower = right.map Char.toLower

instance : DecidableRel CaseVariant := fun _ _ => inferInstanceAs (Decidable (_ = _))

theorem CaseVariant.lowercase_eq {left right : List Char} (variant : CaseVariant left right) :
    lowercase left = lowercase right := by
  rw [← lowercase_map_toLower left, variant, lowercase_map_toLower]

/-- The words of one text are those of the other one in some order, up to the case of ASCII letters. -/
def SameWords (left right : String) : Prop :=
  ∃ reordered : List (List Char), reordered.Perm (words left.toList) ∧
    reordered.Forall₂ CaseVariant (words right.toList)

/-- Texts with the same words have the same bag of keywords. -/
theorem SameWords.keywords_perm {left right : String} (same : SameWords left right) :
    (keywords left).Perm (keywords right) := by
  obtain ⟨reordered, perm, variants⟩ := same
  have lowered : (reordered.map lowercase).Forall₂ Eq (keywords right) := by
    rw [keywords, List.forall₂_map_left_iff, List.forall₂_map_right_iff]
    exact variants.imp fun _ _ variant => variant.lowercase_eq
  rw [List.forall₂_eq_eq_eq] at lowered
  rw [← lowered]
  exact (perm.map lowercase).symm

end Search

theorem Catalog.search_of_perm (catalog : Catalog) (query : SearchQuery) {left right : String}
    (perm : (Search.keywords left).Perm (Search.keywords right)) :
    catalog.search { query with text := some left } = catalog.search { query with text := some right } := by
  have blank := Search.isBlankQuery_of_perm perm
  have matching : Search.isMatch left = Search.isMatch right := funext (Search.isMatch_of_perm perm)
  have scoring : Search.score left = Search.score right := funext (Search.score_of_perm perm)
  have keyword (text : String) : ({ query with text := some text } : SearchQuery).keywordText? =
      if Search.isBlankQuery text then none else some text := by
    cases named : Search.isBlankQuery text <;> simp [SearchQuery.keywordText?, Option.filter, named]
  simp only [search, keyword, blank]
  cases Search.isBlankQuery right with
  | true => rfl
  | false => simp only [Bool.false_eq_true, if_false, matching, scoring]; rfl

/-- Search depends on nothing but the bag of keywords. Texts with the same words, in any order and in any
case of ASCII letters, find the same records in the same order, and every record fits them alike. -/
theorem Catalog.search_sees_bag {left right : String} (same : Search.SameWords left right) (catalog : Catalog)
    (query : SearchQuery) :
    catalog.search { query with text := some left } = catalog.search { query with text := some right } ∧
      ∀ record, Search.isMatch left record = Search.isMatch right record ∧
        Search.score left record = Search.score right record := by
  have perm := same.keywords_perm
  exact ⟨catalog.search_of_perm query perm, fun record =>
    ⟨Search.isMatch_of_perm perm record, Search.score_of_perm perm record⟩⟩

/-- A catalog of names in which a capital sigma ends a word. -/
def sampleNames : Catalog :=
  .ofRecords (["aΣ_draw", "draw_aΣ", "draw"].map fun name => .ofDetails name (.struct []))

theorem Catalog.search_sees_bag_sample :
    Search.SameWords "Draw aΣ draw" " AΣ\u3000DRAW\ndRaW" ∧
      Search.keywords "Draw aΣ draw" ≠ Search.keywords " AΣ\u3000DRAW\ndRaW" ∧
      sampleNames.search (.ofText "Draw aΣ draw") = sampleNames.search (.ofText " AΣ\u3000DRAW\ndRaW") ∧
      (sampleNames.search (.ofText "Draw aΣ draw")).map Record.name = ["draw", "draw_aΣ", "aΣ_draw"] := by
  have same : Search.SameWords "Draw aΣ draw" " AΣ\u3000DRAW\ndRaW" :=
    ⟨["aΣ".toList, "Draw".toList, "draw".toList], by decide, by decide⟩
  exact ⟨same, by decide, (search_sees_bag same sampleNames .browse).1, by decide +kernel⟩

end ApiAtlas
