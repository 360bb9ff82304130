import ApiAtlas.Proofs.Search.Scoring
import ApiAtlas.Proofs.Text.SigmaContext

/-! # Searching for what a record says

A text that is copied out of a record and holds no blank is one keyword. The keyword and the field it was copied
from are lowered apart from each other, so what is left to ask is whether the lower case of the copy is still a part
of the lower case of the field. It is for every whole word. For a piece of a word it depends on the capital sigmas
near its ends.
-/

namespace ApiAtlas

open Search Text

/-- The texts of a record that a search looks into. -/
def Record.searchedTexts (record : Record) : List String :=
  record.name :: (record.brief.toList ++ record.remarks.toList ++ record.category.toList)

namespace Search

variable {record : Record} {keyword : List Char} {word : String}

theorem containsLower_iff {text : String} :
    containsLower keyword text = true ↔ keyword <:+: lowercase text.toList :=
  occursIn_eq_true_iff

/-- A keyword occurs in a record exactly if it is a part of the lower case of one of its texts. -/
theorem keywordOccurs_iff : keywordOccurs record keyword = true ↔
    ∃ text ∈ record.searchedTexts, keyword <:+: lowercase text.toList := by
  simp only [keywordOccurs, fieldContains, Bool.or_eq_true, Option.any_eq_true, containsLower_iff,
    Record.searchedTexts, List.mem_cons, List.mem_append, Option.mem_toList]
  constructor
  · rintro (((inside | ⟨text, held, inside⟩) | ⟨text, held, inside⟩) | ⟨text, held, inside⟩)
    · exact ⟨_, .inl rfl, inside⟩
    · exact ⟨text, .inr (.inl (.inl held)), inside⟩
    · exact ⟨text, .inr (.inl (.inr held)), inside⟩
    · exact ⟨text, .inr (.inr held), inside⟩
  · rintro ⟨text, rfl | (held | held) | held, inside⟩
    · exact .inl (.inl (.inl inside))
    · exact .inl (.inl (.inr ⟨text, held, inside⟩))
    · exact .inl (.inr ⟨text, held, inside⟩)
    · exact .inr ⟨text, held, inside⟩

/-- A search for a text comes upon a record: it matches, it scores, and whatever else a catalog holds it is
returned unless the limit is less than the catalog. -/
structure Finds (word : String) (record : Record) : Prop where
  matching : isMatch word record = true
  scoring : 0 < score word record
  returned : ∀ (history : List Operation) (limit : Nat), record ∈ (Catalog.run history).records →
    (Catalog.run history).size ≤ limit →
      record ∈ (Catalog.run history).search { SearchQuery.ofText word with limit := limit }

/-- A text without blanks is its own and only keyword. -/
theorem keywords_of_unbroken (filled : word ≠ "") (unbroken : ∀ c ∈ word.toList, isBlank c = false) :
    keywords word = [lowercase word.toList] := by
  have letters : word.toList ≠ [] := by simpa using filled
  rw [keywords, words, splitBy_of_free unbroken]
  simp [letters]

theorem finds_iff (filled : word ≠ "") (unbroken : ∀ c ∈ word.toList, isBlank c = false) :
    Finds word record ↔ ∃ text ∈ record.searchedTexts, lowercase word.toList <:+: lowercase text.toList := by
  have single := keywords_of_unbroken filled unbroken
  have named : keywords word ≠ [] := by simp [single]
  have few : (keywords word).length ≤ 3940336 := by simp [single]
  have scoring : 0 < score word record ↔
      ∃ text ∈ record.searchedTexts, lowercase word.toList <:+: lowercase text.toList := by
    rw [score_pos_iff few, single, ← keywordOccurs_iff]
    simp
  rw [← scoring]
  constructor
  · exact Finds.scoring
  · intro scores
    refine ⟨(isMatch_iff_score_pos few named).mpr scores, scores, ?_⟩
    intro history limit member wide
    exact ((Catalog.run history).returnsScoring rfl named few).complete wide record member rfl scores

/-- A text without blanks finds every record that it is a whole word of. It finds every record that it is copied
from exactly if its capital sigmas are settled, so that no letter beside the text makes one of them end a word or
keeps it from that. -/
theorem copied_text_finds_iff (filled : word ≠ "") (unbroken : ∀ c ∈ word.toList, isBlank c = false) :
    (∀ record : Record, (∃ text ∈ record.searchedTexts, word.toList ∈ words text.toList) → Finds word record) ∧
      ((∀ record : Record, (∃ text ∈ record.searchedTexts, word.toList <:+: text.toList) → Finds word record) ↔
        SettledSigmas word.toList) := by
  simp only [finds_iff filled unbroken]
  refine ⟨?_, ?_, ?_⟩
  · rintro record ⟨text, searched, whole⟩
    exact ⟨text, searched, lowercase_infix_of_mem_words whole⟩
  · intro found
    rw [settledSigmas_iff]
    intro text copied
    -- A record that is nothing but a name has one text to be found by.
    obtain ⟨name, searched, inside⟩ := found (.ofDetails (String.ofList text) (.struct []))
      ⟨String.ofList text, by simp [Record.searchedTexts, Record.ofDetails], by simpa using copied⟩
    obtain rfl : name = String.ofList text := by
      simpa [Record.searchedTexts, Record.ofDetails] using searched
    simpa using inside
  · rintro settled record ⟨text, searched, copied⟩
    exact ⟨text, searched, settledSigmas_iff.mp settled text.toList copied⟩

theorem unbroken_of_all (free : word.toList.all (!isBlank ·) = true) : ∀ c ∈ word.toList, isBlank c = false := by
  simpa using free

/-- A name with a capital sigma inside it and one at its end. -/
def sampleStar : Record := .ofDetails "ΦΩΣΦΟΡΟΣ" (.struct [])

theorem copied_text_finds_iff_sampleStar :
    SettledSigmas "ΩΣΦΟΡ".toList ∧ ¬SettledSigmas "ΦΟΡΟΣ".toList ∧ "ΩΣΦΟΡ".toList <:+: sampleStar.name.toList ∧
      Finds "ΩΣΦΟΡ" sampleStar ∧ Finds "ΦΩΣΦΟΡΟΣ" sampleStar := by
  have inner : SettledSigmas "ΩΣΦΟΡ".toList := by decide +kernel
  have copied : "ΩΣΦΟΡ".toList <:+: sampleStar.name.toList := by decide +kernel
  have whole : "ΦΩΣΦΟΡΟΣ".toList ∈ words sampleStar.name.toList := by decide +kernel
  refine ⟨inner, by decide +kernel, copied, ?_, ?_⟩
  · have unbroken := @unbroken_of_all "ΩΣΦΟΡ" (by decide)
    exact (copied_text_finds_iff (by decide) unbroken).2.mpr inner sampleStar ⟨_, List.mem_cons_self, copied⟩
  · have unbroken := @unbroken_of_all "ΦΩΣΦΟΡΟΣ" (by decide)
    exact (copied_text_finds_iff (by decide) unbroken).1 sampleStar ⟨_, List.mem_cons_self, whole⟩

/-- The beginning of a name does not find it: alone its last sigma ends a word, in the name it does not. -/
theorem copied_beginning_missed :
    "ΦΩΣ" ≠ "" ∧ (∀ c ∈ "ΦΩΣ".toList, isBlank c = false) ∧ "ΦΩΣ".toList <:+: sampleStar.name.toList ∧
      isMatch "ΦΩΣ" sampleStar = false ∧ score "ΦΩΣ" sampleStar = 0 ∧
      (Catalog.run [.add sampleStar]).search (.ofText "ΦΩΣ") = [] := by
  exact ⟨by decide, unbroken_of_all (by decide), by decide +kernel, by decide +kernel, by decide +kernel,
    by decide +kernel⟩

end Search

end ApiAtlas
