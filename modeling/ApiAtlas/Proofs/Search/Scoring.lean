import ApiAtlas.Proofs.Search.Keywords
import Mathlib.Algebra.Order.BigOperators.Group.List

/-! # Scores and matches

A keyword that occurs in a record earns something there and one that does not earns nothing. No keyword earns
more than an exact name and every other field together, so 32 bits hold what up to 3940336 keywords earn. For a
text of no more keywords the score is the sum itself, and the records that match the text are those that score
for it.
-/

namespace ApiAtlas

namespace Search

open Text

section Keyword

variable {name keyword : List Char} {field : Option String} {record : Record} {weight : UInt32}

theorem nameScore_pos_iff : 0 < (nameScore name keyword).toNat ↔ occursIn keyword name = true := by
  rw [occursIn_eq_true_iff, nameScore]
  split_ifs with whole starts ends inside
  · exact iff_of_true (by decide) (whole ▸ List.infix_rfl)
  · exact iff_of_true (by decide) (List.isPrefixOf_iff_prefix.mp starts).isInfix
  · exact iff_of_true (by decide) (List.isSuffixOf_iff_suffix.mp ends).isInfix
  · exact iff_of_true (by decide) (occursIn_eq_true_iff.mp inside)
  · exact iff_of_false (by decide) (mt occursIn_eq_true_iff.mpr inside)

theorem nameScore_le (name keyword : List Char) : (nameScore name keyword).toNat ≤ 1000 := by
  rw [nameScore]
  split_ifs <;> decide

theorem fieldScore_pos_iff (earns : 0 < weight.toNat) :
    0 < (fieldScore keyword field weight).toNat ↔ fieldContains keyword field = true := by
  rw [fieldScore]
  split_ifs with found
  · exact iff_of_true earns found
  · exact iff_of_false (Nat.lt_irrefl 0) found

theorem fieldScore_le (keyword : List Char) (field : Option String) (weight : UInt32) :
    (fieldScore keyword field weight).toNat ≤ weight.toNat := by
  rw [fieldScore]
  split_ifs
  · exact Nat.le_refl weight.toNat
  · exact Nat.zero_le weight.toNat

/-- A keyword earns at most an exact name and every other field together. -/
theorem fieldScores_le (record : Record) (keyword : List Char) :
    (nameScore (lowercase record.name.toList) keyword).toNat +
      (fieldScore keyword record.brief briefScore).toNat + (fieldScore keyword record.category categoryScore).toNat +
      (fieldScore keyword record.remarks remarksScore).toNat ≤ 1090 := by
  have name := nameScore_le (lowercase record.name.toList) keyword
  have brief : _ ≤ 50 := fieldScore_le keyword record.brief briefScore
  have category : _ ≤ 30 := fieldScore_le keyword record.category categoryScore
  have remarks : _ ≤ 10 := fieldScore_le keyword record.remarks remarksScore
  omega

/-- What one keyword earns in all fields fits into 32 bits. -/
theorem toNat_keywordScore (record : Record) (keyword : List Char) :
    (keywordScore record keyword).toNat = (nameScore (lowercase record.name.toList) keyword).toNat +
      (fieldScore keyword record.brief briefScore).toNat + (fieldScore keyword record.category categoryScore).toNat +
      (fieldScore keyword record.remarks remarksScore).toNat := by
  have bound := fieldScores_le record keyword
  rw [keywordScore, UInt32.toNat_add, UInt32.toNat_add, UInt32.toNat_add]
  omega

/-- A keyword earns something from exactly the records it occurs in. -/
theorem keywordScore_pos_iff :
    0 < (keywordScore record keyword).toNat ↔ keywordOccurs record keyword = true := by
  have name : 0 < (nameScore (lowercase record.name.toList) keyword).toNat ↔
      containsLower keyword record.name = true := nameScore_pos_iff
  have brief := @fieldScore_pos_iff keyword record.brief briefScore (by decide)
  have category := @fieldScore_pos_iff keyword record.category categoryScore (by decide)
  have remarks := @fieldScore_pos_iff keyword record.remarks remarksScore (by decide)
  rw [keywordOccurs, Bool.or_eq_true, Bool.or_eq_true, Bool.or_eq_true, ← name, ← brief, ← category, ← remarks,
    toNat_keywordScore]
  omega

theorem keywordScore_le (record : Record) (keyword : List Char) : (keywordScore record keyword).toNat ≤ 1090 := by
  rw [toNat_keywordScore]
  exact fieldScores_le record keyword

end Keyword

section Text

variable {text : String} {record : Record}

theorem earned_pos_iff :
    0 < earned text record ↔ ∃ keyword ∈ keywords text, keywordOccurs record keyword = true := by
  rw [earned, List.sum_pos_iff_exists_pos_nat]
  simp only [List.mem_map, exists_exists_and_eq_and, keywordScore_pos_iff]

theorem earned_le (text : String) (record : Record) : earned text record ≤ 1090 * (keywords text).length := by
  have bound : ∀ term ∈ (keywords text).map fun keyword => (keywordScore record keyword).toNat, term ≤ 1090 := by
    intro term member
    obtain ⟨keyword, -, rfl⟩ := List.mem_map.mp member
    exact keywordScore_le record keyword
  rw [earned]
  simpa [Nat.mul_comm] using List.sum_le_card_nsmul _ 1090 bound

section Few

variable (few : (keywords text).length ≤ 3940336)

include few

theorem earned_lt_size (record : Record) : earned text record < UInt32.size := by
  have bound := earned_le text record
  have size : UInt32.size = 4294967296 := rfl
  omega

/-- What few keywords earn is what the score shows. -/
theorem toNat_score_of_few (record : Record) : (score text record).toNat = earned text record := by
  rw [toNat_score, Nat.mod_eq_of_lt (earned_lt_size few record)]

theorem score_lt_iff {other : Record} :
    score text record < score text other ↔ earned text record < earned text other := by
  rw [UInt32.lt_iff_toNat_lt, toNat_score_of_few few, toNat_score_of_few few]

theorem score_pos_iff :
    0 < score text record ↔ ∃ keyword ∈ keywords text, keywordOccurs record keyword = true := by
  rw [UInt32.lt_iff_toNat_lt, UInt32.toNat_zero, toNat_score_of_few few, earned_pos_iff]

/-- A record matches a text with keywords exactly when it scores for it. -/
theorem isMatch_iff_score_pos (named : keywords text ≠ []) :
    isMatch text record = true ↔ 0 < score text record := by
  rw [score_pos_iff few, isMatch, List.isEmpty_eq_false_iff.mpr named, Bool.false_or, List.any_eq_true]

end Few

end Text

/-- Add a number to a register of 32 bits, if the sum fits. -/
def registerAdd? (total term : UInt32) : Option UInt32 :=
  if total.toNat + term.toNat < UInt32.size then some (total + term) else none

/-- Numbers added up in a register of 32 bits, one after the other. -/
def registerSum? (terms : List UInt32) : Option UInt32 :=
  terms.foldlM registerAdd? 0

theorem registerAdd?_eq_some_iff {start term total : UInt32} :
    registerAdd? start term = some total ↔ total.toNat = start.toNat + term.toNat := by
  rw [registerAdd?]
  split_ifs with fits
  · rw [Option.some.injEq, ← UInt32.toNat_inj, UInt32.toNat_add, Nat.mod_eq_of_lt fits, eq_comm]
  · have bound : total.toNat < UInt32.size := total.toNat_lt
    exact iff_of_false not_false (by omega)

/-- What is in a register after some steps is what was in it before and the sum of the numbers. -/
theorem foldlM_registerAdd?_eq_some_iff {start total : UInt32} {terms : List UInt32} :
    terms.foldlM registerAdd? start = some total ↔ total.toNat = start.toNat + (terms.map UInt32.toNat).sum := by
  induction terms generalizing start with
  | nil => simp [UInt32.toNat_inj, eq_comm]
  | cons term rest ih =>
    rw [List.foldlM_cons, List.map_cons, List.sum_cons]
    constructor
    · intro added
      obtain ⟨middle, step, later⟩ := Option.bind_eq_some_iff.mp added
      rw [ih.mp later, registerAdd?_eq_some_iff.mp step, Nat.add_assoc]
    · intro equal
      -- The sum fits, so what is added up on the way to it fits as well.
      have bound : total.toNat < UInt32.size := total.toNat_lt
      have fits : start.toNat + term.toNat < UInt32.size := by omega
      have held : (start + term).toNat = start.toNat + term.toNat := by
        rw [UInt32.toNat_add, Nat.mod_eq_of_lt fits]
      refine Option.bind_eq_some_iff.mpr ⟨_, registerAdd?_eq_some_iff.mpr held, ih.mpr ?_⟩
      rw [held, equal, Nat.add_assoc]

/-- A register holds the sum of the numbers unless that does not fit. -/
theorem registerSum?_eq_some_iff {terms : List UInt32} {total : UInt32} :
    registerSum? terms = some total ↔ total.toNat = (terms.map UInt32.toNat).sum := by
  rw [registerSum?, foldlM_registerAdd?_eq_some_iff, UInt32.toNat_zero, Nat.zero_add]

/-- The score of a record if it adds up without starting over, keyword by keyword. -/
def registerScore? (text : String) (record : Record) : Option UInt32 :=
  registerSum? ((keywords text).map (keywordScore record))

theorem registerScore?_eq_some {text : String} (few : (keywords text).length ≤ 3940336) (record : Record) :
    registerScore? text record = some (score text record) := by
  rw [registerScore?, registerSum?_eq_some_iff, toNat_score_of_few few, earned, List.map_map]
  rfl

/-- A text is cut in two between its words. Blanks at the cut may be dropped or stay with a part. -/
def CutBetweenWords (text left right : String) : Prop :=
  ∃ gap : List Char, text.toList = left.toList ++ gap ++ right.toList ∧ isBlankText gap = true ∧
    (gap = [] → ∀ c ∈ left.toList.getLast?, ∀ d ∈ right.toList.head?, isBlank c = true ∨ isBlank d = true)

theorem CutBetweenWords.keywords_eq {text left right : String} (cut : CutBetweenWords text left right) :
    keywords text = keywords left ++ keywords right := by
  obtain ⟨gap, whole, blank, apart⟩ := cut
  have parted : words (left.toList ++ gap ++ right.toList) = words left.toList ++ words right.toList := by
    cases gap with
    | nil => rw [List.append_nil, words_append (apart rfl)]
    | cons d rest =>
      have member := List.all_eq_true.mp blank
      have before : words (left.toList ++ d :: rest) = words left.toList := by
        rw [words_append (by simp [member d]), words_eq_nil_iff.mpr blank, List.append_nil]
      rw [words_append, before]
      intro c last _ _
      refine .inl (member c (List.mem_of_getLast? ?_))
      simpa using last
  rw [keywords, whole, parted, List.map_append, keywords, keywords]

/-- The parts of a text share what it earns. -/
theorem CutBetweenWords.earned_eq {text left right : String} (cut : CutBetweenWords text left right)
    (record : Record) : earned text record = earned left record + earned right record := by
  rw [earned, cut.keywords_eq, List.map_append, List.sum_append, earned, earned]

theorem CutBetweenWords.toNat_score_eq {text left right : String} (cut : CutBetweenWords text left right)
    (few : (keywords text).length ≤ 3940336) (record : Record) :
    (score text record).toNat = (score left record).toNat + (score right record).toNat := by
  have total := congrArg List.length cut.keywords_eq
  rw [List.length_append] at total
  rw [toNat_score_of_few few, toNat_score_of_few (by omega), toNat_score_of_few (by omega), cut.earned_eq]

/-- What the score of a record for a text says. -/
structure Weighs (text : String) (record : Record) : Prop where
  /-- The records that match are those that score. -/
  isMatch_iff : isMatch text record = true ↔ 0 < score text record
  /-- The sum does not overflow at any keyword. -/
  fits : registerScore? text record = some (score text record)
  bounded : (score text record).toNat ≤ 1090 * (keywords text).length
  additive : ∀ left right, CutBetweenWords text left right →
    (score text record).toNat = (score left record).toNat + (score right record).toNat

end Search

namespace Catalog

open Search

variable {text : String} {query : SearchQuery}

/-- What a query for a text ranks is what passes its filters and scores. -/
theorem mem_ranking_iff (catalog : Catalog) (asked : query.text = some text) (named : keywords text ≠ [])
    (few : (keywords text).length ≤ 3940336) {record : Record} : record ∈ catalog.ranking query ↔
      record ∈ catalog.records ∧ query.admits record = true ∧ 0 < score text record := by
  rw [(catalog.ranking_perm query).mem_iff, List.mem_filter, decide_eq_true_eq, SearchQuery.admits_iff,
    ← isMatch_iff_score_pos few named, SearchQuery.Eligible]
  simp [asked, named, and_assoc]

/-- A record that is ranked but not returned falls to the limit: it scores no higher than what is returned. -/
theorem left_out_by_limit (catalog : Catalog) {record : Record} (ranked : record ∈ catalog.ranking query)
    (absent : record ∉ catalog.search query) :
    (catalog.search query).length = query.limit ∧ query.limit < (catalog.ranking query).length ∧
      ∀ returned ∈ catalog.search query, catalog.RanksBefore query returned record := by
  rw [search_eq_take_ranking] at absent ⊢
  have less : query.limit < (catalog.ranking query).length := by
    by_contra beyond
    rw [List.take_of_length_le (not_lt.mp beyond)] at absent
    exact absent ranked
  -- Every returned record stands before the cut, the missing one behind it.
  have later : record ∈ (catalog.ranking query).drop query.limit := by
    rw [← List.take_append_drop query.limit (catalog.ranking query), List.mem_append] at ranked
    exact ranked.resolve_left absent
  have parts := catalog.ranking_pairwise query
  rw [← List.take_append_drop query.limit (catalog.ranking query), List.pairwise_append] at parts
  exact ⟨by rw [List.length_take, min_eq_left less.le], less, fun returned first =>
    parts.2.2 returned first record later⟩

/-- The answer to a query for a text holds records that score, and what scores is left out only by the
limit. -/
structure ReturnsScoring (catalog : Catalog) (query : SearchQuery) (text : String) : Prop where
  scoring : ∀ record ∈ catalog.search query, 0 < score text record
  complete : catalog.size ≤ query.limit → ∀ record ∈ catalog.records, query.admits record = true →
    0 < score text record → record ∈ catalog.search query
  cut : ∀ record ∈ catalog.records, query.admits record = true → 0 < score text record →
    record ∉ catalog.search query → (catalog.search query).length = query.limit ∧
      ∀ returned ∈ catalog.search query, score text record ≤ score text returned

theorem returnsScoring (catalog : Catalog) (asked : query.text = some text) (named : keywords text ≠ [])
    (few : (keywords text).length ≤ 3940336) : catalog.ReturnsScoring query text := by
  have scores (record : Record) : query.score record = score text record := by
    simp [SearchQuery.score, asked]
  refine ⟨?_, ?_, ?_⟩
  · intro record returned
    rw [search_eq_take_ranking] at returned
    exact ((catalog.mem_ranking_iff asked named few).mp (List.mem_of_mem_take returned)).2.2
  · intro wide record member admitted scoring
    have ranked := (catalog.mem_ranking_iff asked named few).mpr ⟨member, admitted, scoring⟩
    have within : (catalog.ranking query).length ≤ query.limit := by
      rw [(catalog.ranking_perm query).length_eq]
      exact (List.length_filter_le _ _).trans wide
    rwa [search_eq_take_ranking, List.take_of_length_le within]
  · intro record member admitted scoring absent
    have ranked := (catalog.mem_ranking_iff asked named few).mpr ⟨member, admitted, scoring⟩
    obtain ⟨full, -, before⟩ := catalog.left_out_by_limit ranked absent
    refine ⟨full, fun returned first => ?_⟩
    rw [← scores record, ← scores returned, UInt32.le_iff_toNat_le]
    rcases before returned first with less | ⟨same, -⟩
    · exact (UInt32.lt_iff_toNat_lt.mp less).le
    · exact (congrArg UInt32.toNat same).ge

/-- Scores and matches agree, and scores add up without overflow. So a search for a text with keywords
returns nothing that does not score, and drops nothing that does. -/
theorem scores_agree_with_matches (named : keywords text ≠ []) (few : (keywords text).length ≤ 3940336) :
    (∀ record, Weighs text record) ∧
      ∀ (catalog : Catalog) (query : SearchQuery), query.text = some text →
        catalog.ReturnsScoring query text := by
  refine ⟨fun record => ?_, fun catalog query asked => catalog.returnsScoring asked named few⟩
  exact {
    isMatch_iff := isMatch_iff_score_pos few named
    fits := registerScore?_eq_some few record
    bounded := toNat_score_of_few few record ▸ earned_le text record
    additive := fun left right cut => cut.toNat_score_eq few record }

/-- A function that two keywords find in several places each. -/
def sampleCircle : Record :=
  { Record.ofDetails "cf_draw_circle" (.function ⟨none, [], none⟩) with
    brief := some "Draws a circle shape"
    category := some "draw" }

theorem scores_agree_with_matches_sampleCircle :
    keywords "Draw  circle" ≠ [] ∧ (keywords "Draw  circle").length ≤ 3940336 ∧
      CutBetweenWords "Draw  circle" "Draw" " circle" ∧ score "Draw" sampleCircle = 180 ∧
      score " circle" sampleCircle = 450 ∧ registerScore? "Draw  circle" sampleCircle = some 630 ∧
      (score "Draw  circle" sampleCircle).toNat =
        (score "Draw" sampleCircle).toNat + (score " circle" sampleCircle).toNat ∧
      0 < score "Draw  circle" sampleCircle ∧
      sampleCircle ∈ (Catalog.ofRecords [sampleCircle]).search (.ofText "Draw  circle") := by
  have named : keywords "Draw  circle" ≠ [] := by decide
  have few : (keywords "Draw  circle").length ≤ 3940336 := by decide
  have cut : CutBetweenWords "Draw  circle" "Draw" " circle" := ⟨[' '], by decide, by decide, by simp⟩
  obtain ⟨weighs, returns⟩ := scores_agree_with_matches named few
  have scoring := (weighs sampleCircle).isMatch_iff.mp (by decide +kernel)
  refine ⟨named, few, cut, by decide +kernel, by decide +kernel, by decide +kernel,
    (weighs sampleCircle).additive _ _ cut, scoring, ?_⟩
  exact (returns (.ofRecords [sampleCircle]) (.ofText "Draw  circle") rfl).complete (by decide) sampleCircle
    (by decide +kernel) rfl scoring

end Catalog

end ApiAtlas
