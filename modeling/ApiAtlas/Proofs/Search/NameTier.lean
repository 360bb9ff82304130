import ApiAtlas.Proofs.Search.Scoring

/-! # Name tiers

A keyword is a name, begins it, ends it, occurs inside it, or does not occur in it. Only the best of these
counts, and brief, category and remarks together weigh less than what lies between two tiers. So for a text of
one keyword the better tier always scores higher, and no filter or limit of a search can turn that around.
-/

namespace ApiAtlas

open Search Text

/-- What a name can be to a keyword, from the worst to the best. -/
inductive NameTier where
  | absent
  | inside
  | atEnd
  | atStart
  | exact
deriving DecidableEq, Repr

namespace NameTier

/-- The place of a tier, counted from the worst. -/
def rank : NameTier → Nat
  | absent => 0
  | inside => 1
  | atEnd => 2
  | atStart => 3
  | exact => 4

/-- A name reaches a tier for a keyword. Tiers overlap: a name may begin and end with the same keyword. -/
def Reached (name keyword : List Char) : NameTier → Prop
  | absent => True
  | inside => keyword <:+: name
  | atEnd => keyword <:+ name
  | atStart => keyword <+: name
  | exact => name = keyword

instance (name keyword : List Char) : DecidablePred (Reached name keyword)
  | absent => inferInstanceAs (Decidable True)
  | inside => inferInstanceAs (Decidable (keyword <:+: name))
  | atEnd => inferInstanceAs (Decidable (keyword <:+ name))
  | atStart => inferInstanceAs (Decidable (keyword <+: name))
  | exact => inferInstanceAs (Decidable (name = keyword))

/-- The best tier that the name of a record reaches, whatever the case of its letters. -/
structure IsBest (tier : NameTier) (record : Record) (keyword : List Char) : Prop where
  reached : tier.Reached (lowercase record.name.toList) keyword
  best : ∀ other : NameTier, other.Reached (lowercase record.name.toList) keyword → other.rank ≤ tier.rank

/-- What a keyword earns by reaching a tier. -/
def weight : NameTier → UInt32
  | absent => 0
  | inside => nameInsideScore
  | atEnd => nameEndScore
  | atStart => nameStartScore
  | exact => exactNameScore

/-- All that a keyword can earn outside the name is less than the gap between two tiers. -/
theorem weight_gap {lower upper : NameTier} (better : lower.rank < upper.rank) :
    lower.weight.toNat + (briefScore.toNat + categoryScore.toNat + remarksScore.toNat) < upper.weight.toNat := by
  cases lower <;> cases upper <;> revert better <;> decide

variable {tier : NameTier} {record : Record} {keyword : List Char}

/-- The tiers are tried from the best one down. -/
theorem nameScore_eq_first (name keyword : List Char) :
    nameScore name keyword =
      if exact.Reached name keyword then exact.weight
      else if atStart.Reached name keyword then atStart.weight
      else if atEnd.Reached name keyword then atEnd.weight
      else if inside.Reached name keyword then inside.weight
      else absent.weight := by
  refine if_congr Iff.rfl rfl (if_congr ?_ rfl (if_congr ?_ rfl (if_congr ?_ rfl rfl)))
  · exact List.isPrefixOf_iff_prefix
  · exact List.isSuffixOf_iff_suffix
  · exact occursIn_eq_true_iff

theorem IsBest.nameScore_eq (best : tier.IsBest record keyword) :
    nameScore (lowercase record.name.toList) keyword = tier.weight := by
  have refused {other : NameTier} (higher : tier.rank < other.rank) :
      ¬other.Reached (lowercase record.name.toList) keyword :=
    fun reached => absurd (best.best other reached) (not_le.mpr higher)
  have reached := best.reached
  rw [nameScore_eq_first]
  cases tier with
  | exact => rw [if_pos reached]
  | atStart => rw [if_neg (refused (by decide)), if_pos reached]
  | atEnd => rw [if_neg (refused (by decide)), if_neg (refused (by decide)), if_pos reached]
  | inside =>
    rw [if_neg (refused (by decide)), if_neg (refused (by decide)), if_neg (refused (by decide)), if_pos reached]
  | absent =>
    rw [if_neg (refused (by decide)), if_neg (refused (by decide)), if_neg (refused (by decide)),
      if_neg (refused (by decide))]

theorem IsBest.weight_le (best : tier.IsBest record keyword) :
    tier.weight.toNat ≤ (keywordScore record keyword).toNat := by
  rw [toNat_keywordScore, best.nameScore_eq]
  omega

theorem IsBest.keywordScore_le_add (best : tier.IsBest record keyword) :
    (keywordScore record keyword).toNat ≤
      tier.weight.toNat + (briefScore.toNat + categoryScore.toNat + remarksScore.toNat) := by
  have brief := fieldScore_le keyword record.brief briefScore
  have category := fieldScore_le keyword record.category categoryScore
  have remarks := fieldScore_le keyword record.remarks remarksScore
  rw [toNat_keywordScore, best.nameScore_eq]
  omega

/-- A keyword earns more from the record whose name reaches the better tier, whatever else it finds. -/
theorem keywordScore_lt {lower upper : NameTier} {left right : Record} (first : upper.IsBest left keyword)
    (second : lower.IsBest right keyword) (better : lower.rank < upper.rank) :
    (keywordScore right keyword).toNat < (keywordScore left keyword).toNat :=
  calc (keywordScore right keyword).toNat
    _ ≤ lower.weight.toNat + (briefScore.toNat + categoryScore.toNat + remarksScore.toNat) :=
      second.keywordScore_le_add
    _ < upper.weight.toNat := weight_gap better
    _ ≤ (keywordScore left keyword).toNat := first.weight_le

end NameTier

namespace Catalog

/-- One record is returned at an earlier position than another one. -/
def ReturnsBefore (catalog : Catalog) (query : SearchQuery) (left right : Record) : Prop :=
  ∃ i j : Nat, i < j ∧ (catalog.search query)[i]? = some left ∧ (catalog.search query)[j]? = some right

/-- Whatever is ranked and scores higher than a returned record is returned before it. -/
theorem returnsBefore_of_score_lt (catalog : Catalog) {query : SearchQuery} {left right : Record}
    (ranked : left ∈ catalog.ranking query) (returned : right ∈ catalog.search query)
    (higher : query.score right < query.score left) : catalog.ReturnsBefore query left right := by
  rw [search_eq_take_ranking] at returned
  rw [ReturnsBefore, search_eq_take_ranking]
  obtain ⟨j, within, rfl⟩ := List.mem_take_iff_getElem.mp returned
  obtain ⟨i, inside, rfl⟩ := List.mem_iff_getElem.mp ranked
  have ordered := List.pairwise_iff_getElem.mp (catalog.ranking_pairwise query)
  have early : i < j := by
    rcases Nat.lt_trichotomy i j with less | rfl | greater
    · exact less
    · exact absurd higher (UInt32.lt_irrefl _)
    · rcases ordered j i _ inside greater with below | ⟨same, -⟩
      · exact absurd higher (UInt32.lt_asymm below)
      · rw [same] at higher
        exact absurd higher (UInt32.lt_irrefl _)
  refine ⟨i, j, early, ?_, ?_⟩
  · rw [List.getElem?_take_of_lt (by omega), List.getElem?_eq_getElem]
  · rw [List.getElem?_take_of_lt (by omega), List.getElem?_eq_getElem]

/-- For a text of one keyword the tier of the name decides. The record whose name reaches the better tier scores
higher whatever the other fields hold, and it is returned before the other one by every search that
returns that one and whose filters it passes. -/
theorem better_name_tier_wins {text : String} {keyword : List Char} (single : keywords text = [keyword])
    {left right : Record} {upper lower : NameTier} (first : upper.IsBest left keyword)
    (second : lower.IsBest right keyword) (better : lower.rank < upper.rank) :
    score text right < score text left ∧
      ∀ (history : List Operation) (query : SearchQuery), query.text = some text →
        left ∈ (run history).records → query.admits left = true → right ∈ (run history).search query →
          (run history).ReturnsBefore query left right := by
  have few : (keywords text).length ≤ 3940336 := by simp [single]
  have alone (record : Record) : earned text record = (keywordScore record keyword).toNat := by
    simp [earned, single]
  have higher : score text right < score text left := by
    rw [score_lt_iff few, alone, alone]
    exact NameTier.keywordScore_lt first second better
  refine ⟨higher, ?_⟩
  intro history query asked member admitted returned
  have named : keywords text ≠ [] := by simp [single]
  have scoring : 0 < score text left := UInt32.lt_of_le_of_lt UInt32.zero_le higher
  have ranked : left ∈ (run history).ranking query :=
    ((run history).mem_ranking_iff asked named few).mpr ⟨member, admitted, scoring⟩
  apply (run history).returnsBefore_of_score_lt ranked returned
  simpa [SearchQuery.score, asked] using higher

/-- A name that begins and ends with a word found nowhere else in the record. -/
def sampleEcho : Record := .ofDetails "Sprite_to_sprite" (.struct [])

/-- A name that ends with a word found everywhere in the record. -/
def sampleSprite : Record :=
  { Record.ofDetails "cf_sprite" (.struct []) with
    brief := some "A sprite"
    remarks := some "Sprites are cached"
    category := some "sprite" }

theorem better_name_tier_wins_sampleEcho :
    keywords " SPRITE" = ["sprite".toList] ∧ NameTier.atStart.IsBest sampleEcho "sprite".toList ∧
      NameTier.atEnd.IsBest sampleSprite "sprite".toList ∧
      score " SPRITE" sampleSprite = 490 ∧ score " SPRITE" sampleEcho = 500 ∧
      score " SPRITE" sampleSprite < score " SPRITE" sampleEcho ∧
      (run [.add sampleSprite, .add sampleEcho]).ReturnsBefore (.ofText " SPRITE") sampleEcho sampleSprite := by
  have single : keywords " SPRITE" = ["sprite".toList] := by decide
  have start : NameTier.atStart.IsBest sampleEcho "sprite".toList :=
    ⟨by decide, fun other reached => by cases other <;> revert reached <;> decide⟩
  have finish : NameTier.atEnd.IsBest sampleSprite "sprite".toList :=
    ⟨by decide, fun other reached => by cases other <;> revert reached <;> decide⟩
  obtain ⟨higher, before⟩ := better_name_tier_wins single start finish (by decide)
  refine ⟨single, start, finish, by decide +kernel, by decide +kernel, higher, ?_⟩
  exact before [.add sampleSprite, .add sampleEcho] (.ofText " SPRITE") rfl (by decide +kernel) rfl
    (by decide +kernel)

end Catalog

end ApiAtlas
