import ApiAtlas.Proofs.Search.CopiedText
import Mathlib.Data.List.MinMax

/-! # Covering a query

Scores add up over the keywords, which favours a record that every keyword hits over one that a single keyword
hits. How far that goes is a matter of weights: the weakest hit of a keyword earns ten and the strongest one
thousand and ninety. So a full cover wins for certain only if every keyword that can hit alone is less than one in
a hundred and nine of the keywords, and otherwise two records show the opposite. This is about texts of so few
keywords that no score starts over from zero.
-/

namespace ApiAtlas.Search

open Text

/-- Every keyword of a text occurs in a record. -/
def HitByAll (text : String) (record : Record) : Prop :=
  ∀ keyword ∈ keywords text, keywordOccurs record keyword = true

/-- One keyword of a text occurs in a record and no other one does. The text may repeat the keyword. -/
def HitByOne (text : String) (record : Record) : Prop :=
  ∃ keyword ∈ keywords text, keywordOccurs record keyword = true ∧
    ∀ other ∈ keywords text, keywordOccurs record other = true → other = keyword

/-- Whatever every keyword hits outranks whatever a single keyword hits. -/
def CoverWins (text : String) : Prop :=
  ∀ full single, HitByAll text full → HitByOne text single → score text single < score text full

/-- A keyword that has no other keyword of the text in it, so that it can hit a record alone. -/
def IsLone (text : String) (keyword : List Char) : Prop :=
  keyword ∈ keywords text ∧ ∀ other ∈ keywords text, other <:+: keyword → other = keyword

instance (text : String) : DecidablePred (HitByAll text) := fun _ =>
  inferInstanceAs (Decidable (∀ _ ∈ _, _))

instance (text : String) : DecidablePred (HitByOne text) := fun _ =>
  inferInstanceAs (Decidable (∃ _ ∈ _, _))

section Bounds

variable {text : String} {record : Record} {keyword : List Char}

theorem le_nameScore {name : List Char} (inside : occursIn keyword name = true) :
    10 ≤ (nameScore name keyword).toNat := by
  rw [nameScore]
  split_ifs <;> decide

/-- Remarks are the weakest place for a keyword to occur in. -/
theorem le_keywordScore (occurs : keywordOccurs record keyword = true) :
    10 ≤ (keywordScore record keyword).toNat := by
  have held {field : Option String} {weight : UInt32} (found : fieldContains keyword field = true)
      (least : 10 ≤ weight.toNat) : 10 ≤ (fieldScore keyword field weight).toNat := by
    rwa [fieldScore, if_pos found]
  rw [keywordOccurs, Bool.or_eq_true, Bool.or_eq_true, Bool.or_eq_true] at occurs
  rw [toNat_keywordScore]
  rcases occurs with ((name | brief) | remarks) | category
  · have least := le_nameScore name
    omega
  · have least : 10 ≤ (fieldScore keyword record.brief briefScore).toNat := held brief (by decide)
    omega
  · have least : 10 ≤ (fieldScore keyword record.remarks remarksScore).toNat := held remarks (by decide)
    omega
  · have least : 10 ≤ (fieldScore keyword record.category categoryScore).toNat := held category (by decide)
    omega

theorem le_earned_of_hitByAll (full : HitByAll text record) :
    10 * (keywords text).length ≤ earned text record := by
  have bound : ∀ term ∈ (keywords text).map fun keyword => (keywordScore record keyword).toNat, 10 ≤ term := by
    intro term member
    obtain ⟨keyword, listed, rfl⟩ := List.mem_map.mp member
    exact le_keywordScore (full keyword listed)
  rw [earned]
  simpa [Nat.mul_comm] using List.card_nsmul_le_sum _ 10 bound

/-- From a record that no other keyword hits one keyword earns, as often as the text repeats it. -/
theorem earned_of_hit_alone (alone : ∀ other ∈ keywords text, keywordOccurs record other = true → other = keyword) :
    earned text record = (keywordScore record keyword).toNat * (keywords text).count keyword := by
  rw [earned, List.sum_map_eq_nsmul_single keyword]
  · rw [Nat.mul_comm, nsmul_eq_mul, Nat.cast_id]
    congr!
  · intro other different listed
    by_contra earns
    exact different (alone other listed (keywordScore_pos_iff.mp (Nat.pos_of_ne_zero earns)))

/-- A keyword that hits a record alone has no other keyword in it, since that would hit as well. -/
theorem isLone_of_hit_alone (listed : keyword ∈ keywords text) (occurs : keywordOccurs record keyword = true)
    (alone : ∀ other ∈ keywords text, keywordOccurs record other = true → other = keyword) :
    IsLone text keyword := by
  refine ⟨listed, fun other member inside => alone other member ?_⟩
  obtain ⟨field, searched, found⟩ := keywordOccurs_iff.mp occurs
  exact keywordOccurs_iff.mpr ⟨field, searched, inside.trans found⟩

end Bounds

section Extremes

variable {text word : String} {keyword : List Char}

/-- A record that says one word wherever a search looks. -/
def echo (word : String) : Record :=
  { Record.ofDetails word (.struct []) with brief := some word, remarks := some word, category := some word }

/-- A record that holds a text where it counts least. -/
def remark (text : String) : Record :=
  { Record.ofDetails "" (.struct []) with remarks := some text }

theorem keywordOccurs_echo_iff :
    keywordOccurs (echo word) keyword = true ↔ keyword <:+: lowercase word.toList := by
  simp [keywordOccurs_iff, Record.searchedTexts, echo, Record.ofDetails]

theorem keywordScore_echo : (keywordScore (echo word) (lowercase word.toList)).toNat = 1090 := by
  have held : fieldContains (lowercase word.toList) (some word) = true :=
    occursIn_eq_true_iff.mpr List.infix_rfl
  simp [keywordScore, echo, Record.ofDetails, nameScore, fieldScore, held, exactNameScore, briefScore,
    categoryScore, remarksScore]

theorem hitByAll_remark (text : String) : HitByAll text (remark text) := by
  intro keyword listed
  obtain ⟨word, member, rfl⟩ := List.mem_map.mp listed
  exact keywordOccurs_iff.mpr ⟨text, by simp [Record.searchedTexts, remark], lowercase_infix_of_mem_words member⟩

theorem keywordScore_remark (listed : keyword ∈ keywords text) :
    (keywordScore (remark text) keyword).toNat = 10 := by
  obtain ⟨word, member, rfl⟩ := List.mem_map.mp listed
  have unnamed : (nameScore [] (lowercase word)).toNat = 0 := by
    rw [← Nat.le_zero, ← Nat.not_lt, nameScore_pos_iff]
    simpa [occursIn] using lowercase_ne_nil (proper_of_mem_words member).1
  have held : containsLower (lowercase word) text = true :=
    containsLower_iff.mpr (lowercase_infix_of_mem_words member)
  have name : lowercase (remark text).name.toList = [] := rfl
  rw [toNat_keywordScore, name, unnamed]
  simp [remark, Record.ofDetails, fieldScore, fieldContains, held, remarksScore]

theorem earned_remark (text : String) : earned text (remark text) = 10 * (keywords text).length := by
  rw [earned, List.map_congr_left fun keyword listed => keywordScore_remark listed]
  simp [Nat.mul_comm]

/-- The shortest keyword has no other one in it. -/
theorem exists_isLone (named : keywords text ≠ []) : ∃ keyword, IsLone text keyword := by
  cases shortest : (keywords text).argmin List.length with
  | none => exact absurd (List.argmin_eq_none.mp shortest) named
  | some keyword =>
    refine ⟨keyword, List.argmin_mem shortest, fun other listed inside => ?_⟩
    exact inside.eq_of_length (inside.length_le.antisymm (List.le_of_mem_argmin listed shortest))

end Extremes

/-- A full cover wins exactly if no keyword that can hit alone is as much as one in a hundred and nine of all. -/
theorem coverWins_iff {text : String} (few : (keywords text).length ≤ 3940336) : CoverWins text ↔
    ∀ keyword, IsLone text keyword → 109 * (keywords text).count keyword < (keywords text).length := by
  constructor
  · rintro wins keyword ⟨listed, lone⟩
    obtain ⟨word, -, rfl⟩ := List.mem_map.mp listed
    have alone : ∀ other ∈ keywords text, keywordOccurs (echo (String.ofList word)) other = true →
        other = lowercase word := by
      intro other member occurs
      exact lone other member (by simpa using keywordOccurs_echo_iff.mp occurs)
    have hit : keywordOccurs (echo (String.ofList word)) (lowercase word) = true :=
      keywordOccurs_echo_iff.mpr (by simp)
    have strongest : (keywordScore (echo (String.ofList word)) (lowercase word)).toNat = 1090 := by
      simpa using @keywordScore_echo (String.ofList word)
    have higher := (score_lt_iff few).mp (wins _ _ (hitByAll_remark text) ⟨_, listed, hit, alone⟩)
    rw [earned_remark, earned_of_hit_alone alone, strongest] at higher
    omega
  · rintro rare full single hits ⟨keyword, listed, occurs, alone⟩
    have seldom := rare keyword (isLone_of_hit_alone listed occurs alone)
    rw [score_lt_iff few]
    calc earned text single
      _ = (keywordScore single keyword).toNat * (keywords text).count keyword := earned_of_hit_alone alone
      _ ≤ 1090 * (keywords text).count keyword := Nat.mul_le_mul_right _ (keywordScore_le single keyword)
      _ < 10 * (keywords text).length := by omega
      _ ≤ earned text full := le_earned_of_hitByAll hits

/-- How many keywords it takes for a full cover to win against every single hit, as long as no score starts over from
zero. For each text the keywords that can hit alone decide; if no keyword is repeated, it takes a hundred and ten. -/
theorem full_cover_wins_iff {text : String} (few : (keywords text).length ≤ 3940336) :
    (CoverWins text ↔
      ∀ keyword, IsLone text keyword → 109 * (keywords text).count keyword < (keywords text).length) ∧
    (2 ≤ (keywords text).length → (keywords text).Nodup →
      (CoverWins text ↔ 110 ≤ (keywords text).length)) := by
  refine ⟨coverWins_iff few, fun several distinct => ?_⟩
  have once {keyword : List Char} (lone : IsLone text keyword) : (keywords text).count keyword = 1 :=
    List.count_eq_one_of_mem distinct lone.1
  rw [coverWins_iff few]
  constructor
  · intro rare
    have named : keywords text ≠ [] := List.ne_nil_of_length_pos (by omega)
    obtain ⟨keyword, lone⟩ := exists_isLone named
    have seldom := rare keyword lone
    rw [once lone] at seldom
    omega
  · intro many keyword lone
    rw [once lone]
    omega

/-- As many keywords as it takes, none of them repeated: the pairs of eleven first and ten second letters. -/
def sampleLongText : String :=
  String.ofList ((List.range 110).flatMap fun n => [Char.ofNat (97 + n / 10), Char.ofNat (97 + n % 10), ' '])

theorem codes_sampleLongText : (keywords sampleLongText).map (·.map Char.toNat) =
    (List.range 110).map fun n => [97 + n / 10, 97 + n % 10] := by
  rw [keywords, sampleLongText, String.toList_ofList]
  decide +kernel

theorem nodup_sampleLongText : (keywords sampleLongText).Nodup := by
  apply List.Nodup.of_map (·.map Char.toNat)
  rw [codes_sampleLongText]
  refine List.nodup_range.map fun m n same => ?_
  simp only [List.cons.injEq, Nat.add_left_cancel_iff, and_true] at same
  omega

theorem full_cover_wins_iff_samples :
    2 ≤ (keywords "sprite text").length ∧ (keywords "sprite text").Nodup ∧ ¬CoverWins "sprite text" ∧
      (keywords sampleLongText).length = 110 ∧ (keywords sampleLongText).Nodup ∧ CoverWins sampleLongText := by
  have several : 2 ≤ (keywords "sprite text").length := by decide
  have few : (keywords "sprite text").length ≤ 3940336 := by decide
  have distinct : (keywords "sprite text").Nodup := by decide
  have long : (keywords sampleLongText).length = 110 := by
    simpa using congrArg List.length codes_sampleLongText
  refine ⟨several, distinct, ?_, long, nodup_sampleLongText, ?_⟩
  · intro wins
    exact absurd (((full_cover_wins_iff few).2 several distinct).mp wins) (by decide)
  · exact ((full_cover_wins_iff (by omega)).2 (by omega) nodup_sampleLongText).mpr long.ge

/-- A record whose remarks have both words of a text in them. -/
def sampleCamera : Record :=
  { Record.ofDetails "CF_Camera" (.struct []) with
    remarks := some "Moves the view that sprite and text are drawn in." }

/-- A name that is one of two words outranks remarks with both. -/
theorem exact_name_outranks_full_cover :
    let named := Record.ofDetails "sprite" (.struct [])
    keywords "sprite text" = ["sprite".toList, "text".toList] ∧ HitByAll "sprite text" sampleCamera ∧
      HitByOne "sprite text" named ∧ score "sprite text" sampleCamera = 20 ∧ score "sprite text" named = 1000 ∧
      (Catalog.run [.add sampleCamera, .add named]).search (.ofText "sprite text") = [named, sampleCamera] := by
  exact ⟨by decide, by decide +kernel, by decide +kernel, by decide +kernel, by decide +kernel, by decide +kernel⟩

end ApiAtlas.Search
