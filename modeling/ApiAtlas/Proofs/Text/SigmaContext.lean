import ApiAtlas.Proofs.Text.Trim
import ApiAtlas.Text.Lowercase

/-! # Capital sigmas in context

The lower case of a part of a text is that of the part alone, except for its capital sigmas: these look at the
letters around them, and near an end of the part they look beyond it. A word between blanks is never seen
differently. Any other part is found again in the lower case of every text that it is cut from exactly if its
sigmas are settled within it; otherwise a single letter beside the part hides it.
-/

namespace ApiAtlas.Text

/-- Lower a part of a text that stands between the reversed text `before` and the text `after`. -/
def lowercaseBetween (before part after : List Char) : List Char :=
  match part with
  | [] => []
  | c :: rest =>
    (if c = 'Σ' then [lowerSigma before (rest ++ after)] else lowerChar c) ++
      lowercaseBetween (c :: before) rest after

theorem lowercaseAfter_append (before part after : List Char) :
    lowercaseAfter before (part ++ after) =
      lowercaseBetween before part after ++ lowercaseAfter (part.reverse ++ before) after := by
  induction part generalizing before with
  | nil => rfl
  | cons c rest ih =>
    rw [List.cons_append, lowercaseAfter, ih, lowercaseBetween, List.reverse_cons, List.append_assoc,
      List.append_assoc, List.singleton_append]

theorem lowercaseAfter_eq_between (before part : List Char) :
    lowercaseAfter before part = lowercaseBetween before part [] := by
  have whole := lowercaseAfter_append before part []
  rwa [List.append_nil, lowercaseAfter, List.append_nil] at whole

theorem lowercase_eq_between (part : List Char) : lowercase part = lowercaseBetween [] part [] :=
  lowercaseAfter_eq_between [] part

theorem lowercase_ne_nil {s : List Char} (filled : s ≠ []) : lowercase s ≠ [] := by
  obtain ⟨c, rest, rfl⟩ := List.exists_cons_of_ne_nil filled
  have single : lowerChar c ≠ [] := by
    unfold lowerChar
    split_ifs
    · simp
    · simp
    · split <;> simp
  rw [lowercase, lowercaseAfter]
  split_ifs <;> simp [single]

section Surroundings

variable {before after before' after' part : List Char}

theorem length_lowercaseBetween :
    (lowercaseBetween before part after).length = (lowercaseBetween before' part after').length := by
  induction part generalizing before before' with
  | nil => rfl
  | cons c rest ih =>
    rw [lowercaseBetween, lowercaseBetween, List.length_append, List.length_append, ih]
    split_ifs <;> rfl

/-- Each part of a text adds to the length of its lower case, whatever stands beside it. -/
theorem length_lowercase_append (s t : List Char) :
    (lowercase (s ++ t)).length = (lowercase s).length + (lowercase t).length := by
  have first : (lowercaseBetween [] s t).length = (lowercase s).length := by
    rw [lowercase_eq_between, length_lowercaseBetween]
  have second : (lowercaseAfter (s.reverse ++ []) t).length = (lowercase t).length := by
    rw [lowercaseAfter_eq_between, lowercase_eq_between, length_lowercaseBetween]
  rw [lowercase, lowercaseAfter_append, List.length_append, first, second]

/-- Surroundings show in the sigmas of a part and nowhere else. -/
theorem lowercaseBetween_eq_iff :
    lowercaseBetween before part after = lowercaseBetween before' part after' ↔
      ∀ i, part[i]? = some 'Σ' →
        lowerSigma ((part.take i).reverse ++ before) (part.drop (i + 1) ++ after) =
          lowerSigma ((part.take i).reverse ++ before') (part.drop (i + 1) ++ after') := by
  induction part generalizing before before' with
  | nil => simp [lowercaseBetween]
  | cons c rest ih =>
    rw [← Nat.and_forall_add_one, lowercaseBetween, lowercaseBetween]
    by_cases sigma : c = 'Σ'
    · simp [sigma, ih]
    · simp [sigma, ih]

end Surroundings

/-- Some character of a text is not passed over, so that the look for a letter ends there. -/
def endsLook (s : List Char) : Bool :=
  s.any fun c => !isCaseIgnorable c

theorem meetsCased_append (s t : List Char) :
    meetsCased (s ++ t) = if endsLook s = true then meetsCased s else meetsCased t := by
  induction s with
  | nil => simp [endsLook]
  | cons c rest ih =>
    cases passed : isCaseIgnorable c with
    | true => simpa [meetsCased, endsLook, passed] using ih
    | false => simp [meetsCased, endsLook, passed]

theorem endsLook_of_meetsCased {s : List Char} (cased : meetsCased s = true) : endsLook s = true := by
  by_contra passes
  have nothing := meetsCased_append s []
  rw [if_neg passes, List.append_nil, cased] at nothing
  exact absurd nothing (by decide)

section Blank

variable {before after : List Char} {c : Char}

theorem meetsCased_append_of_quiet (s : List Char) (quiet : meetsCased after = false) :
    meetsCased (s ++ after) = meetsCased s := by
  rw [meetsCased_append]
  split_ifs with ends
  · rfl
  · rw [quiet, eq_comm, Bool.eq_false_iff]
    exact fun cased => ends (endsLook_of_meetsCased cased)

/-- Where no letter is in sight on either side, a part is lowered as if it stood alone. -/
theorem lowercaseBetween_of_quiet (part : List Char) (quietBefore : meetsCased before = false)
    (quietAfter : meetsCased after = false) : lowercaseBetween before part after = lowercase part := by
  rw [lowercase_eq_between, lowercaseBetween_eq_iff]
  intro i _
  rw [lowerSigma, lowerSigma, meetsCased_append_of_quiet _ quietBefore, meetsCased_append_of_quiet _ quietAfter,
    List.append_nil, List.append_nil]

/-- A blank is no letter, and the look for a letter does not pass over it. -/
theorem meetsCased_cons_of_blank (blank : isBlank c = true) (rest : List Char) :
    meetsCased (c :: rest) = false := by
  have plain : ∀ code ∈ blankCodes,
      isCaseIgnorable (Char.ofNat code) = false ∧ isCased (Char.ofNat code) = false := by decide +kernel
  obtain ⟨stops, caseless⟩ := plain c.toNat (mem_blankCodes blank)
  rw [Char.ofNat_toNat] at stops caseless
  simp [meetsCased, stops, caseless]

theorem ne_sigma_of_blank (blank : isBlank c = true) : c ≠ 'Σ' := by
  rintro rfl
  exact absurd blank (by decide)

/-- The lower case of a text falls apart at its blanks. -/
theorem lowercase_append_cons_of_blank (blank : isBlank c = true) (before after : List Char) :
    lowercase (before ++ c :: after) = lowercase before ++ (lowerChar c ++ lowercase after) := by
  rw [lowercase, lowercaseAfter_append, lowercaseAfter, if_neg (ne_sigma_of_blank blank),
    lowercaseAfter_eq_between, lowercaseBetween_of_quiet before rfl (meetsCased_cons_of_blank blank after),
    lowercaseBetween_of_quiet after (meetsCased_cons_of_blank blank _) rfl]

/-- Every word of a text is found in the lower case of the text. -/
theorem lowercase_infix_of_mem_words {word text : List Char} (member : word ∈ words text) :
    lowercase word <:+: lowercase text := by
  -- What has been read since the last blank is kept aside as the beginning of a word.
  suffices grown : ∀ front, (∀ c ∈ front, isBlank c = false) → word ∈ words (front ++ text) →
      lowercase word <:+: lowercase (front ++ text) from grown [] (by simp) member
  have alone {front : List Char} (free : ∀ c ∈ front, isBlank c = false) (listed : word ∈ words front) :
      word = front := by
    rw [words, splitBy_of_free free] at listed
    exact List.mem_singleton.mp (List.mem_of_mem_filter listed)
  clear member
  induction text with
  | nil =>
    intro front free listed
    rw [List.append_nil] at listed ⊢
    obtain rfl := alone free listed
    exact List.infix_rfl
  | cons c rest ih =>
    intro front free listed
    cases blank : isBlank c with
    | true =>
      rw [words_append_cons blank, List.mem_append] at listed
      rw [lowercase_append_cons_of_blank blank]
      rcases listed with first | later
      · rw [alone free first]
        exact List.infix_append_left
      · exact List.infix_append_of_infix_right (List.infix_append_of_infix_right (ih [] (by simp) later))
    | false =>
      have longer : ∀ d ∈ front ++ [c], isBlank d = false := by simpa [or_imp, forall_and, blank] using free
      have joined : front ++ c :: rest = (front ++ [c]) ++ rest := by simp
      rw [joined] at listed ⊢
      exact ih _ longer listed

end Blank

/-- A sigma between the reversed text `before` and the text `after` that nothing around these texts can change: a
letter follows, or what stands before ends the look for one, and is no letter or has its like behind the sigma. -/
def SettledSigma (before after : List Char) : Prop :=
  meetsCased after = true ∨ endsLook before = true ∧ (meetsCased before = false ∨ endsLook after = true)

instance (before after : List Char) : Decidable (SettledSigma before after) :=
  inferInstanceAs (Decidable (_ ∨ _ ∧ _))

section Settled

variable {left right part : List Char} {c : Char}

theorem SettledSigma.lowerSigma_append (settled : SettledSigma left right) (before after : List Char) :
    lowerSigma (left ++ before) (right ++ after) = lowerSigma left right := by
  rw [lowerSigma, lowerSigma, meetsCased_append left, meetsCased_append right]
  rcases settled with follows | ⟨ends, caseless | closed⟩
  · simp [follows, endsLook_of_meetsCased follows]
  · simp [ends, caseless]
  · simp [ends, closed]

/-- A letter on one side changes a sigma that is not settled. -/
theorem lowerSigma_ne_of_not_settled (unsettled : ¬SettledSigma left right) (letter : meetsCased [c] = true) :
    lowerSigma (left ++ [c]) right ≠ lowerSigma left right ∨
      lowerSigma left (right ++ [c]) ≠ lowerSigma left right := by
  rw [SettledSigma, not_or, not_and_or, not_or, Bool.not_eq_true] at unsettled
  obtain ⟨caseless, passes | ⟨cased, passes⟩⟩ := unsettled
  · left
    have before : meetsCased left = false := Bool.eq_false_iff.mpr (mt endsLook_of_meetsCased passes)
    simp [lowerSigma, meetsCased_append left, passes, letter, before, caseless]
  · right
    rw [Bool.not_eq_false] at cased
    simp [lowerSigma, meetsCased_append right, passes, letter, cased, caseless]

/-- The capital sigmas of a text are settled within it. -/
def SettledSigmas (part : List Char) : Prop :=
  ∀ i, part[i]? = some 'Σ' → SettledSigma (part.take i).reverse (part.drop (i + 1))

instance (part : List Char) : Decidable (SettledSigmas part) :=
  decidable_of_iff (∀ i < part.length, part[i]? = some 'Σ' →
      SettledSigma (part.take i).reverse (part.drop (i + 1)))
    ⟨fun settled i sigma => settled i (List.getElem?_eq_some_iff.mp sigma).1 sigma, fun settled i _ => settled i⟩

theorem SettledSigmas.lowercaseBetween_eq (settled : SettledSigmas part) (before after : List Char) :
    lowercaseBetween before part after = lowercase part := by
  rw [lowercase_eq_between, lowercaseBetween_eq_iff]
  intro i sigma
  rw [(settled i sigma).lowerSigma_append, List.append_nil, List.append_nil]

theorem lowercaseBetween_ne_of_not_settled (unsettled : ¬SettledSigmas part) (letter : meetsCased [c] = true) :
    lowercaseBetween [c] part [] ≠ lowercase part ∨ lowercaseBetween [] part [c] ≠ lowercase part := by
  simp only [SettledSigmas, not_forall] at unsettled
  obtain ⟨i, sigma, unsettled⟩ := unsettled
  rw [lowercase_eq_between, ne_eq, ne_eq, lowercaseBetween_eq_iff, lowercaseBetween_eq_iff]
  refine (lowerSigma_ne_of_not_settled unsettled letter).imp ?_ ?_
  · intro differs alike
    exact differs (by simpa using alike i sigma)
  · intro differs alike
    exact differs (by simpa using alike i sigma)

/-- A letter in front hides a text behind another one of its length, unless the text begins with that letter. -/
theorem not_infix_cons {s t : List Char} (same : s.length = t.length) (differs : t ≠ s)
    (first : s.head? ≠ some c) : ¬s <:+: c :: t := by
  rw [List.infix_cons_iff, not_or]
  refine ⟨fun starts => ?_, fun inside => differs (inside.eq_of_length same).symm⟩
  cases s with
  | nil => exact differs (List.length_eq_zero_iff.mp same.symm)
  | cons d rest => exact first (congrArg some (List.cons_prefix_cons.mp starts).1)

theorem not_infix_concat {s t : List Char} (same : s.length = t.length) (differs : t ≠ s)
    (last : s.getLast? ≠ some c) : ¬s <:+: t ++ [c] := by
  rw [← List.reverse_infix, List.reverse_append, List.reverse_singleton, List.singleton_append]
  refine not_infix_cons (by simpa using same) (by simpa using differs) ?_
  rwa [List.head?_reverse]

/-- Of three letters one stands at neither end of a text. -/
theorem exists_letter_apart (first last : Option Char) :
    ∃ c, meetsCased [c] = true ∧ c ≠ 'Σ' ∧ lowerChar c = [c] ∧ first ≠ some c ∧ last ≠ some c := by
  obtain ⟨c, listed, apart⟩ : ∃ c ∈ ['a', 'b', 'c'], first ≠ some c ∧ last ≠ some c := by
    by_contra taken
    have ends : ∀ c ∈ ['a', 'b', 'c'], first = some c ∨ last = some c := by
      intro c listed
      by_contra apart
      exact taken ⟨c, listed, not_or.mp apart⟩
    have a := ends 'a' (by simp)
    have b := ends 'b' (by simp)
    have c := ends 'c' (by simp)
    grind
  have plain : ∀ c ∈ ['a', 'b', 'c'], meetsCased [c] = true ∧ c ≠ 'Σ' ∧ lowerChar c = [c] := by
    simp only [List.forall_mem_cons, List.not_mem_nil, false_imp_iff, implies_true, and_true]
    decide
  obtain ⟨letter, other, lowered⟩ := plain c listed
  exact ⟨c, letter, other, lowered, apart⟩

/-- A part of a text is found in the lower case of every text that it is cut from exactly if its sigmas are
settled. -/
theorem settledSigmas_iff :
    SettledSigmas part ↔ ∀ text, part <:+: text → lowercase part <:+: lowercase text := by
  constructor
  · rintro settled _ ⟨before, after, rfl⟩
    rw [lowercase, lowercase, List.append_assoc, lowercaseAfter_append, lowercaseAfter_append,
      settled.lowercaseBetween_eq]
    exact ⟨_, _, List.append_assoc ..⟩
  · intro found
    by_contra unsettled
    obtain ⟨c, letter, other, lowered, first, last⟩ :=
      exists_letter_apart (lowercase part).head? (lowercase part).getLast?
    have length {before after : List Char} :
        (lowercase part).length = (lowercaseBetween before part after).length := by
      rw [lowercase_eq_between]
      exact length_lowercaseBetween
    rcases lowercaseBetween_ne_of_not_settled unsettled letter with differs | differs
    · apply not_infix_cons length differs first
      have shown := found (c :: part) (List.infix_cons List.infix_rfl)
      rwa [lowercase.eq_1 (c :: part), lowercaseAfter, if_neg other, lowered, lowercaseAfter_eq_between,
        List.singleton_append] at shown
    · apply not_infix_concat length differs last
      have shown := found (part ++ [c]) List.infix_append_left
      rwa [lowercase.eq_1 (part ++ [c]), lowercaseAfter_append, lowercaseAfter, if_neg other, lowered,
        lowercaseAfter, List.append_nil] at shown

end Settled

end ApiAtlas.Text
