import ApiAtlas.Text.Lowercase

/-! # Letter case and the lower-case mapping

`Char.toLower` moves the capitals of ASCII and nothing else. The full lower-case mapping cannot tell a
text from the one in which they have been moved: it looks at the letters around a capital sigma, and
letters they stay.
-/

namespace ApiAtlas.Text

/-- What agrees on the two cases of every ASCII letter cannot tell a character from its lower case. -/
theorem toLower_invariant {β : Type} (view : Char → β)
    (letters : ∀ n < 26, view (Char.ofNat (97 + n)) = view (Char.ofNat (65 + n))) (c : Char) :
    view c.toLower = view c := by
  by_cases upper : c.val ≥ 'A'.val ∧ c.val ≤ 'Z'.val
  · have low : 65 ≤ c.toNat := UInt32.le_iff_toNat_le.mp upper.1
    have high : c.toNat ≤ 90 := UInt32.le_iff_toNat_le.mp upper.2
    have lowered : ∀ n < 26, (Char.ofNat (65 + n)).toLower = Char.ofNat (97 + n) := by decide
    obtain ⟨n, small, rfl⟩ : ∃ n < 26, Char.ofNat (65 + n) = c :=
      ⟨c.toNat - 65, by omega, by rw [Nat.add_sub_cancel' low, Char.ofNat_toNat]⟩
    rw [lowered n small, letters n small]
  · exact congrArg view (dif_neg upper)

theorem isCased_toLower (c : Char) : isCased c.toLower = isCased c :=
  toLower_invariant isCased (by decide) c

theorem isCaseIgnorable_toLower (c : Char) : isCaseIgnorable c.toLower = isCaseIgnorable c :=
  toLower_invariant isCaseIgnorable (by decide) c

theorem lowerChar_toLower (c : Char) : lowerChar c.toLower = lowerChar c :=
  toLower_invariant lowerChar (by decide) c

theorem toLower_eq_sigma_iff (c : Char) : c.toLower = 'Σ' ↔ c = 'Σ' := by
  have same : (c.toLower == 'Σ') = (c == 'Σ') := toLower_invariant (· == 'Σ') (by decide) c
  rw [← beq_iff_eq, same, beq_iff_eq]

theorem meetsCased_map_toLower (s : List Char) : meetsCased (s.map Char.toLower) = meetsCased s := by
  induction s with
  | nil => rfl
  | cons c rest ih =>
    rw [meetsCased, meetsCased] at ih ⊢
    cases passed : isCaseIgnorable c with
    | true => simpa [isCaseIgnorable_toLower, passed] using ih
    | false => simp [isCaseIgnorable_toLower, passed, isCased_toLower]

theorem lowerSigma_map_toLower (before after : List Char) :
    lowerSigma (before.map Char.toLower) (after.map Char.toLower) = lowerSigma before after := by
  rw [lowerSigma, lowerSigma, meetsCased_map_toLower, meetsCased_map_toLower]

theorem lowercaseAfter_map_toLower (before s : List Char) :
    lowercaseAfter (before.map Char.toLower) (s.map Char.toLower) = lowercaseAfter before s := by
  -- The letters already passed are carried along because a sigma looks back at them.
  induction s generalizing before with
  | nil => rfl
  | cons c rest ih =>
    have tail := ih (c :: before)
    rw [List.map_cons] at tail
    rw [List.map_cons, lowercaseAfter, lowercaseAfter, tail, lowerSigma_map_toLower, lowerChar_toLower]
    simp only [toLower_eq_sigma_iff]

/-- The lower case of a text does not depend on the case of its ASCII letters. -/
theorem lowercase_map_toLower (s : List Char) : lowercase (s.map Char.toLower) = lowercase s :=
  lowercaseAfter_map_toLower [] s

end ApiAtlas.Text
