import ApiAtlas.Header.Signature
import ApiAtlas.Proofs.Text.Squeeze

/-! # Texts without export macros

A text is gone through word by word: an export macro goes together with the blanks after it, every other word stays,
and so does every character outside of words. What stands before a macro is not part of a word, so no two words are
joined and no new macro comes about. The layout of the text does not matter either.
-/

namespace ApiAtlas.Header

open Text

variable {s word rest : List Char} {c : Char}

section Steps

theorem dropMacrosFrom_skip (inWord : Bool) (front rest : List Char) :
    dropMacrosFrom inWord front.length (front ++ rest) =
      dropMacrosFrom ((front.getLast?.map isWord).getD inWord) 0 rest := by
  induction front generalizing inWord with
  | nil => rfl
  | cons c more ih =>
    rw [List.length_cons, List.cons_append, dropMacrosFrom, ih]
    cases more with
    | nil => rfl
    | cons d others => rw [List.getLast?_cons_cons, List.getLast?_cons]; rfl

theorem dropMacrosFrom_cons (outside : isWord c = false) (inWord : Bool) (s : List Char) :
    dropMacrosFrom inWord 0 (c :: s) = c :: dropMacros s := by
  have known : exportMacros.contains [] = false := by decide
  rw [dropMacrosFrom, List.takeWhile_cons_of_neg (by simp [outside]), known, Bool.and_false, outside]
  rfl

/-- Where no word goes on it does not matter what stood before. -/
theorem dropMacrosFrom_of_stop (stops : ∀ c ∈ rest.head?, isWord c = false) (inWord : Bool) :
    dropMacrosFrom inWord 0 rest = dropMacros rest := by
  cases rest with
  | nil => rfl
  | cons c more => rw [dropMacros, dropMacrosFrom_cons (stops c rfl), dropMacrosFrom_cons (stops c rfl)]

theorem dropMacrosFrom_inside (inside : ∀ c ∈ word, isWord c = true) (rest : List Char) :
    dropMacrosFrom true 0 (word ++ rest) = word ++ dropMacrosFrom true 0 rest := by
  induction word with
  | nil => rfl
  | cons c more ih =>
    rw [List.forall_mem_cons] at inside
    rw [List.cons_append, dropMacrosFrom]
    simp [inside.1, ih inside.2]

theorem dropMacros_cons (outside : isWord c = false) (s : List Char) : dropMacros (c :: s) = c :: dropMacros s :=
  dropMacrosFrom_cons outside false s

/-- A whole word stays, or it is a macro and goes with the blanks after it. -/
theorem dropMacros_word (filled : word ≠ []) (inside : ∀ c ∈ word, isWord c = true)
    (stops : ∀ c ∈ rest.head?, isWord c = false) :
    dropMacros (word ++ rest) =
      if word ∈ exportMacros then dropMacros (trimStart rest) else word ++ dropMacros rest := by
  obtain ⟨c, more, rfl⟩ := List.exists_cons_of_ne_nil filled
  have whole : (c :: more ++ rest).takeWhile isWord = c :: more := takeWhile_run inside stops
  have after : (c :: more ++ rest).dropWhile isWord = rest := dropWhile_run inside stops
  rw [List.cons_append] at whole after ⊢
  rw [dropMacros, dropMacrosFrom]
  simp only [whole, after, Bool.not_false, Bool.true_and, List.contains_iff_mem]
  rw [List.forall_mem_cons] at inside
  split_ifs with known
  · have skipped : (c :: more).length + (rest.takeWhile isBlank).length - 1 =
        (more ++ rest.takeWhile isBlank).length := by
      simp only [List.length_cons, List.length_append]
      omega
    have parted : more ++ rest = more ++ rest.takeWhile isBlank ++ trimStart rest := by
      rw [List.append_assoc, trimStart, List.takeWhile_append_dropWhile]
    rw [skipped, parted, dropMacrosFrom_skip]
    rcases List.eq_nil_or_concat (rest.takeWhile isBlank) with none | ⟨gap, blank, shape⟩
    · have kept : trimStart rest = rest := by
        have joined := @List.takeWhile_append_dropWhile _ isBlank rest
        rwa [none, List.nil_append] at joined
      rw [kept, dropMacrosFrom_of_stop stops]
    · have last : isWord blank = false := not_isWord_of_isBlank (List.mem_takeWhile_imp (by rw [shape]; simp))
      rw [shape, List.concat_eq_append, ← List.append_assoc, List.getLast?_concat]
      simp [last, dropMacros]
  · rw [inside.1, dropMacrosFrom_inside inside.2, dropMacrosFrom_of_stop stops, List.cons_append]

/-- Texts are taken apart into words and the characters between them. After a word the text goes on, or what is left
of it when the blanks in front are dropped. -/
@[elab_as_elim]
theorem wordwise_induction {motive : List Char → Prop} (s : List Char) (nil : motive [])
    (other : ∀ c rest, isWord c = false → motive rest → motive (c :: rest))
    (word : ∀ word rest, word ≠ [] → (∀ c ∈ word, isWord c = true) → (∀ c ∈ rest.head?, isWord c = false) →
      motive rest → motive (trimStart rest) → motive (word ++ rest)) : motive s := by
  induction size : s.length using Nat.strong_induction_on generalizing s with
  | _ n ih =>
    subst size
    cases s with
    | nil => exact nil
    | cons c rest =>
      cases inside : isWord c with
      | false => exact other c rest inside (ih rest.length (by simp) rest rfl)
      | true =>
        have filled : (c :: rest).takeWhile isWord ≠ [] := by simp [inside]
        have whole := @List.takeWhile_append_dropWhile _ isWord (c :: rest)
        have stops : ∀ d ∈ ((c :: rest).dropWhile isWord).head?, isWord d = false :=
          head?_dropWhile isWord (c :: rest)
        have shorter : ((c :: rest).dropWhile isWord).length < (c :: rest).length := by
          rw [List.dropWhile_cons_of_pos inside]
          exact Nat.lt_succ_of_le (List.dropWhile_suffix isWord).length_le
        have trimmed : (trimStart ((c :: rest).dropWhile isWord)).length ≤ ((c :: rest).dropWhile isWord).length :=
          (List.dropWhile_suffix isBlank).length_le
        rw [← whole]
        exact word _ _ filled (fun d => List.mem_takeWhile_imp) stops (ih _ shorter _ rfl)
          (ih _ (Nat.lt_of_le_of_lt trimmed shorter) _ rfl)

end Steps

section Laws

theorem dropMacros_sublist (s : List Char) : (dropMacros s).Sublist s := by
  induction s using wordwise_induction with
  | nil => exact .slnil
  | other c rest outside ih =>
    rw [dropMacros_cons outside]
    exact ih.cons_cons c
  | word word rest filled inside stops ih trimmed =>
    rw [dropMacros_word filled inside stops]
    split_ifs
    · exact (trimmed.trans (List.dropWhile_sublist isBlank)).trans (List.sublist_append_right word rest)
    · exact ih.append_left word

/-- A word that stays is not joined to what follows it. -/
theorem head?_dropMacros (stops : ∀ c ∈ rest.head?, isWord c = false) : (dropMacros rest).head? = rest.head? := by
  cases rest with
  | nil => rfl
  | cons c more => rw [dropMacros_cons (stops c rfl), List.head?_cons, List.head?_cons]

/-- A mark that is neither blank nor part of a word parts the text in two. -/
theorem dropMacros_append_cons (outside : isWord c = false) (letter : isBlank c = false) (s t : List Char) :
    dropMacros (s ++ c :: t) = dropMacros s ++ c :: dropMacros t := by
  induction s using wordwise_induction with
  | nil => exact dropMacros_cons outside t
  | other d rest other ih =>
    rw [List.cons_append, dropMacros_cons other, dropMacros_cons other, ih, List.cons_append]
  | word word rest filled inside stops ih trimmed =>
    have later : ∀ d ∈ (rest ++ c :: t).head?, isWord d = false := by
      cases rest with
      | nil => simpa using outside
      | cons d more => simpa using stops
    rw [List.append_assoc, dropMacros_word filled inside later, dropMacros_word filled inside stops,
      trimStart_append_cons letter, trimmed, ih]
    split_ifs
    · rfl
    · rw [List.append_assoc]

/-- A text that does not begin with a blank does not get one in front. -/
theorem startsBlank_dropMacros (s : List Char) (letter : startsBlank s = false) :
    startsBlank (dropMacros s) = false := by
  induction s using wordwise_induction with
  | nil => rfl
  | other c rest outside ih =>
    rw [dropMacros_cons outside]
    exact letter
  | word word rest filled inside stops ih trimmed =>
    rw [dropMacros_word filled inside stops]
    split_ifs
    · apply trimmed
      cases shape : trimStart rest with
      | nil => rfl
      | cons c more =>
        simpa [startsBlank] using dropWhile_isBlank_head rest c (by rw [← trimStart, shape]; rfl)
    · cases word with
      | nil => contradiction
      | cons c more => exact letter

/-- It does not matter whether a text is squeezed before or after its macros are dropped. -/
theorem squeeze_dropMacros (s : List Char) : squeeze (dropMacros s) = dropMacros (squeeze s) := by
  induction s using wordwise_induction with
  | nil => rfl
  | other c rest outside ih =>
    rw [dropMacros_cons outside]
    cases blank : isBlank c with
    | true =>
      have begins : startsBlank (dropMacros rest) = startsBlank rest := by
        cases rest with
        | nil => rfl
        | cons d more =>
          cases gap : isBlank d with
          | true => rw [dropMacros_cons (not_isWord_of_isBlank gap)]; rfl
          | false =>
            have letter : startsBlank (d :: more) = false := gap
            rw [letter, startsBlank_dropMacros _ letter]
      rw [squeeze_cons_of_blank blank, squeeze_cons_of_blank blank, begins, ih]
      split_ifs
      · rfl
      · rw [dropMacros_cons (by decide)]
    | false => rw [squeeze_cons_of_letter blank, squeeze_cons_of_letter blank, dropMacros_cons outside, ih]
  | word word rest filled inside stops ih trimmed =>
    have free : ∀ c ∈ word, isBlank c = false := fun c member => not_isBlank_of_isWord (inside c member)
    rw [squeeze_append_of_free free, dropMacros_word filled inside stops,
      dropMacros_word filled inside (head?_squeeze (by decide) stops), trimStart_squeeze, ← trimmed, ← ih]
    split_ifs
    · rfl
    · exact squeeze_append_of_free free _

end Laws

section WholeWords

/-- The longest runs of word characters. -/
def wholeWords (s : List Char) : List (List Char) :=
  (splitBy (!isWord ·) s).filter fun piece => !piece.isEmpty

theorem wholeWords_append_cons (outside : isWord c = false) (s t : List Char) :
    wholeWords (s ++ c :: t) = wholeWords s ++ wholeWords t := by
  rw [wholeWords, splitBy_append_cons (by simpa using outside), List.filter_append, wholeWords, wholeWords]

theorem wholeWords_cons (outside : isWord c = false) (s : List Char) : wholeWords (c :: s) = wholeWords s :=
  wholeWords_append_cons outside [] s

theorem wholeWords_of_word (filled : word ≠ []) (inside : ∀ c ∈ word, isWord c = true) :
    wholeWords word = [word] := by
  have free : ∀ c ∈ word, (!isWord c) = false := by simpa using inside
  rw [wholeWords, splitBy_of_free free]
  simp [filled]

/-- A text that is cut where a word ends has the words of its parts. -/
theorem wholeWords_append (stops : ∀ c ∈ rest.head?, isWord c = false) (s : List Char) :
    wholeWords (s ++ rest) = wholeWords s ++ wholeWords rest := by
  cases rest with
  | nil => simp [wholeWords, splitBy]
  | cons c more => rw [wholeWords_append_cons (stops c rfl), wholeWords_cons (stops c rfl)]

theorem wholeWords_append_of_outside (outside : ∀ c ∈ s, isWord c = false) (t : List Char) :
    wholeWords (s ++ t) = wholeWords t := by
  induction s with
  | nil => rfl
  | cons c rest ih =>
    rw [List.forall_mem_cons] at outside
    rw [List.cons_append, wholeWords_cons outside.1, ih outside.2]

theorem wholeWords_trimStart (s : List Char) : wholeWords (trimStart s) = wholeWords s := by
  induction s with
  | nil => rfl
  | cons c rest ih =>
    cases blank : isBlank c with
    | true => rw [trimStart_cons_of_blank blank, wholeWords_cons (not_isWord_of_isBlank blank), ih]
    | false => rw [trimStart_eq_self_iff.mpr (by simpa using blank)]

theorem wholeWords_squeeze (s : List Char) : wholeWords (squeeze s) = wholeWords s := by
  induction s using wordwise_induction with
  | nil => rfl
  | other c rest outside ih =>
    rw [wholeWords_cons outside, ← ih]
    cases blank : isBlank c with
    | true => rw [squeeze_cons_trimStart blank, wholeWords_cons (by decide), wholeWords_trimStart]
    | false => rw [squeeze_cons_of_letter blank, wholeWords_cons outside]
  | word word rest filled inside stops ih trimmed =>
    have free : ∀ c ∈ word, isBlank c = false := fun c member => not_isBlank_of_isWord (inside c member)
    rw [squeeze_append_of_free free, wholeWords_append (head?_squeeze (by decide) stops), wholeWords_append stops, ih]

/-- The macros are dropped and no other word: none is lost, joined to another one or made into a macro. -/
theorem wholeWords_dropMacros (s : List Char) :
    wholeWords (dropMacros s) = (wholeWords s).filter (· ∉ exportMacros) := by
  induction s using wordwise_induction with
  | nil => rfl
  | other c rest outside ih => rw [dropMacros_cons outside, wholeWords_cons outside, wholeWords_cons outside, ih]
  | word word rest filled inside stops ih trimmed =>
    have single := wholeWords_of_word filled inside
    rw [dropMacros_word filled inside stops, wholeWords_append stops, List.filter_append, single]
    split_ifs with known
    · rw [trimmed, wholeWords_trimStart]
      simp [known]
    · have later : ∀ c ∈ (dropMacros rest).head?, isWord c = false := by rwa [head?_dropMacros stops]
      rw [wholeWords_append later, single, ih]
      simp [known]

end WholeWords

end ApiAtlas.Header
