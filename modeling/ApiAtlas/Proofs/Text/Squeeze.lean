import ApiAtlas.Proofs.Text.Trim

/-! # Runs of blanks

Squeezing a text makes a single space of every run of blanks, so two texts that are the same once they are squeezed
differ in their layout only. The words of a text with single spaces between them are the squeezed text, trimmed;
what is said of words can so be shown character by character.
-/

namespace ApiAtlas.Text

variable {s t : List Char} {c : Char}

def startsBlank (s : List Char) : Bool :=
  s.head?.any isBlank

/-- Every run of blanks as a single space. -/
def squeeze : List Char → List Char
  | [] => []
  | c :: rest =>
    if isBlank c then
      if startsBlank rest then squeeze rest else ' ' :: squeeze rest
    else c :: squeeze rest

@[simp]
theorem squeeze_nil : squeeze [] = [] := rfl

theorem squeeze_cons_of_letter (letter : isBlank c = false) (s : List Char) : squeeze (c :: s) = c :: squeeze s := by
  simp [squeeze, letter]

theorem squeeze_cons_of_blank (blank : isBlank c = true) (s : List Char) :
    squeeze (c :: s) = if startsBlank s then squeeze s else ' ' :: squeeze s := by
  simp [squeeze, blank]

theorem startsBlank_append_letter (letter : isBlank c = false) (s t : List Char) :
    startsBlank (s ++ c :: t) = startsBlank s := by
  cases s <;> simp [startsBlank, letter]

/-- A letter parts the blanks before it from the blanks after it. -/
theorem squeeze_append_cons (letter : isBlank c = false) (s t : List Char) :
    squeeze (s ++ c :: t) = squeeze s ++ c :: squeeze t := by
  induction s with
  | nil => exact squeeze_cons_of_letter letter t
  | cons d rest ih =>
    cases blank : isBlank d with
    | true =>
      rw [List.cons_append, squeeze_cons_of_blank blank, squeeze_cons_of_blank blank, ih,
        startsBlank_append_letter letter]
      split <;> rfl
    | false => rw [List.cons_append, squeeze_cons_of_letter blank, squeeze_cons_of_letter blank, ih, List.cons_append]

theorem squeeze_append_of_free (free : ∀ c ∈ s, isBlank c = false) (t : List Char) :
    squeeze (s ++ t) = s ++ squeeze t := by
  induction s with
  | nil => rfl
  | cons c rest ih =>
    rw [List.forall_mem_cons] at free
    rw [List.cons_append, squeeze_cons_of_letter free.1, ih free.2, List.cons_append]

@[simp]
theorem startsBlank_squeeze (s : List Char) : startsBlank (squeeze s) = startsBlank s := by
  induction s with
  | nil => rfl
  | cons c rest ih =>
    cases blank : isBlank c with
    | true =>
      rw [squeeze_cons_of_blank blank]
      split
      · rename_i more
        rw [ih, more]
        simp [startsBlank, blank]
      · simp only [startsBlank, List.head?_cons, Option.any_some, blank]
        decide
    | false => rw [squeeze_cons_of_letter blank]; rfl

theorem mem_of_mem_squeeze (member : c ∈ squeeze s) : c = ' ' ∨ c ∈ s := by
  induction s with
  | nil => simp at member
  | cons d rest ih =>
    cases blank : isBlank d with
    | true =>
      rw [squeeze_cons_of_blank blank] at member
      split at member
      · exact (ih member).imp_right (List.mem_cons_of_mem d)
      · rcases List.mem_cons.mp member with space | later
        · exact .inl space
        · exact (ih later).imp_right (List.mem_cons_of_mem d)
    | false =>
      rw [squeeze_cons_of_letter blank] at member
      rcases List.mem_cons.mp member with rfl | later
      · exact .inr (by simp)
      · exact (ih later).imp_right (List.mem_cons_of_mem d)

/-- In a squeezed text every blank is a space, and it stands alone. -/
theorem blank_of_squeeze {before after : List Char} (split : squeeze s = before ++ c :: after)
    (blank : isBlank c = true) : c = ' ' ∧ startsBlank after = false := by
  induction s generalizing before with
  | nil => simp at split
  | cons d rest ih =>
    cases gap : isBlank d with
    | true =>
      rw [squeeze_cons_of_blank gap] at split
      split_ifs at split with more
      · exact ih split
      · cases before with
        | nil =>
          obtain ⟨rfl, rfl⟩ := List.cons.inj split
          exact ⟨rfl, by simpa using more⟩
        | cons e others => exact ih (List.cons.inj split).2
    | false =>
      rw [squeeze_cons_of_letter gap] at split
      cases before with
      | nil =>
        obtain ⟨rfl, -⟩ := List.cons.inj split
        rw [gap] at blank
        contradiction
      | cons e others => exact ih (List.cons.inj split).2

section Layout

/-- Texts that differ in layout still do so with the same text before them. -/
theorem squeeze_append_congr (same : squeeze s = squeeze t) (front : List Char) :
    squeeze (front ++ s) = squeeze (front ++ t) := by
  induction front with
  | nil => exact same
  | cons c rest ih =>
    have begins : startsBlank (rest ++ s) = startsBlank (rest ++ t) := by
      rw [← startsBlank_squeeze, ih, startsBlank_squeeze]
    rw [List.cons_append, List.cons_append, squeeze, squeeze, ih, begins]

/-- A gap is as good as any other gap. -/
theorem squeeze_gap {gap : List Char} (some_blank : gap ≠ []) (blank : ∀ c ∈ gap, isBlank c = true) (s : List Char) :
    squeeze (gap ++ s) = squeeze (' ' :: s) := by
  induction gap with
  | nil => contradiction
  | cons c rest ih =>
    rw [List.forall_mem_cons] at blank
    cases rest with
    | nil => rw [List.singleton_append, squeeze_cons_of_blank blank.1, squeeze_cons_of_blank (by decide)]
    | cons d more =>
      have begins : startsBlank (d :: more ++ s) = true := by simp [startsBlank, blank.2 d (by simp)]
      rw [List.cons_append, squeeze_cons_of_blank blank.1, if_pos begins, ih (by simp) blank.2]

end Layout

theorem trimStart_squeeze (s : List Char) : trimStart (squeeze s) = squeeze (trimStart s) := by
  induction s with
  | nil => rfl
  | cons c rest ih =>
    cases blank : isBlank c with
    | true =>
      rw [squeeze_cons_of_blank blank, trimStart_cons_of_blank blank]
      split
      · exact ih
      · rw [trimStart_cons_of_blank (by decide), ih]
    | false =>
      have kept : trimStart (c :: rest) = c :: rest := trimStart_eq_self_iff.mpr (by simpa using blank)
      rw [kept, squeeze_cons_of_letter blank]
      exact trimStart_eq_self_iff.mpr (by simpa using blank)

theorem squeeze_eq_nil_iff : squeeze s = [] ↔ s = [] := by
  cases s with
  | nil => simp
  | cons c rest =>
    refine iff_of_false ?_ (by simp)
    intro nothing
    have begins := startsBlank_squeeze (c :: rest)
    cases blank : isBlank c with
    | true => simp [nothing, startsBlank, blank] at begins
    | false => simp [squeeze_cons_of_letter blank] at nothing

theorem isBlankText_squeeze (s : List Char) : isBlankText (squeeze s) = isBlankText s := by
  rw [Bool.eq_iff_iff, ← trimStart_eq_nil_iff, ← trimStart_eq_nil_iff, trimStart_squeeze, squeeze_eq_nil_iff]

theorem trim_squeeze_cons_of_blank (blank : isBlank c = true) (s : List Char) :
    trim (squeeze (c :: s)) = trim (squeeze s) := by
  rw [trim, trimStart_squeeze, trimStart_cons_of_blank blank, ← trimStart_squeeze, trim]

/-- A gap and what follows it, squeezed. -/
theorem squeeze_cons_trimStart (blank : isBlank c = true) (s : List Char) :
    squeeze (c :: s) = ' ' :: trimStart (squeeze s) := by
  have gap : ∀ d ∈ c :: s.takeWhile isBlank, isBlank d = true := by
    rw [List.forall_mem_cons]
    exact ⟨blank, fun d => List.mem_takeWhile_imp⟩
  have closed : startsBlank (trimStart s) = false := by
    cases shape : trimStart s with
    | nil => rfl
    | cons d rest =>
      simpa [startsBlank] using dropWhile_isBlank_head s d (by rw [← trimStart, shape]; rfl)
  calc squeeze (c :: s)
    _ = squeeze (c :: s.takeWhile isBlank ++ trimStart s) := by
      rw [List.cons_append, trimStart, List.takeWhile_append_dropWhile]
    _ = squeeze (' ' :: trimStart s) := squeeze_gap (by simp) gap _
    _ = ' ' :: trimStart (squeeze s) := by
      rw [squeeze_cons_of_blank (by decide), closed, trimStart_squeeze]
      rfl

/-- A squeezed text begins with a space or as before. -/
theorem head?_squeeze {p : Char → Prop} (space : p ' ') (first : ∀ d ∈ s.head?, p d) :
    ∀ d ∈ (squeeze s).head?, p d := by
  cases s with
  | nil => simp
  | cons c rest =>
    cases blank : isBlank c with
    | true =>
      rw [squeeze_cons_trimStart blank]
      simpa using space
    | false =>
      rw [squeeze_cons_of_letter blank]
      simpa using first

theorem exists_first_word (letter : isBlank c = false) (s : List Char) :
    ∃ word more, c :: s = word ++ more ∧ word ≠ [] ∧ (∀ d ∈ word, isBlank d = false) ∧
      ∀ d ∈ more.head?, isBlank d = true := by
  refine ⟨(c :: s).takeWhile (!isBlank ·), (c :: s).dropWhile (!isBlank ·),
    List.takeWhile_append_dropWhile.symm, by simp [letter], ?_, ?_⟩
  · intro d member
    simpa using List.mem_takeWhile_imp member
  · intro d first
    simpa using head?_dropWhile (!isBlank ·) (c :: s) d first

/-- A gap and more words after a first word. -/
theorem trim_append_gap {word : List Char} (filled : word ≠ []) (free : ∀ d ∈ word, isBlank d = false)
    (left : trimStart s ≠ []) : trim (word ++ ' ' :: trimStart s) = word ++ ' ' :: trim s := by
  have starts : trimStart (word ++ ' ' :: trimStart s) = word ++ [' '] ++ trimStart s := by
    rw [List.append_assoc, List.singleton_append, trimStart_eq_self_iff, List.head?_append_of_ne_nil _ filled]
    exact fun d first => free d (List.mem_of_mem_head? first)
  obtain ⟨c, rest, shape⟩ := List.exists_cons_of_ne_nil left
  have letter : ∃ d ∈ trimStart s, isBlank d = false :=
    ⟨c, by simp [shape], dropWhile_isBlank_head s c (by rw [← trimStart, shape]; rfl)⟩
  rw [trim, starts, trimEnd, dropEndWhile_append_of_exists letter, ← trimEnd, ← trim, List.append_assoc,
    List.singleton_append]

/-- The words of a text with single spaces between them are the squeezed text without blanks at its ends. -/
theorem intercalate_words (s : List Char) : [' '].intercalate (words s) = trim (squeeze s) := by
  -- A blank in front changes neither side; otherwise a first word is taken off.
  induction size : s.length using Nat.strong_induction_on generalizing s with
  | _ n ih =>
    subst size
    cases s with
    | nil => rfl
    | cons c rest =>
      cases blank : isBlank c with
      | true =>
        have skipped : words (c :: rest) = words rest := words_append_cons blank [] rest
        rw [skipped, trim_squeeze_cons_of_blank blank]
        exact ih rest.length (by simp) rest rfl
      | false =>
        obtain ⟨word, more, whole, filled, free, ends⟩ := exists_first_word blank rest
        rw [whole, squeeze_append_of_free free]
        cases more with
        | nil =>
          have single : words word = [word] := by simp [words, splitBy_of_free free, filled]
          simp [single, trim_of_free free]
        | cons d tail =>
          have gap : isBlank d = true := ends d rfl
          have shorter : tail.length < (c :: rest).length := by
            rw [whole, List.length_append, List.length_cons]
            omega
          have tidied := ih tail.length shorter tail rfl
          rw [words_append_blank filled free gap, squeeze_cons_trimStart gap]
          have last : words tail = [] ↔ trimStart (squeeze tail) = [] := by
            rw [words_eq_nil_iff, trimStart_eq_nil_iff, isBlankText_squeeze]
          by_cases left : trimStart (squeeze tail) = []
          · rw [last.mpr left, left, trim_append_of_blank (by decide), trim_of_free free, List.intercalate_singleton]
          · rw [List.intercalate_cons_of_ne_nil (mt last.mp left), tidied, trim_append_gap filled free left,
              List.append_assoc, List.singleton_append]

end ApiAtlas.Text
