import ApiAtlas.Text.Find
import ApiAtlas.Text.Lines

/-! # Pieces, words and lines of a text

How a text falls into pieces at separators, and what that means for its words and lines. A text that
is put together from pieces without separators comes apart into the same pieces.
-/

namespace ApiAtlas.Text

variable {isSeparator : Char → Bool}

theorem splitBy_ne_nil (s : List Char) : splitBy isSeparator s ≠ [] := by
  cases s with
  | nil => simp [splitBy]
  | cons c rest =>
    rw [splitBy]
    split
    · simp
    · split <;> simp

theorem splitBy_cons_of_separator {c : Char} (separates : isSeparator c = true) (rest : List Char) :
    splitBy isSeparator (c :: rest) = [] :: splitBy isSeparator rest := by
  simp [splitBy, separates]

theorem splitBy_cons_of_plain {c : Char} (plain : isSeparator c = false) (rest : List Char) :
    ∃ piece pieces, splitBy isSeparator rest = piece :: pieces ∧
      splitBy isSeparator (c :: rest) = (c :: piece) :: pieces := by
  obtain ⟨piece, pieces, split⟩ := List.exists_cons_of_ne_nil (@splitBy_ne_nil isSeparator rest)
  refine ⟨piece, pieces, split, ?_⟩
  simp [splitBy, plain, split]

theorem splitBy_of_free {s : List Char} (free : ∀ c ∈ s, isSeparator c = false) :
    splitBy isSeparator s = [s] := by
  induction s with
  | nil => rfl
  | cons c rest ih =>
    rw [List.forall_mem_cons] at free
    simp [splitBy, free.1, ih free.2]

/-- The first separator ends the first piece. -/
theorem splitBy_append_separator {piece : List Char} {c : Char}
    (free : ∀ d ∈ piece, isSeparator d = false) (separates : isSeparator c = true) (rest : List Char) :
    splitBy isSeparator (piece ++ c :: rest) = piece :: splitBy isSeparator rest := by
  induction piece with
  | nil => exact splitBy_cons_of_separator separates rest
  | cons d more ih =>
    rw [List.forall_mem_cons] at free
    simp [splitBy, free.1, ih free.2]

theorem splitBy_append_of_free {front s first : List Char} {more : List (List Char)}
    (free : ∀ c ∈ front, isSeparator c = false) (split : splitBy isSeparator s = first :: more) :
    splitBy isSeparator (front ++ s) = (front ++ first) :: more := by
  induction front with
  | nil => exact split
  | cons c rest ih =>
    rw [List.forall_mem_cons] at free
    simp [splitBy, free.1, ih free.2]

/-- A separator parts the pieces before it from the pieces after it. -/
theorem splitBy_append_cons {c : Char} (separates : isSeparator c = true)
    (before after : List Char) :
    splitBy isSeparator (before ++ c :: after) = splitBy isSeparator before ++ splitBy isSeparator after := by
  induction before with
  | nil => exact splitBy_cons_of_separator separates after
  | cons d rest ih =>
    cases other : isSeparator d with
    | true =>
      rw [List.cons_append, splitBy_cons_of_separator other, splitBy_cons_of_separator other, ih,
        List.cons_append]
    | false =>
      obtain ⟨piece, pieces, split, whole⟩ := splitBy_cons_of_plain other rest
      simp [splitBy, other, ih, split]

/-- No piece has a separator in it. -/
theorem free_of_mem_splitBy {s piece : List Char} (member : piece ∈ splitBy isSeparator s) :
    ∀ c ∈ piece, isSeparator c = false := by
  induction s generalizing piece with
  | nil =>
    obtain rfl : piece = [] := by simpa [splitBy] using member
    simp
  | cons c rest ih =>
    cases separates : isSeparator c with
    | true =>
      rw [splitBy_cons_of_separator separates] at member
      rcases List.mem_cons.mp member with rfl | member
      · simp
      · exact ih member
    | false =>
      obtain ⟨first, more, split, whole⟩ := splitBy_cons_of_plain separates rest
      rw [whole] at member
      rcases List.mem_cons.mp member with rfl | member
      · rw [List.forall_mem_cons]
        exact ⟨separates, ih (by simp [split])⟩
      · exact ih (by simp [split, member])

/-- A text has no words exactly when it is blank. -/
theorem words_eq_nil_iff {s : List Char} : words s = [] ↔ isBlankText s = true := by
  induction s with
  | nil => simp [words, splitBy, isBlankText]
  | cons c rest ih =>
    cases blank : isBlank c with
    | true =>
      have same : words (c :: rest) = words rest := by
        rw [words, splitBy_cons_of_separator blank]
        rfl
      rw [same, ih]
      simp [isBlankText, blank]
    | false =>
      obtain ⟨piece, pieces, _, split⟩ := splitBy_cons_of_plain blank rest
      simp [words, split, isBlankText, blank]

@[simp]
theorem words_nil : words [] = [] := rfl

theorem intercalate_append_singleton (c : Char) (front : List (List Char)) (last : List Char) :
    [c].intercalate (front ++ [last]) = front.flatMap (· ++ [c]) ++ last := by
  induction front with
  | nil => simp
  | cons piece rest ih =>
    rw [List.cons_append, List.intercalate_cons_of_ne_nil (by simp), ih]
    simp

theorem mem_intercalate {pieces : List (List Char)} {c : Char} (member : c ∈ [' '].intercalate pieces) :
    c = ' ' ∨ ∃ piece ∈ pieces, c ∈ piece := by
  rcases List.eq_nil_or_concat pieces with rfl | ⟨front, last, rfl⟩
  · simp at member
  rw [List.concat_eq_append] at member ⊢
  rw [intercalate_append_singleton, List.mem_append, List.mem_flatMap] at member
  rcases member with ⟨piece, known, inside⟩ | inside
  · rcases List.mem_append.mp inside with inside | space
    · exact .inr ⟨piece, by simp [known], inside⟩
    · exact .inl (by simpa using space)
  · exact .inr ⟨last, by simp, inside⟩

/-- The only blanks among words with single spaces between them are the spaces. -/
theorem not_mem_intercalate {pieces : List (List Char)} {c : Char}
    (free : ∀ piece ∈ pieces, ∀ d ∈ piece, isBlank d = false) (blank : isBlank c = true) (other : c ≠ ' ') :
    c ∉ [' '].intercalate pieces := by
  intro member
  rcases mem_intercalate member with space | ⟨piece, known, inside⟩
  · exact other space
  · simpa [blank] using free piece known c inside

/-- Words are not empty, and no character of a word is blank. -/
theorem proper_of_mem_words {s piece : List Char} (member : piece ∈ words s) :
    piece ≠ [] ∧ ∀ c ∈ piece, isBlank c = false := by
  obtain ⟨inside, filled⟩ := List.mem_filter.mp member
  exact ⟨by simpa using filled, free_of_mem_splitBy inside⟩

/-- A blank after a first word ends it. -/
theorem words_append_blank {word : List Char} {c : Char} (filled : word ≠ [])
    (free : ∀ d ∈ word, isBlank d = false) (blank : isBlank c = true) (rest : List Char) :
    words (word ++ c :: rest) = word :: words rest := by
  rw [words, splitBy_append_separator free blank, List.filter_cons_of_pos (by simpa using filled), words]

/-- A blank parts the words before it from the words after it. -/
theorem words_append_cons {c : Char} (blank : isBlank c = true) (before after : List Char) :
    words (before ++ c :: after) = words before ++ words after := by
  rw [words, splitBy_append_cons blank, List.filter_append, words, words]

/-- A text that is cut beside a blank, or at one of its ends, has the words of its parts. -/
theorem words_append {before after : List Char}
    (apart : ∀ c ∈ before.getLast?, ∀ d ∈ after.head?, isBlank c = true ∨ isBlank d = true) :
    words (before ++ after) = words before ++ words after := by
  cases after with
  | nil => simp [words, splitBy]
  | cons d rest =>
    rcases List.eq_nil_or_concat before with rfl | ⟨front, c, rfl⟩
    · rfl
    rw [List.concat_eq_append] at apart ⊢
    rcases apart c (by simp) d rfl with blank | blank
    · rw [words_append_cons blank front [], List.append_assoc, List.singleton_append,
        words_append_cons blank, words_nil, List.append_nil]
    · rw [words_append_cons blank, ← List.nil_append (d :: rest), words_append_cons blank [], words_nil,
        List.nil_append]

theorem words_trimStart (s : List Char) : words (trimStart s) = words s := by
  induction s with
  | nil => rfl
  | cons c rest ih =>
    cases blank : isBlank c with
    | true =>
      have skipped : trimStart (c :: rest) = trimStart rest := by simp [trimStart, blank]
      rw [skipped, ih, words, words, splitBy_cons_of_separator blank]
      rfl
    | false =>
      have kept : trimStart (c :: rest) = c :: rest := by simp [trimStart, blank]
      rw [kept]

/-- Words with single spaces between them are the words of that text. -/
theorem words_intercalate {pieces : List (List Char)}
    (proper : ∀ piece ∈ pieces, piece ≠ [] ∧ ∀ c ∈ piece, isBlank c = false) :
    words ([' '].intercalate pieces) = pieces := by
  induction pieces with
  | nil => rfl
  | cons piece rest ih =>
    rw [List.forall_mem_cons] at proper
    obtain ⟨⟨filled, free⟩, proper⟩ := proper
    cases rest with
    | nil => simp [words, splitBy_of_free free, filled]
    | cons next more =>
      have tail := ih proper
      rw [words] at tail
      rw [List.intercalate_cons_cons, List.append_assoc, List.singleton_append, words,
        splitBy_append_separator free (by decide),
        List.filter_cons_of_pos (by simpa using filled), tail]

/-- A needle without a character does not reach across that character. -/
theorem infix_append_cons_iff {needle before after : List Char} {c : Char} (absent : c ∉ needle) :
    needle <:+: before ++ c :: after ↔ needle <:+: before ∨ needle <:+: after := by
  constructor
  · intro found
    rcases List.infix_append_iff.mp found with left | right | ⟨front, back, rfl, ending, beginning⟩
    · exact .inl left
    · rcases List.infix_cons_iff.mp right with starts | later
      · cases needle with
        | nil => exact .inl List.nil_infix
        | cons d rest =>
          obtain rfl : d = c := by simpa using (List.cons_prefix_cons.mp starts).1
          simp at absent
      · exact .inr later
    · cases back with
      | nil => exact .inl (by simpa using ending.isInfix)
      | cons d rest =>
        obtain rfl : d = c := by simpa using (List.cons_prefix_cons.mp beginning).1
        simp at absent
  · rintro (left | right)
    · exact List.infix_append_of_infix_left left
    · exact List.infix_append_of_infix_right (List.infix_cons right)

/-- A beginning without a character ends before that character. -/
theorem isPrefix_of_append_cons {needle before after : List Char} {c : Char} (absent : c ∉ needle)
    (starts : needle <+: before ++ c :: after) : needle <+: before := by
  rcases List.prefix_or_prefix_of_prefix starts (List.prefix_append before (c :: after)) with
    inside | ⟨rest, rfl⟩
  · exact inside
  · cases rest with
    | nil => simp
    | cons d more =>
      obtain ⟨rfl, -⟩ := List.cons_prefix_cons.mp ((List.prefix_append_right_inj before).mp starts)
      simp at absent

/-- What no line has in it, closed lines do not have in them, if it does not go over a line end. -/
theorem not_infix_closed_lines {needle : List Char} {ls : List (List Char)} (absent : '\n' ∉ needle)
    (filled : needle ≠ []) (free : ∀ line ∈ ls, ¬needle <:+: line) :
    ¬needle <:+: ls.flatMap (· ++ ['\n']) := by
  induction ls with
  | nil => simpa using filled
  | cons line rest ih =>
    rw [List.forall_mem_cons] at free
    rw [List.flatMap_cons, List.append_assoc, List.singleton_append, infix_append_cons_iff absent, not_or]
    exact ⟨free.1, ih free.2⟩

theorem joinLines_cons_cons (line next : List Char) (more : List (List Char)) :
    joinLines (line :: next :: more) = line ++ '\n' :: joinLines (next :: more) := by
  simp [joinLines, List.intercalate_cons_cons]

@[simp]
theorem joinLines_singleton (line : List Char) : joinLines [line] = line :=
  List.intercalate_singleton

/-- The pieces between line feeds, joined by line feeds. -/
theorem joinLines_splitBy (s : List Char) : joinLines (splitBy (· == '\n') s) = s := by
  induction s with
  | nil => rfl
  | cons c rest ih =>
    obtain ⟨piece, pieces, split⟩ := List.exists_cons_of_ne_nil (@splitBy_ne_nil (· == '\n') rest)
    rw [split] at ih
    cases feed : c == '\n' with
    | true =>
      obtain rfl : c = '\n' := eq_of_beq feed
      have opened := @splitBy_cons_of_separator (· == '\n') '\n' rfl rest
      rw [opened, split, joinLines_cons_cons, ih, List.nil_append]
    | false =>
      have grown := @splitBy_append_of_free (· == '\n') [c] rest piece pieces (by simpa using feed) split
      rw [List.singleton_append] at grown
      rw [grown, ← ih]
      cases pieces with
      | nil => simp
      | cons next more => simp [joinLines_cons_cons]

theorem infix_joinLines {ls : List (List Char)} {line : List Char} (member : line ∈ ls) :
    line <:+: joinLines ls := by
  induction ls with
  | nil => simp at member
  | cons head rest ih =>
    cases rest with
    | nil =>
      obtain rfl : line = head := by simpa using member
      simp
    | cons next more =>
      rw [joinLines_cons_cons]
      rcases List.mem_cons.mp member with rfl | later
      · exact List.infix_append_left
      · exact List.infix_append_of_infix_right (List.infix_cons (ih later))

theorem replaceChar_append (old : Char) (new s t : List Char) :
    replaceChar old new (s ++ t) = replaceChar old new s ++ replaceChar old new t :=
  List.flatMap_append

theorem replaceChar_cons_self (old : Char) (new s : List Char) :
    replaceChar old new (old :: s) = new ++ replaceChar old new s := by
  simp [replaceChar]

theorem replaceChar_of_not_mem {old : Char} {s : List Char} (absent : old ∉ s) (new : List Char) :
    replaceChar old new s = s := by
  induction s with
  | nil => rfl
  | cons c rest ih =>
    rw [List.mem_cons, not_or] at absent
    have other : c ≠ old := fun same => absent.1 same.symm
    have step : replaceChar old new (c :: rest) = c :: replaceChar old new rest := by
      simp [replaceChar, other]
    rw [step, ih absent.2]

theorem not_mem_replaceChar {old : Char} {new : List Char} (absent : old ∉ new) (s : List Char) :
    old ∉ replaceChar old new s := by
  intro member
  obtain ⟨c, -, inside⟩ := List.mem_flatMap.mp member
  split at inside
  · exact absent inside
  · rename_i other
    exact other (List.mem_singleton.mp inside).symm

theorem dropReturn_eq_self {line : List Char} (returnless : line.getLast? ≠ some '\r') :
    dropReturn line = line := by
  simp [dropReturn, returnless]

theorem dropReturn_isPrefix (line : List Char) : dropReturn line <+: line := by
  rw [dropReturn]
  split
  · exact line.dropLast_prefix
  · exact List.prefix_rfl

theorem closeLines_append (closed : List (List Char)) {pieces : List (List Char)} (more : pieces ≠ []) :
    closeLines (closed ++ pieces) = closed.map dropReturn ++ closeLines pieces := by
  induction closed with
  | nil => rfl
  | cons piece rest ih =>
    obtain ⟨next, others, shape⟩ : ∃ next others, rest ++ pieces = next :: others :=
      List.exists_cons_of_ne_nil (by simp [more])
    rw [List.cons_append, shape, closeLines, ← shape, ih]
    · rfl
    · simp

/-- A line feed closes the line before it, and the text after it has lines of its own. -/
theorem lines_append_feed (s t : List Char) :
    lines (s ++ '\n' :: t) = (splitBy (· == '\n') s).map dropReturn ++ lines t := by
  rw [lines, splitBy_append_cons rfl, closeLines_append _ (splitBy_ne_nil t), lines]

theorem splitBy_feed_of_free {line : List Char} (free : '\n' ∉ line) : splitBy (· == '\n') line = [line] := by
  apply splitBy_of_free
  intro c member
  apply beq_false_of_ne
  rintro rfl
  exact free member

theorem lines_of_free {line : List Char} (free : '\n' ∉ line) (filled : line ≠ []) : lines line = [line] := by
  simp [lines, splitBy_feed_of_free free, closeLines, filled]

/-- Texts without line feeds that are closed by them are the lines, up to carriage returns. -/
theorem lines_flatMap_append {closed : List (List Char)} {last : List Char}
    (free : ∀ line ∈ closed, '\n' ∉ line) (lastFree : '\n' ∉ last) (filled : last ≠ []) :
    lines (closed.flatMap (· ++ ['\n']) ++ last) = closed.map dropReturn ++ [last] := by
  induction closed with
  | nil => exact lines_of_free lastFree filled
  | cons line rest ih =>
    rw [List.forall_mem_cons] at free
    rw [List.flatMap_cons, List.append_assoc, List.append_assoc, List.singleton_append, lines_append_feed,
      splitBy_feed_of_free free.1, ih free.2]
    rfl

theorem lines_feed_cons (s : List Char) : lines ('\n' :: s) = [] :: lines s :=
  lines_append_feed [] s

/-- One more character on the first line does not take a line away. -/
theorem length_lines_cons {c : Char} (plain : c ≠ '\n') (s : List Char) :
    0 < (lines (c :: s)).length ∧ (lines s).length ≤ (lines (c :: s)).length := by
  obtain ⟨piece, pieces, split, grown⟩ := @splitBy_cons_of_plain (· == '\n') c (beq_false_of_ne plain) s
  rw [lines, lines, split, grown]
  cases pieces with
  | nil => cases piece <;> simp [closeLines]
  | cons next more => simp [closeLines]

/-- A character other than a line feed stands on one of the lines. -/
theorem lineFeeds_lt_length_lines {c : Char} (plain : c ≠ '\n') (before after : List Char) :
    lineFeeds before < (lines (before ++ c :: after)).length := by
  induction before with
  | nil => exact (length_lines_cons plain after).1
  | cons d rest ih =>
    by_cases feed : d = '\n'
    · subst feed
      rw [List.cons_append, lines_feed_cons, List.length_cons, lineFeeds, List.count_cons_self, ← lineFeeds]
      omega
    · rw [List.cons_append, lineFeeds, List.count_cons_of_ne feed, ← lineFeeds]
      exact Nat.lt_of_lt_of_le ih (length_lines_cons feed _).2

end ApiAtlas.Text
