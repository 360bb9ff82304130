import ApiAtlas.Text.Word
import ApiAtlas.Proofs.Text.Pieces
import Mathlib.Data.List.Basic
import Mathlib.Data.List.TakeWhile

/-! # Trimming

Trimming looks at the ends of a text only. A text is trimmed already if its first and its last
character are not blank, and blanks that are put around a text do not survive. Beside these laws
stand the two that runs of characters are read by.
-/

namespace ApiAtlas.Text

section Runs

variable {α : Type} {holds : α → Bool} {run rest : List α}

/-- A run ends where the property ends. -/
theorem takeWhile_run (inside : ∀ item ∈ run, holds item = true)
    (stops : ∀ item ∈ rest.head?, holds item = false) : (run ++ rest).takeWhile holds = run := by
  rw [List.takeWhile_append_of_pos inside]
  cases rest with
  | nil => simp
  | cons item more => simp [stops item (by simp)]

theorem dropWhile_run (inside : ∀ item ∈ run, holds item = true)
    (stops : ∀ item ∈ rest.head?, holds item = false) : (run ++ rest).dropWhile holds = rest := by
  rw [List.dropWhile_append_of_pos inside]
  cases rest with
  | nil => rfl
  | cons item more => simp [stops item (by simp)]

theorem head?_dropWhile (holds : α → Bool) (items : List α) :
    ∀ item ∈ (items.dropWhile holds).head?, holds item = false := by
  intro item first
  have stop := List.head?_dropWhile_not holds items
  rw [Option.mem_def.mp first] at stop
  simpa using stop

end Runs

/-- The codes of the blank characters. -/
def blankCodes : List Nat :=
  [9, 10, 11, 12, 13, 0x20, 0x85, 0xA0, 0x1680, 0x2000, 0x2001, 0x2002, 0x2003, 0x2004, 0x2005,
   0x2006, 0x2007, 0x2008, 0x2009, 0x200A, 0x2028, 0x2029, 0x202F, 0x205F, 0x3000]

variable {s t : List Char} {c : Char}

theorem bne_of_not_mem (absent : c ∉ s) : ∀ d ∈ s, (d != c) = true := by
  intro d member
  rw [bne_iff_ne]
  exact ne_of_mem_of_not_mem member absent

theorem takeWhile_bne_append (absent : c ∉ s) (t : List Char) : (s ++ c :: t).takeWhile (· != c) = s :=
  takeWhile_run (bne_of_not_mem absent) (by simp)

theorem mem_blankCodes (blank : isBlank c = true) : c.toNat ∈ blankCodes := by
  simp only [isBlank, Bool.or_eq_true, Bool.and_eq_true, beq_iff_eq, decide_eq_true_eq] at blank
  simp only [blankCodes, List.mem_cons, List.not_mem_nil, or_false]
  omega

/-- No character of a word is blank. -/
theorem not_isBlank_of_isWord (word : isWord c = true) : isBlank c = false := by
  have outside : ∀ code ∈ blankCodes, isWord (Char.ofNat code) = false := by decide +kernel
  apply Bool.eq_false_iff.mpr
  intro blank
  have other := outside c.toNat (mem_blankCodes blank)
  rw [Char.ofNat_toNat, word] at other
  exact absurd other (by decide)

theorem not_isWord_of_isBlank (blank : isBlank c = true) : isWord c = false := by
  apply Bool.eq_false_iff.mpr
  intro word
  rw [not_isBlank_of_isWord word] at blank
  contradiction

theorem trimStart_cons_of_blank (blank : isBlank c = true) (s : List Char) :
    trimStart (c :: s) = trimStart s := by
  simp [trimStart, blank]

theorem trimStart_eq_self_iff : trimStart s = s ↔ ∀ c ∈ s.head?, isBlank c = false := by
  cases s with
  | nil => simp [trimStart]
  | cons c rest =>
    cases blank : isBlank c with
    | true =>
      rw [trimStart_cons_of_blank blank]
      refine iff_of_false ?_ (by simp [blank])
      intro same
      have shorter : (trimStart rest).length ≤ rest.length :=
        (List.dropWhile_suffix isBlank).length_le
      rw [same, List.length_cons] at shorter
      omega
    | false => simp [trimStart, blank]

theorem dropEndWhile_append_of_pos {p : Char → Bool} (inside : ∀ c ∈ t, p c = true) (s : List Char) :
    dropEndWhile p (s ++ t) = dropEndWhile p s := by
  rw [dropEndWhile, List.reverse_append, List.dropWhile_append_of_pos (by simpa using inside), dropEndWhile]

/-- What is dropped at the end does not reach past a character that stays. -/
theorem dropEndWhile_append_cons {p : Char → Bool} (stops : p c = false) (s t : List Char) :
    dropEndWhile p (s ++ c :: t) = s ++ c :: dropEndWhile p t := by
  have kept : (c :: s.reverse).dropWhile p = c :: s.reverse := by simp [stops]
  have mirrored : (t.reverse ++ c :: s.reverse).dropWhile p = t.reverse.dropWhile p ++ c :: s.reverse := by
    rw [List.dropWhile_append, kept]
    split_ifs with nothing
    · rw [List.isEmpty_iff.mp nothing, List.nil_append]
    · rfl
  rw [dropEndWhile, List.reverse_append, List.reverse_cons, List.append_assoc, List.singleton_append, mirrored,
    dropEndWhile]
  simp

theorem dropEndWhile_append_of_exists {p : Char → Bool} (stops : ∃ c ∈ t, p c = false) (s : List Char) :
    dropEndWhile p (s ++ t) = s ++ dropEndWhile p t := by
  obtain ⟨c, member, stop⟩ := stops
  obtain ⟨before, after, rfl⟩ := List.append_of_mem member
  rw [← List.append_assoc, dropEndWhile_append_cons stop, dropEndWhile_append_cons stop, List.append_assoc]

/-- What the end of a text is freed of. -/
theorem exists_append_dropEndWhile (p : Char → Bool) (s : List Char) :
    ∃ rest, s = dropEndWhile p s ++ rest ∧ ∀ c ∈ rest, p c = true := by
  refine ⟨(s.reverse.takeWhile p).reverse, ?_, ?_⟩
  · rw [dropEndWhile, ← List.reverse_append, List.takeWhile_append_dropWhile, List.reverse_reverse]
  · intro c member
    exact List.mem_takeWhile_imp (List.mem_reverse.mp member)

theorem dropEndWhile_eq_self {p : Char → Bool} (stops : ∀ c ∈ s.getLast?, p c = false) :
    dropEndWhile p s = s := by
  rw [dropEndWhile]
  cases reversed : s.reverse with
  | nil => simpa using reversed
  | cons c rest =>
    have last : s.getLast? = some c := by rw [← List.head?_reverse, reversed, List.head?_cons]
    have written : (c :: rest).reverse = s := by rw [← reversed, List.reverse_reverse]
    rw [List.dropWhile_cons_of_neg (by simp [stops c last]), written]

/-- One more character at the end of a text that does not end with it. -/
theorem dropEndWhile_append_self (open_ended : s.getLast? ≠ some c) :
    dropEndWhile (· == c) (s ++ [c]) = s := by
  rw [dropEndWhile_append_of_pos (by simp), dropEndWhile_eq_self]
  intro d last
  apply beq_false_of_ne
  rintro rfl
  exact open_ended last

theorem trimEnd_append_blank (blank : isBlank c = true) (s : List Char) :
    trimEnd (s ++ [c]) = trimEnd s :=
  dropEndWhile_append_of_pos (by simpa using blank) s

theorem trimEnd_eq_self_iff : trimEnd s = s ↔ ∀ c ∈ s.getLast?, isBlank c = false := by
  have mirrored : trimEnd s = s ↔ trimStart s.reverse = s.reverse := by
    rw [trimEnd, dropEndWhile, trimStart, List.reverse_eq_iff]
  rw [mirrored, trimStart_eq_self_iff, List.head?_reverse]

/-- A text is trimmed if it has no blank at either end. -/
theorem trim_eq_self (starts : ∀ c ∈ s.head?, isBlank c = false)
    (ends : ∀ c ∈ s.getLast?, isBlank c = false) : trim s = s := by
  rw [trim, trimStart_eq_self_iff.mpr starts, trimEnd_eq_self_iff.mpr ends]

theorem trim_enclosed {d : Char} (starts : isBlank c = false) (ends : isBlank d = false) (s : List Char) :
    trim (c :: s ++ [d]) = c :: s ++ [d] := by
  apply trim_eq_self
  · simpa using starts
  · rw [List.getLast?_concat]
    simpa using ends

theorem trimStart_append_cons (letter : isBlank c = false) (s t : List Char) :
    trimStart (s ++ c :: t) = trimStart s ++ c :: t := by
  induction s with
  | nil => exact trimStart_eq_self_iff.mpr (by simpa using letter)
  | cons d rest ih =>
    cases blank : isBlank d with
    | true => rw [List.cons_append, trimStart_cons_of_blank blank, trimStart_cons_of_blank blank, ih]
    | false => simp [trimStart, blank]

theorem trimEnd_append_cons (letter : isBlank c = false) (s t : List Char) :
    trimEnd (s ++ c :: t) = s ++ c :: trimEnd t :=
  dropEndWhile_append_cons letter s t

/-- A mark that is not blank parts a text that is trimmed. -/
theorem trim_append_cons (letter : isBlank c = false) (s t : List Char) :
    trim (s ++ c :: t) = trimStart s ++ c :: trimEnd t := by
  rw [trim, trimStart_append_cons letter, trimEnd_append_cons letter]

theorem trim_cons_of_blank (blank : isBlank c = true) (s : List Char) : trim (c :: s) = trim s := by
  rw [trim, trimStart_cons_of_blank blank, trim]

theorem trim_append_of_blank (blank : isBlank c = true) (s : List Char) : trim (s ++ [c]) = trim s := by
  rw [trim, trimStart, List.dropWhile_append]
  split_ifs with exhausted
  · have empty : s.dropWhile isBlank = [] := List.isEmpty_iff.mp exhausted
    simp [trim, trimStart, empty, blank, trimEnd, dropEndWhile]
  · rw [trimEnd_append_blank blank, trim, trimStart]

theorem trimEnd_isPrefix (s : List Char) : trimEnd s <+: s := by
  rw [trimEnd, dropEndWhile, ← List.reverse_suffix, List.reverse_reverse]
  exact List.dropWhile_suffix isBlank

theorem mem_of_mem_trim (member : c ∈ trim s) : c ∈ s :=
  (List.dropWhile_sublist isBlank).subset ((trimEnd_isPrefix _).subset member)

/-- A trimmed text begins with a character that is not blank. -/
theorem head_of_trim_eq_self (trimmed : trim s = s) : ∀ c ∈ s.head?, isBlank c = false := by
  rw [← trimStart_eq_self_iff]
  have shorter : (trim s).length ≤ (trimStart s).length := (trimEnd_isPrefix _).length_le
  rw [trimmed] at shorter
  exact (List.dropWhile_suffix isBlank).eq_of_length_le shorter

/-- A trimmed text ends with a character that is not blank. -/
theorem getLast_of_trim_eq_self (trimmed : trim s = s) : ∀ c ∈ s.getLast?, isBlank c = false := by
  rw [← trimEnd_eq_self_iff]
  rwa [trim, trimStart_eq_self_iff.mpr (head_of_trim_eq_self trimmed)] at trimmed

theorem dropWhile_isBlank_head (s : List Char) : ∀ c ∈ (s.dropWhile isBlank).head?, isBlank c = false :=
  head?_dropWhile isBlank s

@[simp]
theorem trim_trim (s : List Char) : trim (trim s) = trim s := by
  apply trim_eq_self
  · intro c first
    obtain ⟨rest, whole⟩ := trimEnd_isPrefix (trimStart s)
    apply dropWhile_isBlank_head s c
    change c ∈ (trimStart s).head?
    rw [← whole, List.head?_append, show (trimEnd (trimStart s)).head? = some c from first]
    rfl
  · rw [trim, trimEnd, dropEndWhile, List.getLast?_reverse]
    exact dropWhile_isBlank_head _

theorem trimStart_eq_nil_iff : trimStart s = [] ↔ isBlankText s = true := by
  rw [isBlankText, List.all_eq_true, trimStart, List.dropWhile_eq_nil_iff]

theorem trimEnd_eq_nil_iff : trimEnd s = [] ↔ isBlankText s = true := by
  rw [isBlankText, List.all_eq_true, trimEnd, dropEndWhile, List.reverse_eq_nil_iff, List.dropWhile_eq_nil_iff]
  simp

theorem head?_trimEnd (filled : isBlankText s = false) : (trimEnd s).head? = s.head? := by
  obtain ⟨rest, whole⟩ := trimEnd_isPrefix s
  have left : trimEnd s ≠ [] := by
    rw [ne_eq, trimEnd_eq_nil_iff, filled]
    decide
  conv_rhs => rw [← whole, List.head?_append_of_ne_nil _ left]

/-- Nothing is left of a text exactly if it has nothing but blanks. -/
theorem trim_eq_nil_iff : trim s = [] ↔ isBlankText s = true := by
  have settled : trimStart (trimStart s) = trimStart s := trimStart_eq_self_iff.mpr (dropWhile_isBlank_head s)
  rw [trim, trimEnd_eq_nil_iff, ← trimStart_eq_nil_iff, ← trimStart_eq_nil_iff, settled]

theorem trim_of_free (free : ∀ c ∈ s, isBlank c = false) : trim s = s :=
  trim_eq_self (fun c starts => free c (List.mem_of_mem_head? starts))
    fun c ends => free c (List.mem_of_mem_getLast? ends)

/-- Trimmed texts that are joined are a trimmed text. -/
theorem trim_intercalate {pieces : List (List Char)} (trimmed : ∀ piece ∈ pieces, piece ≠ [] ∧ trim piece = piece)
    (c : Char) : trim ([c].intercalate pieces) = [c].intercalate pieces := by
  rcases List.eq_nil_or_concat pieces with rfl | ⟨front, last, rfl⟩
  · rfl
  rw [List.concat_eq_append] at trimmed ⊢
  rw [intercalate_append_singleton]
  obtain ⟨filled, ending⟩ := trimmed last (by simp)
  apply trim_eq_self
  · intro d starts
    cases front with
    | nil => exact head_of_trim_eq_self ending d starts
    | cons first rest =>
      obtain ⟨filled, beginning⟩ := trimmed first (by simp)
      rw [List.flatMap_cons, List.append_assoc, List.append_assoc,
        List.head?_append_of_ne_nil _ filled] at starts
      exact head_of_trim_eq_self beginning d starts
  · intro d ends
    rw [List.getLast?_append_of_ne_nil _ filled] at ends
    exact getLast_of_trim_eq_self ending d ends

/-- Words with single spaces between them have no blanks around them. -/
theorem trim_intercalate_words {pieces : List (List Char)}
    (proper : ∀ piece ∈ pieces, piece ≠ [] ∧ ∀ c ∈ piece, isBlank c = false) :
    trim ([' '].intercalate pieces) = [' '].intercalate pieces :=
  trim_intercalate (fun piece known => ⟨(proper piece known).1, trim_of_free (proper piece known).2⟩) ' '

/-- Trimmed lines, each closed by a line feed, are joined lines with blanks around them. -/
theorem trim_closed_lines {ls : List (List Char)} (trimmed : ∀ line ∈ ls, line ≠ [] ∧ trim line = line) :
    trim ('\n' :: ls.flatMap (· ++ ['\n'])) = joinLines ls := by
  rw [trim_cons_of_blank (by decide), joinLines, ← trim_intercalate trimmed '\n']
  rcases List.eq_nil_or_concat ls with rfl | ⟨front, last, rfl⟩
  · rfl
  · rw [List.concat_eq_append, intercalate_append_singleton, List.flatMap_append,
      List.flatMap_singleton, ← List.append_assoc, trim_append_of_blank (by decide)]

end ApiAtlas.Text
