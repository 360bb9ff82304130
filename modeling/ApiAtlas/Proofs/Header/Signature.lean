import ApiAtlas.Proofs.Header.Writer
import ApiAtlas.Proofs.Text.Trim
import Mathlib.Data.List.TakeWhile

/-! # Signatures read back

A signature with a semicolon after it is one line, and that line is the declaration of a function: no
export macro has to be dropped from it, no brace ends it, and its words have single spaces between them.
-/

namespace ApiAtlas.Header

open Text

/-- Whether the last character of a text is in a word. -/
def endsInWord (s : List Char) : Bool :=
  s.getLast?.any isWord

theorem endsInWord_append_singleton (s : List Char) (c : Char) : endsInWord (s ++ [c]) = isWord c := by
  simp [endsInWord]

/-- A text without export macros stays as it is; `done` is the part that was already read. -/
theorem dropMacrosFrom_eq_self {done s : List Char} (unmarked : Unmarked (done ++ s)) :
    dropMacrosFrom (endsInWord done) 0 s = s := by
  induction s generalizing done with
  | nil => rfl
  | cons c rest ih =>
    have untouched : (!endsInWord done && exportMacros.contains ((c :: rest).takeWhile isWord)) = false := by
      apply Bool.eq_false_iff.mpr
      intro marked
      rw [Bool.and_eq_true, Bool.not_eq_true', List.contains_iff_mem] at marked
      have whole : done ++ c :: rest =
          done ++ (c :: rest).takeWhile isWord ++ (c :: rest).dropWhile isWord := by
        rw [List.append_assoc, List.takeWhile_append_dropWhile]
      rcases unmarked _ marked.2 done _ whole with ⟨d, last, word⟩ | ⟨d, first, word⟩
      · simp [endsInWord, Option.mem_def.mp last, word] at marked
      · have stop := List.head?_dropWhile_not isWord (c :: rest)
        rw [Option.mem_def.mp first] at stop
        simp [word] at stop
    have next : dropMacrosFrom (isWord c) 0 rest = rest := by
      rw [← endsInWord_append_singleton done c]
      apply ih
      rwa [List.append_assoc, List.singleton_append]
    rw [dropMacrosFrom]
    simp only [untouched, next]
    rfl

theorem Unmarked.append_semicolon {signature : List Char} (unmarked : Unmarked signature) :
    Unmarked (signature ++ [';']) := by
  intro mark known before after whole
  have outside : ';' ∉ mark := by
    have clean : ∀ mark ∈ exportMacros, ';' ∉ mark := by decide
    exact clean mark known
  rcases List.eq_nil_or_concat after with rfl | ⟨front, last, rfl⟩
  · rcases List.eq_nil_or_concat mark with rfl | ⟨start, final, rfl⟩
    · exact absurd known (by decide)
    · rw [List.append_nil, List.concat_eq_append, ← List.append_assoc] at whole
      obtain rfl : ';' = final := by simpa using (List.append_inj' whole rfl).2
      simp at outside
  · rw [List.concat_eq_append, ← List.append_assoc] at whole
    obtain ⟨inner, ending⟩ := List.append_inj' whole rfl
    rcases unmarked mark known before front inner with found | ⟨c, first, word⟩
    · exact .inl found
    · right
      refine ⟨c, ?_, word⟩
      rw [List.concat_eq_append, List.head?_append, Option.mem_def.mp first]
      rfl

/-- The declaration that a signature is written as: its words, the last one with a semicolon. -/
theorem PortableSignature.declaration {signature : List Char} (portable : PortableSignature signature) :
    ∃ pieces : List (List Char),
      (∀ piece ∈ pieces, piece ≠ [] ∧ ∀ c ∈ piece, isBlank c = false) ∧
        signature ++ [';'] = [' '].intercalate pieces := by
  rcases List.eq_nil_or_concat (words signature) with none | ⟨front, last, shape⟩
  · have spaced := portable.spaced
    rw [none] at spaced
    exact absurd spaced.symm portable.filled
  rw [List.concat_eq_append] at shape
  have proper : ∀ piece ∈ front ++ [last], piece ≠ [] ∧ ∀ c ∈ piece, isBlank c = false := by
    rw [← shape]
    exact fun piece member => proper_of_mem_words member
  refine ⟨front ++ [last ++ [';']], ?_, ?_⟩
  · simp only [List.mem_append, List.mem_singleton] at proper ⊢
    rintro piece (known | rfl)
    · exact proper piece (.inl known)
    · refine ⟨by simp, ?_⟩
      intro c member
      rcases List.mem_append.mp member with inside | ending
      · exact (proper last (.inr rfl)).2 c inside
      · rw [List.mem_singleton.mp ending]
        decide
  · rw [← portable.spaced, shape, intercalate_append_singleton, intercalate_append_singleton,
      List.append_assoc]

theorem exists_words_append {word s : List Char} (filled : word ≠ [])
    (free : ∀ c ∈ word, isBlank c = false) : ∃ rest more, words (word ++ s) = (word ++ rest) :: more := by
  obtain ⟨first, more, split⟩ := List.exists_cons_of_ne_nil (@splitBy_ne_nil isBlank s)
  refine ⟨first, more.filter fun piece => !piece.isEmpty, ?_⟩
  rw [words, splitBy_append_of_free free split, List.filter_cons_of_pos (by simp [filled])]

/-- A declaration begins a type only with two words that a signature does not begin with. -/
theorem typed_of_isPrefix {pieces : List (List Char)} {c : Char} {rest word : List Char}
    (proper : ∀ piece ∈ pieces, piece ≠ [] ∧ ∀ c ∈ piece, isBlank c = false)
    (whole : [' '].intercalate pieces = "typedef".toList ++ c :: rest) (blank : isBlank c = true)
    (filled : word ≠ []) (free : ∀ c ∈ word, isBlank c = false) (starts : word <+: trimStart rest) :
    "typedef ".toList ++ word <+: [' '].intercalate pieces := by
  have shape : pieces = "typedef".toList :: words rest := by
    rw [← words_intercalate proper, whole, words_append_blank (by decide) (by simp [isBlank]) blank]
  obtain ⟨tail, ending⟩ := starts
  obtain ⟨front, more, second⟩ := @exists_words_append word tail filled free
  rw [ending, words_trimStart] at second
  rw [shape, second]
  cases more with
  | nil => exact ⟨front, by simp⟩
  | cons next others => exact ⟨front ++ ' ' :: [' '].intercalate (next :: others), by simp⟩

theorem PortableSignature.endsDeclaration_eq {signature : List Char}
    (portable : PortableSignature signature) : endsDeclaration (signature ++ [';']) = false := by
  obtain ⟨pieces, proper, written⟩ := portable.declaration
  have undefined : "#define".toList.isPrefixOf (signature ++ [';']) = false := by
    apply Bool.eq_false_iff.mpr
    intro starts
    exact portable.undefined
      (isPrefix_of_append_cons (by decide) (List.isPrefixOf_iff_prefix.mp starts))
  have untyped : isTypeDefinition (signature ++ [';']) = false := by
    rw [isTypeDefinition]
    split
    · rename_i c rest found
      have whole := afterStart?_eq_some_iff.mp found
      apply Bool.eq_false_iff.mpr
      intro typed
      simp only [Bool.and_eq_true, Bool.or_eq_true, List.isPrefixOf_iff_prefix] at typed
      obtain ⟨blank, structure_ | enumeration⟩ := typed
      · apply portable.untyped.1
        apply @isPrefix_of_append_cons _ _ [] ';' (by decide)
        rw [written] at whole ⊢
        exact @typed_of_isPrefix pieces c rest "struct".toList proper whole blank (by decide)
          (by simp [isBlank]) structure_
      · apply portable.untyped.2
        apply @isPrefix_of_append_cons _ _ [] ';' (by decide)
        rw [written] at whole ⊢
        exact @typed_of_isPrefix pieces c rest "enum".toList proper whole blank (by decide)
          (by simp [isBlank]) enumeration
    · rfl
  rw [endsDeclaration, untyped, undefined]
  rfl

/-- The line of a written signature is the whole declaration. -/
theorem PortableSignature.declarationLines_eq {signature : List Char}
    (portable : PortableSignature signature) :
    declarationLines ((lines (signature ++ [';'])).dropWhile isBlankText) = [signature ++ [';']] := by
  have one_line : lines (signature ++ [';']) = [signature ++ [';']] := by
    have feed : '\n' ∉ signature ++ [';'] := by
      obtain ⟨pieces, proper, written⟩ := portable.declaration
      rw [written]
      exact not_mem_intercalate (fun piece known => (proper piece known).2) (by decide) (by decide)
    exact @lines_flatMap_append [] (signature ++ [';']) (by simp) feed (by simp)
  have filled : isBlankText (signature ++ [';']) = false := by
    rw [isBlankText, List.all_eq_false]
    exact ⟨';', by simp, by decide⟩
  have closes : closesDeclaration (signature ++ [';']) = true := by
    simp [closesDeclaration]
  rw [one_line, List.dropWhile_cons_of_neg (by simp [filled]), declarationLines]
  simp [filled, portable.endsDeclaration_eq, closes]

/-- Tidying a written signature takes the semicolon off and nothing else. -/
theorem PortableSignature.tidyDeclaration_eq {signature : List Char}
    (portable : PortableSignature signature) : tidyDeclaration (signature ++ [';']) = signature := by
  have unmacroed : dropMacros (signature ++ [';']) = signature ++ [';'] :=
    @dropMacrosFrom_eq_self [] _ portable.unmarked.append_semicolon
  have unbraced : beforeBrace (signature ++ [';']) = signature ++ [';'] := by
    rw [beforeBrace, List.takeWhile_eq_self_iff]
    intro c member
    rw [bne_iff_ne]
    rintro rfl
    rcases List.mem_append.mp member with inside | ending
    · exact portable.unbraced inside
    · exact absurd ending (by decide)
  have collapsed : collapse (signature ++ [';']) = signature ++ [';'] := by
    obtain ⟨pieces, proper, written⟩ := portable.declaration
    rw [collapse, written, words_intercalate proper]
  have trimmed : trimEnd signature = signature := by
    have trimmed := trim_intercalate_words fun piece member => @proper_of_mem_words signature piece member
    rw [portable.spaced] at trimmed
    exact trimEnd_eq_self_iff.mpr (getLast_of_trim_eq_self trimmed)
  rw [tidyDeclaration, unmacroed, unbraced, collapsed,
    dropEndWhile_append_self portable.open_ended, trimmed]

/-- A written signature is read back. -/
theorem PortableSignature.signature?_eq {signature : List Char} (portable : PortableSignature signature) :
    signature? (signature ++ [';']) = some (String.ofList signature) := by
  rw [signature?]
  simp only [portable.declarationLines_eq, joinLines_singleton, portable.tidyDeclaration_eq]
  simpa using portable.filled

end ApiAtlas.Header
