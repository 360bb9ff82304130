import ApiAtlas.Header.Reader
import ApiAtlas.Proofs.Header.NormalForm

/-! # Where a signature ends

A signature is meant to be the declaration up to its first semicolon or brace. A brace does end it, wherever it
stands, but semicolons are only taken off the end of the line they stand on. So the signature begins with what it is
meant to be, and it is no more than that exactly if nothing comes after the semicolon but further ones and then blanks,
macros and what follows a brace apart. A second declaration or a comment on the same line becomes part of it.
-/

namespace ApiAtlas.Header

open Text

variable {s : List Char}

/-- A declaration up to its first semicolon or brace, as a signature. -/
def soleSignature (declaration : List Char) : List Char :=
  collapse (dropMacros (declaration.takeWhile fun c => c != ';' && c != '{'))

/-- What stands from the first semicolon on, as far as a brace, without macros. -/
def trailing (declaration : List Char) : List Char :=
  dropMacros ((beforeBrace declaration).dropWhile (· != ';'))

/-- A text that only closes a declaration: semicolons, if any, and blanks after them. -/
def IsClosing (s : List Char) : Prop :=
  ∃ marks blanks, s = marks ++ blanks ∧ (∀ c ∈ marks, c = ';') ∧ ∀ c ∈ blanks, isBlank c = true

theorem soleSignature_eq (s : List Char) :
    soleSignature s = trim (squeeze (dropMacros ((beforeBrace s).takeWhile (· != ';')))) := by
  have both : (fun c : Char => c != ';' && c != '{') = fun c => decide ((c != ';') = true ∧ (c != '{') = true) := by
    funext c
    rw [Bool.decide_and, Bool.decide_eq_true, Bool.decide_eq_true]
  rw [soleSignature, collapse, intercalate_words, beforeBrace, List.takeWhile_takeWhile, both]

theorem free_of_marks (mark : ∀ c ∈ s, c = ';') : ∀ c ∈ s, isBlank c = false := by
  intro c member
  rw [mark c member]
  decide

theorem exists_marks (s : List Char) :
    ∃ marks rest, s = marks ++ rest ∧ (∀ c ∈ marks, c = ';') ∧ ∀ c ∈ rest.head?, c ≠ ';' := by
  refine ⟨s.takeWhile (· == ';'), s.dropWhile (· == ';'), List.takeWhile_append_dropWhile.symm, ?_, ?_⟩
  · intro c member
    simpa using List.mem_takeWhile_imp member
  · intro c first
    simpa using head?_dropWhile (· == ';') s c first

/-- What is not blank keeps its beginning. -/
theorem exists_ne_semicolon (filled : isBlankText s = false) (other : ∀ c ∈ s.head?, c ≠ ';') :
    ∃ c ∈ trimEnd (squeeze s), c ≠ ';' := by
  have kept : (trimEnd (squeeze s)).head? = (squeeze s).head? :=
    head?_trimEnd (by rw [isBlankText_squeeze, filled])
  cases shape : squeeze s with
  | nil =>
    rw [squeeze_eq_nil_iff.mp shape] at filled
    contradiction
  | cons c rest =>
    refine ⟨c, List.mem_of_mem_head? ?_, head?_squeeze (by decide) other c (by rw [shape]; rfl)⟩
    rw [← shape, kept, shape]
    rfl

/-- Nothing is left of a closing text but semicolons, and of no other text. -/
theorem isClosing_iff : IsClosing s ↔ ∀ c ∈ trimEnd (squeeze s), c = ';' := by
  constructor
  · rintro ⟨marks, blanks, rfl, mark, blank⟩
    have gap : ∀ c ∈ squeeze blanks, isBlank c = true := by
      rw [← List.all_eq_true, ← isBlankText, isBlankText_squeeze, isBlankText, List.all_eq_true]
      exact blank
    rw [squeeze_append_of_free (free_of_marks mark), trimEnd, dropEndWhile_append_of_pos gap]
    exact fun c member => mark c ((trimEnd_isPrefix marks).subset member)
  · intro closing
    obtain ⟨marks, rest, rfl, mark, other⟩ := exists_marks s
    refine ⟨marks, rest, rfl, mark, ?_⟩
    rw [← List.all_eq_true, ← isBlankText]
    by_contra filled
    rw [Bool.not_eq_true] at filled
    obtain ⟨letter, inside, stops⟩ := List.all_eq_false.mp ((isBlankText_squeeze rest).trans filled)
    obtain ⟨c, member, different⟩ := exists_ne_semicolon filled other
    apply different
    apply closing c
    rw [squeeze_append_of_free (free_of_marks mark), trimEnd,
      dropEndWhile_append_of_exists ⟨letter, inside, by simpa using stops⟩]
    exact List.mem_append_right _ member

theorem isClosing_dropMacros_cons : IsClosing (dropMacros (';' :: s)) ↔ IsClosing (dropMacros s) := by
  rw [dropMacros_cons (by decide), isClosing_iff, isClosing_iff, squeeze_cons_of_letter (by decide),
    ← List.nil_append (';' :: squeeze _), trimEnd_append_cons (by decide), List.nil_append, List.forall_mem_cons]
  exact and_iff_right rfl

theorem not_mem_trimStart_squeeze {before : List Char} (absent : ';' ∉ before) :
    ';' ∉ trimStart (squeeze (dropMacros before)) := by
  intro member
  rcases mem_of_mem_squeeze ((List.dropWhile_sublist isBlank).subset member) with space | kept
  · exact absurd space (by decide)
  · exact absent ((dropMacros_sublist before).subset kept)

theorem dropEndWhile_semicolon_of_not_mem (absent : ';' ∉ s) : dropEndWhile (· == ';') s = s := by
  apply dropEndWhile_eq_self
  intro c last
  apply beq_false_of_ne
  rintro rfl
  exact absent (List.mem_of_mem_getLast? last)

theorem bareDeclaration_of_semicolon {before after : List Char} (split : beforeBrace s = before ++ ';' :: after) :
    bareDeclaration s = squeeze (dropMacros before) ++ ';' :: squeeze (dropMacros after) := by
  rw [bareDeclaration_eq_squeeze, split, dropMacros_append_cons (by decide) (by decide),
    squeeze_append_cons (by decide)]

/-- Where only a closing text comes after the first semicolon, the signature is the declaration up to it. -/
theorem tidyDeclaration_of_closing {before after : List Char} (split : beforeBrace s = before ++ ';' :: after)
    (absent : ';' ∉ before) (closing : IsClosing (dropMacros after)) :
    tidyDeclaration s = trim (squeeze (dropMacros before)) := by
  have marks : ∀ c ∈ ';' :: trimEnd (squeeze (dropMacros after)), (c == ';') = true := by
    rw [List.forall_mem_cons]
    exact ⟨rfl, fun c member => by simpa using isClosing_iff.mp closing c member⟩
  rw [tidyDeclaration_eq, bareDeclaration_of_semicolon split, trim_append_cons (by decide),
    dropEndWhile_append_of_pos marks, dropEndWhile_semicolon_of_not_mem (not_mem_trimStart_squeeze absent), trim]

/-- Where anything else comes, the first semicolon stays, and something after it. -/
theorem tidyDeclaration_of_more {before after : List Char} (split : beforeBrace s = before ++ ';' :: after)
    (more : ¬IsClosing (dropMacros after)) :
    ∃ gap rest, tidyDeclaration s = trim (squeeze (dropMacros before)) ++ (gap ++ ';' :: rest) := by
  rw [isClosing_iff] at more
  push Not at more
  obtain ⟨c, member, other⟩ := more
  have stops : ∃ c ∈ trimEnd (squeeze (dropMacros after)), (c == ';') = false := ⟨c, member, by simpa using other⟩
  obtain ⟨gap, freed, -⟩ : ∃ gap, trimStart (squeeze (dropMacros before)) = trim (squeeze (dropMacros before)) ++ gap ∧
      ∀ c ∈ gap, isBlank c = true := exists_append_dropEndWhile isBlank _
  refine ⟨gap, trimEnd (dropEndWhile (· == ';') (trimEnd (squeeze (dropMacros after)))), ?_⟩
  rw [tidyDeclaration_eq, bareDeclaration_of_semicolon split, trim_append_cons (by decide),
    List.append_cons, dropEndWhile_append_of_exists stops, ← List.append_cons, trimEnd_append_cons (by decide), freed,
    List.append_assoc]

/-- Without a semicolon the signature is the whole declaration. -/
theorem tidyDeclaration_of_free (absent : ';' ∉ beforeBrace s) :
    tidyDeclaration s = trim (squeeze (dropMacros (beforeBrace s))) := by
  have unmarked : ';' ∉ trim (squeeze (dropMacros (beforeBrace s))) := fun inside =>
    not_mem_trimStart_squeeze absent ((trimEnd_isPrefix _).subset inside)
  have ends : trimEnd (trim (squeeze (dropMacros (beforeBrace s)))) = trim (squeeze (dropMacros (beforeBrace s))) :=
    trimEnd_eq_self_iff.mpr (getLast_of_trim_eq_self (trim_trim _))
  rw [tidyDeclaration_eq, bareDeclaration_eq_squeeze, dropEndWhile_semicolon_of_not_mem unmarked, ends]

/-- A signature is the declaration up to its first semicolon or brace, or that and more after a semicolon. -/
theorem tidyDeclaration_cases (s : List Char) :
    IsClosing (trailing s) ∧ tidyDeclaration s = soleSignature s ∨
      ¬IsClosing (trailing s) ∧ ∃ gap rest, tidyDeclaration s = soleSignature s ++ (gap ++ ';' :: rest) := by
  rw [soleSignature_eq, trailing]
  by_cases member : ';' ∈ beforeBrace s
  · obtain ⟨before, after, split, absent⟩ := List.eq_append_cons_of_mem member
    have first : (beforeBrace s).takeWhile (· != ';') = before := by rw [split, takeWhile_bne_append absent]
    have later : (beforeBrace s).dropWhile (· != ';') = ';' :: after := by
      rw [split, dropWhile_run (bne_of_not_mem absent) (by simp)]
    rw [first, later, isClosing_dropMacros_cons]
    by_cases closing : IsClosing (dropMacros after)
    · exact .inl ⟨closing, tidyDeclaration_of_closing split absent closing⟩
    · exact .inr ⟨closing, tidyDeclaration_of_more split closing⟩
  · have whole : (beforeBrace s).takeWhile (· != ';') = beforeBrace s :=
      List.takeWhile_eq_self_iff.mpr (bne_of_not_mem member)
    have none : (beforeBrace s).dropWhile (· != ';') = [] :=
      List.dropWhile_eq_nil_iff.mpr (bne_of_not_mem member)
    rw [whole, none]
    exact .inl ⟨⟨[], [], rfl, by simp, by simp⟩, tidyDeclaration_of_free member⟩

theorem not_mem_soleSignature (s : List Char) : ';' ∉ soleSignature s := by
  have absent : ';' ∉ (beforeBrace s).takeWhile (· != ';') := fun member => by
    simpa using List.mem_takeWhile_imp member
  rw [soleSignature_eq]
  exact fun inside => not_mem_trimStart_squeeze absent ((trimEnd_isPrefix _).subset inside)

/-- The signature of a function as a text, empty if there is none. -/
def shownSignature (function : FunctionDetails) : List Char :=
  function.signature.elim [] String.toList

/-- A function's signature is read from the code after its comment. -/
theorem signature_of_subject? {tags : List Tag} {code : List Char} {name : String} {function : FunctionDetails}
    (documented : subject? tags code = some (name, .function function)) : function.signature = signature? code := by
  unfold subject? at documented
  generalize signature? code = signature at documented ⊢
  split at documented
  · simp only [Option.some.injEq, Prod.mk.injEq, Details.function.injEq] at documented
    rw [← documented.2]
  · split at documented
    · simp at documented
    · simp at documented

theorem shownSignature_of_record? {file : String} {block : Block} {record : Record} {function : FunctionDetails}
    (documented : block.record? file = some record) (details : record.details = .function function) :
    shownSignature function = tidyDeclaration (declaration (trim block.code)) := by
  obtain ⟨⟨name, found⟩, subject, rfl⟩ := Option.map_eq_some_iff.mp documented
  simp only at details
  rw [details] at subject
  rw [shownSignature, signature_of_subject? subject, elim_signature?]

/-- The signature of a function begins with the declaration up to its first semicolon or brace. It is that, and has no
semicolon, exactly if nothing comes after the first semicolon but what closes the declaration. It never has a brace. -/
theorem signature_stops_iff {file : String} {s : List Char} {record : Record} {function : FunctionDetails}
    (member : record ∈ records file s) (details : record.details = .function function) :
    ∃ block ∈ blocks s, block.record? file = some record ∧
      soleSignature (declaration (trim block.code)) <+: shownSignature function ∧ '{' ∉ shownSignature function ∧
      (';' ∉ shownSignature function ↔ IsClosing (trailing (declaration (trim block.code)))) ∧
      (shownSignature function = soleSignature (declaration (trim block.code)) ↔
        IsClosing (trailing (declaration (trim block.code)))) := by
  obtain ⟨block, known, documented⟩ := List.mem_filterMap.mp member
  refine ⟨block, known, documented, ?_⟩
  rw [shownSignature_of_record? documented details]
  have unbraced := not_mem_tidyDeclaration (declaration (trim block.code))
  have unmarked := not_mem_soleSignature (declaration (trim block.code))
  rcases tidyDeclaration_cases (declaration (trim block.code)) with ⟨closing, same⟩ | ⟨more, gap, rest, same⟩
  · rw [same] at unbraced ⊢
    exact ⟨List.prefix_rfl, unbraced, iff_of_true unmarked closing, iff_of_true rfl closing⟩
  · rw [same] at unbraced ⊢
    refine ⟨List.prefix_append _ _, unbraced, iff_of_false (by simp) more, iff_of_false ?_ more⟩
    rw [List.append_right_eq_self]
    simp

/-- A declaration that is closed twice, with a macro after it and a body. -/
def closedHeader : List Char :=
  "/** @function cf_f */\nCF_API int cf_f(void) ;; CF_CALL \x7b return 1; \x7d\n".toList

def closedRecord : Record :=
  { Record.ofDetails "cf_f" (.function ⟨some "int cf_f(void)", [], none⟩) with source := some ⟨"f.h", some 1⟩ }

theorem signature_stops_iff_closedHeader :
    closedRecord ∈ records "f.h" closedHeader ∧ ∃ block ∈ blocks closedHeader,
      block.record? "f.h" = some closedRecord ∧ IsClosing (trailing (declaration (trim block.code))) ∧
      soleSignature (declaration (trim block.code)) = "int cf_f(void)".toList := by
  have member : closedRecord ∈ records "f.h" closedHeader := by decide +kernel
  obtain ⟨block, known, documented, -, -, clean, same⟩ := signature_stops_iff member rfl
  have closing := clean.mp (by decide +kernel)
  exact ⟨member, block, known, documented, closing, (same.mpr closing).symm⟩

/-- A comment after the declaration, on the same line. -/
def commentedHeader : List Char :=
  "/**\n * @function cf_f\n */\nint cf_f(void); // trailing\n".toList

/-- The comment becomes part of the signature, and so does the semicolon. -/
theorem comment_joins_signature :
    records "test.h" commentedHeader = [{ Record.ofDetails "cf_f"
      (.function ⟨some "int cf_f(void); // trailing", [], none⟩) with source := some ⟨"test.h", some 1⟩ }] ∧
      ';' ∈ "int cf_f(void); // trailing".toList :=
  ⟨by decide +kernel, by decide⟩

end ApiAtlas.Header
