import ApiAtlas.Proofs.Header.Macros
import ApiAtlas.Proofs.Header.Writer

/-! # The normal form of signatures

A signature has no brace, no export macro and no blanks other than single spaces inside it, whatever it is read from.
It is the squeezed declaration up to the brace, without macros and without what the ends are freed of; squeezing goes
before all else, so only the order of words and marks counts and not how they are spread over lines.
-/

namespace ApiAtlas.Header

open Text

variable {s t : List Char} {c : Char}

/-- The text up to a mark, for a function that such a mark parts in two. -/
theorem takeWhile_bne_of_parted {f : List Char → List Char} (parted : ∀ s t, f (s ++ c :: t) = f s ++ c :: f t)
    (kept : ∀ s, c ∉ s → c ∉ f s) (s : List Char) : (f s).takeWhile (· != c) = f (s.takeWhile (· != c)) := by
  by_cases member : c ∈ s
  · obtain ⟨before, after, rfl, absent⟩ := List.eq_append_cons_of_mem member
    rw [parted, takeWhile_bne_append (kept before absent), takeWhile_bne_append absent]
  · rw [List.takeWhile_eq_self_iff.mpr (bne_of_not_mem member),
      List.takeWhile_eq_self_iff.mpr (bne_of_not_mem (kept s member))]

theorem dropMacros_beforeBrace (s : List Char) : beforeBrace (dropMacros s) = dropMacros (beforeBrace s) :=
  takeWhile_bne_of_parted (dropMacros_append_cons (by decide) (by decide))
    (fun s absent member => absent ((dropMacros_sublist s).subset member)) s

theorem squeeze_beforeBrace (s : List Char) : beforeBrace (squeeze s) = squeeze (beforeBrace s) :=
  takeWhile_bne_of_parted (squeeze_append_cons (by decide))
    (fun s absent member => (mem_of_mem_squeeze member).elim (by decide) absent) s

/-- The declaration that a signature is made from, before its ends are freed of blanks and semicolons. -/
def bareDeclaration (declaration : List Char) : List Char :=
  dropMacros (squeeze (beforeBrace declaration))

theorem bareDeclaration_eq_squeeze (s : List Char) : bareDeclaration s = squeeze (dropMacros (beforeBrace s)) :=
  (squeeze_dropMacros _).symm

theorem tidyDeclaration_eq (s : List Char) :
    tidyDeclaration s = trimEnd (dropEndWhile (· == ';') (trim (bareDeclaration s))) := by
  rw [tidyDeclaration, collapse, intercalate_words, dropMacros_beforeBrace, bareDeclaration_eq_squeeze]

/-- A tidied declaration is the bare one without blanks in front and without blanks and semicolons behind. -/
theorem exists_bareDeclaration_eq (s : List Char) : ∃ front back,
    bareDeclaration s = front ++ tidyDeclaration s ++ back ∧ (∀ c ∈ front, isBlank c = true) ∧
      ∀ c ∈ back, isBlank c = true ∨ c = ';' := by
  rw [tidyDeclaration_eq]
  have opened := @List.takeWhile_append_dropWhile _ isBlank (bareDeclaration s)
  obtain ⟨blanks, trimmed, blank⟩ := exists_append_dropEndWhile isBlank (trimStart (bareDeclaration s))
  obtain ⟨semicolons, closed, marks⟩ := exists_append_dropEndWhile (· == ';') (trim (bareDeclaration s))
  obtain ⟨gap, freed, spaces⟩ :=
    exists_append_dropEndWhile isBlank (dropEndWhile (· == ';') (trim (bareDeclaration s)))
  refine ⟨(bareDeclaration s).takeWhile isBlank, gap ++ (semicolons ++ blanks), ?_, ?_, ?_⟩
  · rw [← trimEnd, ← trim] at trimmed
    rw [← trimEnd] at freed
    rw [List.append_assoc, ← List.append_assoc _ gap, ← freed, ← List.append_assoc _ semicolons, ← closed, ← trimmed]
    exact opened.symm
  · exact fun c => List.mem_takeWhile_imp
  · intro c member
    rcases List.mem_append.mp member with space | later
    · exact .inl (spaces c space)
    · rcases List.mem_append.mp later with mark | space
      · exact .inr (by simpa using marks c mark)
      · exact .inl (blank c space)

/-- The words of a tidied declaration are those up to the brace, less the macros. -/
theorem wholeWords_tidyDeclaration (s : List Char) :
    wholeWords (tidyDeclaration s) = (wholeWords (beforeBrace s)).filter (· ∉ exportMacros) := by
  obtain ⟨front, back, parts, blank, ends⟩ := exists_bareDeclaration_eq s
  have before : ∀ c ∈ front, isWord c = false := fun c member => not_isWord_of_isBlank (blank c member)
  have behind : ∀ c ∈ back, isWord c = false := by
    intro c member
    rcases ends c member with space | rfl
    · exact not_isWord_of_isBlank space
    · decide
  have nothing : wholeWords back = [] := by
    have emptied := wholeWords_append_of_outside behind []
    rwa [List.append_nil] at emptied
  calc wholeWords (tidyDeclaration s)
    _ = wholeWords (bareDeclaration s) := by
      rw [parts, List.append_assoc, wholeWords_append_of_outside before,
        wholeWords_append fun c first => behind c (List.mem_of_mem_head? first), nothing, List.append_nil]
    _ = (wholeWords (beforeBrace s)).filter (· ∉ exportMacros) := by
      rw [bareDeclaration, wholeWords_dropMacros, wholeWords_squeeze]

theorem exportMacro_isWord : ∀ mark ∈ exportMacros, mark ≠ [] ∧ mark.all isWord = true := by
  decide

/-- A macro stands as a whole word only where it is one of the words. -/
theorem unmarked_of_wholeWords (absent : ∀ mark ∈ exportMacros, mark ∉ wholeWords s) : Unmarked s := by
  intro mark known before after whole
  by_contra apart
  simp only [not_or, not_exists, not_and, Bool.not_eq_true] at apart
  obtain ⟨starts, stops⟩ := apart
  obtain ⟨filled, inside⟩ := exportMacro_isWord mark known
  rw [List.all_eq_true] at inside
  have marked : mark ∈ wholeWords (mark ++ after) := by
    rw [wholeWords_append stops, wholeWords_of_word filled inside]
    simp
  apply absent mark known
  rw [whole, List.append_assoc]
  rcases List.eq_nil_or_concat before with rfl | ⟨front, c, rfl⟩
  · exact marked
  · have outside : isWord c = false := starts c (by simp)
    rw [List.concat_eq_append, List.append_assoc, List.singleton_append, wholeWords_append_cons outside]
    exact List.mem_append_right _ marked

/-- The only blanks of a text are single spaces between other characters. -/
def SingleSpaced (s : List Char) : Prop :=
  ∀ before c after, s = before ++ c :: after → isBlank c = true →
    c = ' ' ∧ (∃ d ∈ before.getLast?, isBlank d = false) ∧ ∃ d ∈ after.head?, isBlank d = false

theorem head?_tidyDeclaration (s : List Char) : ∀ c ∈ (tidyDeclaration s).head?, isBlank c = false := by
  intro c first
  rw [tidyDeclaration_eq] at first
  obtain ⟨semicolons, closed, -⟩ := exists_append_dropEndWhile (· == ';') (trim (bareDeclaration s))
  obtain ⟨gap, freed, -⟩ := exists_append_dropEndWhile isBlank (dropEndWhile (· == ';') (trim (bareDeclaration s)))
  apply head_of_trim_eq_self (trim_trim (bareDeclaration s))
  rw [closed, freed, ← trimEnd, List.append_assoc, List.head?_append, Option.mem_def.mp first]
  rfl

theorem getLast?_tidyDeclaration (s : List Char) : ∀ c ∈ (tidyDeclaration s).getLast?, isBlank c = false := by
  rw [tidyDeclaration_eq, trimEnd, dropEndWhile, List.getLast?_reverse]
  exact dropWhile_isBlank_head _

theorem singleSpaced_tidyDeclaration (s : List Char) : SingleSpaced (tidyDeclaration s) := by
  obtain ⟨front, back, parts, -, -⟩ := exists_bareDeclaration_eq s
  rw [bareDeclaration_eq_squeeze] at parts
  intro before c after split blank
  have starts := head?_tidyDeclaration s
  have ends := getLast?_tidyDeclaration s
  rw [split] at parts starts ends
  have here : squeeze (dropMacros (beforeBrace s)) = front ++ before ++ c :: (after ++ back) := by
    rw [parts]
    simp
  obtain ⟨space, alone⟩ := blank_of_squeeze here blank
  refine ⟨space, ?_, ?_⟩
  · rcases List.eq_nil_or_concat before with rfl | ⟨others, d, rfl⟩
    · simp [blank] at starts
    · refine ⟨d, by simp, ?_⟩
      -- A blank before this one would have a blank after it.
      apply Bool.eq_false_iff.mpr
      intro double
      have earlier : squeeze (dropMacros (beforeBrace s)) = front ++ others ++ d :: (c :: (after ++ back)) := by
        rw [here]
        simp
      have next := (blank_of_squeeze earlier double).2
      simp [startsBlank, blank] at next
  · cases after with
    | nil => simp [blank] at ends
    | cons d more => exact ⟨d, rfl, by simpa [startsBlank] using alone⟩

/-- What a signature is like. -/
structure NormalForm (signature : List Char) : Prop where
  filled : signature ≠ []
  unbraced : '{' ∉ signature
  unmarked : Unmarked signature
  spaced : SingleSpaced signature

theorem not_mem_tidyDeclaration (s : List Char) : '{' ∉ tidyDeclaration s := by
  intro member
  obtain ⟨front, back, parts, -, -⟩ := exists_bareDeclaration_eq s
  have inside : '{' ∈ bareDeclaration s := by simp [parts, member]
  rcases mem_of_mem_squeeze ((dropMacros_sublist _).subset inside) with space | kept
  · exact absurd space (by decide)
  · simpa using List.mem_takeWhile_imp kept

theorem normalForm_tidyDeclaration (filled : tidyDeclaration s ≠ []) : NormalForm (tidyDeclaration s) := by
  refine ⟨filled, not_mem_tidyDeclaration s, unmarked_of_wholeWords ?_, singleSpaced_tidyDeclaration s⟩
  intro mark known member
  rw [wholeWords_tidyDeclaration] at member
  simp [known] at member

/-- The declaration that the code after a comment begins with. -/
def declaration (code : List Char) : List Char :=
  joinLines (declarationLines ((lines code).dropWhile isBlankText))

theorem signature?_eq (code : List Char) :
    signature? code = if (tidyDeclaration (declaration code)).isEmpty then none
      else some (String.ofList (tidyDeclaration (declaration code))) :=
  rfl

theorem toList_of_signature? {code : List Char} {signature : String} (found : signature? code = some signature) :
    signature.toList = tidyDeclaration (declaration code) ∧ tidyDeclaration (declaration code) ≠ [] := by
  rw [signature?_eq] at found
  split_ifs at found with nothing
  obtain rfl := Option.some.inj found
  exact ⟨String.toList_ofList, by simpa using nothing⟩

/-- The signature as a text, empty if there is none. -/
theorem elim_signature? (code : List Char) :
    (signature? code).elim [] String.toList = tidyDeclaration (declaration code) := by
  rw [signature?_eq]
  cases tidyDeclaration (declaration code) with
  | nil => rfl
  | cons c rest => simp

section Layout

variable {line : List Char} {closed ls : List (List Char)} {last : List Char}

/-- A line that begins the definition of a macro, or that of a named struct or enum. -/
def OpensDefinition (line : List Char) : Prop :=
  "#define".toList <+: line ∨ ∃ gap word, gap ≠ [] ∧ (∀ c ∈ gap, isBlank c = true) ∧
    word ∈ ["struct".toList, "enum".toList] ∧ "typedef".toList ++ (gap ++ word) <+: line

theorem isTypeDefinition_iff : isTypeDefinition line = true ↔ ∃ gap word, gap ≠ [] ∧
    (∀ c ∈ gap, isBlank c = true) ∧ word ∈ ["struct".toList, "enum".toList] ∧
    "typedef".toList ++ (gap ++ word) <+: line := by
  constructor
  · intro typed
    rw [isTypeDefinition] at typed
    split at typed
    · rename_i c rest found
      rw [afterStart?_eq_some_iff] at found
      simp only [Bool.and_eq_true, Bool.or_eq_true, List.isPrefixOf_iff_prefix] at typed
      obtain ⟨blank, named⟩ := typed
      have parts : rest = rest.takeWhile isBlank ++ trimStart rest := List.takeWhile_append_dropWhile.symm
      have reaches {word : List Char} (starts : word <+: trimStart rest) :
          "typedef".toList ++ (c :: rest.takeWhile isBlank ++ word) <+: line := by
        obtain ⟨tail, ending⟩ := starts
        refine ⟨tail, ?_⟩
        rw [found]
        conv_rhs => rw [parts, ← ending]
        simp
      have gap : ∀ d ∈ c :: rest.takeWhile isBlank, isBlank d = true := by
        rw [List.forall_mem_cons]
        exact ⟨blank, fun d => List.mem_takeWhile_imp⟩
      rcases named with structure_ | enumeration
      · exact ⟨_, _, by simp, gap, by simp, reaches structure_⟩
      · exact ⟨_, _, by simp, gap, by simp, reaches enumeration⟩
    · contradiction
  · rintro ⟨gap, word, some_blank, blank, known, tail, rfl⟩
    obtain ⟨c, more, rfl⟩ := List.exists_cons_of_ne_nil some_blank
    rw [List.forall_mem_cons] at blank
    have found : afterStart? "typedef".toList ("typedef".toList ++ (c :: more ++ word) ++ tail) =
        some (c :: (more ++ (word ++ tail))) := afterStart?_eq_some_iff.mpr (by simp)
    have letter : ∀ d ∈ (word ++ tail).head?, isBlank d = false := by
      rcases List.mem_pair.mp known with rfl | rfl <;> rintro _ ⟨⟩ <;> decide
    have trimmed : trimStart (more ++ (word ++ tail)) = word ++ tail := dropWhile_run blank.2 letter
    rw [isTypeDefinition, found]
    simp only [blank.1, trimmed, Bool.true_and, Bool.or_eq_true, List.isPrefixOf_iff_prefix]
    rcases List.mem_pair.mp known with rfl | rfl
    · exact .inl (List.prefix_append _ _)
    · exact .inr (List.prefix_append _ _)

theorem endsDeclaration_iff : endsDeclaration line = true ↔ OpensDefinition line := by
  rw [endsDeclaration, Bool.or_eq_true, isTypeDefinition_iff, List.isPrefixOf_iff_prefix, or_comm, OpensDefinition]

theorem OpensDefinition.of_isPrefix {longer : List Char} (opens : OpensDefinition line) (starts : line <+: longer) :
    OpensDefinition longer := by
  rcases opens with macro_ | ⟨gap, word, some_blank, blank, known, reaches⟩
  · exact .inl (macro_.trans starts)
  · exact .inr ⟨gap, word, some_blank, blank, known, reaches.trans starts⟩

/-- Lines that make up one declaration, and do so when they stand on a single line, too. -/
structure OneDeclaration (ls : List (List Char)) : Prop where
  feedless : ∀ line ∈ ls, '\n' ∉ line
  filled : ∀ line ∈ ls, isBlankText line = false
  open_ended : ∀ line ∈ ls.dropLast, ';' ∉ line ∧ '{' ∉ line
  plain : ∀ line ∈ ls, ¬OpensDefinition line
  plain_joined : ¬OpensDefinition ([' '].intercalate ls)

/-- A line that a declaration goes on after. -/
structure Continues (line : List Char) : Prop where
  filled : isBlankText line = false
  plain : ¬OpensDefinition line
  open_ended : ';' ∉ line ∧ '{' ∉ line

theorem declarationLines_append (going : ∀ line ∈ closed, Continues line) (rest : List (List Char)) :
    declarationLines (closed ++ rest) = closed ++ declarationLines rest := by
  induction closed with
  | nil => rfl
  | cons line more ih =>
    rw [List.forall_mem_cons] at going
    have plain := going.1.plain
    rw [← endsDeclaration_iff, Bool.not_eq_true] at plain
    rw [List.cons_append, declarationLines]
    simp [going.1.filled, plain, closesDeclaration, going.1.open_ended, ih going.2]

/-- A declaration on all the lines of a text. -/
theorem declaration_of_lines {code : List Char} (read : lines code = closed ++ [last])
    (going : ∀ line ∈ closed, Continues line) (filled : isBlankText last = false) (plain : ¬OpensDefinition last) :
    declaration code = closed.flatMap (· ++ ['\n']) ++ last := by
  have starts : (closed ++ [last]).dropWhile isBlankText = closed ++ [last] := by
    cases closed with
    | nil => simp [filled]
    | cons line more => simp [(going line (by simp)).filled]
  have ends : declarationLines [last] = [last] := by
    rw [← endsDeclaration_iff, Bool.not_eq_true] at plain
    simp [declarationLines, filled, plain]
  rw [declaration, read, starts, declarationLines_append going, ends, joinLines, intercalate_append_singleton]

/-- A line loses at most a blank with its carriage return. -/
theorem exists_append_dropReturn (line : List Char) :
    ∃ gap, line = dropReturn line ++ gap ∧ ∀ c ∈ gap, isBlank c = true := by
  rw [dropReturn]
  split_ifs with returned
  · obtain ⟨front, rfl⟩ := List.getLast?_eq_some_iff.mp returned
    exact ⟨['\r'], by simp, List.forall_mem_singleton.mpr (by decide)⟩
  · exact ⟨[], by simp, by simp⟩

/-- Line ends are gaps like any other. -/
theorem squeeze_closed_lines (closed : List (List Char)) (last : List Char) :
    squeeze ((closed.map dropReturn).flatMap (· ++ ['\n']) ++ last) =
      squeeze (closed.flatMap (· ++ [' ']) ++ last) := by
  induction closed with
  | nil => rfl
  | cons line rest ih =>
    obtain ⟨gap, whole, blank⟩ := exists_append_dropReturn line
    have spaced : ∀ c ∈ gap ++ [' '], isBlank c = true := by
      intro c member
      rcases List.mem_append.mp member with inside | space
      · exact blank c inside
      · rw [List.mem_singleton.mp space]
        decide
    have joined : (line :: rest).flatMap (· ++ [' ']) ++ last =
        dropReturn line ++ (gap ++ [' '] ++ (rest.flatMap (· ++ [' ']) ++ last)) := by
      rw [← List.append_assoc (dropReturn line), ← List.append_assoc (dropReturn line), ← whole]
      simp
    have parted : ((line :: rest).map dropReturn).flatMap (· ++ ['\n']) ++ last =
        dropReturn line ++ (['\n'] ++ ((rest.map dropReturn).flatMap (· ++ ['\n']) ++ last)) := by
      simp
    rw [joined, parted]
    apply squeeze_append_congr
    rw [squeeze_gap (by simp) (List.forall_mem_singleton.mpr (by decide)), squeeze_gap (by simp) spaced]
    exact squeeze_append_congr ih [' ']

theorem OneDeclaration.declaration_joinLines (one : OneDeclaration (closed ++ [last])) :
    declaration (joinLines (closed ++ [last])) = (closed.map dropReturn).flatMap (· ++ ['\n']) ++ last := by
  have filled : isBlankText last = false := one.filled last (by simp)
  refine declaration_of_lines ?_ ?_ filled (one.plain last (by simp))
  · rw [joinLines, intercalate_append_singleton]
    have feedless : ∀ line ∈ closed, '\n' ∉ line := fun line member => one.feedless line (by simp [member])
    refine lines_flatMap_append feedless (one.feedless last (by simp)) ?_
    rintro rfl
    simp [isBlankText] at filled
  · rw [List.forall_mem_map]
    intro line member
    obtain ⟨gap, whole, blank⟩ := exists_append_dropReturn line
    have unclosed := one.open_ended line (by simpa using member)
    have starts := dropReturn_isPrefix line
    refine ⟨?_, ?_, fun mark => unclosed.1 (starts.subset mark), fun brace => unclosed.2 (starts.subset brace)⟩
    · have filled := one.filled line (by simp [member])
      rwa [whole, isBlankText, List.all_append, List.all_eq_true.mpr blank, Bool.and_true, ← isBlankText] at filled
    · exact fun opens => one.plain line (by simp [member]) (opens.of_isPrefix starts)

theorem OneDeclaration.declaration_intercalate (one : OneDeclaration (closed ++ [last])) :
    declaration ([' '].intercalate (closed ++ [last])) = closed.flatMap (· ++ [' ']) ++ last := by
  have plain := one.plain_joined
  have lastFilled := one.filled last (by simp)
  rw [intercalate_append_singleton] at plain ⊢
  have filled : isBlankText (closed.flatMap (· ++ [' ']) ++ last) = false := by
    rw [isBlankText, List.all_append, ← isBlankText, ← isBlankText, lastFilled, Bool.and_false]
  have feedless : '\n' ∉ closed.flatMap (· ++ [' ']) ++ last := by
    have free := one.feedless
    intro member
    rw [List.mem_append, List.mem_flatMap] at member
    rcases member with ⟨line, known, inside⟩ | inside
    · exact free line (by simp [known]) (by simpa using inside)
    · exact free last (by simp) inside
  have read := lines_of_free feedless (by rintro nothing; simp [nothing, isBlankText] at filled)
  exact @declaration_of_lines [] _ _ read (by simp) filled plain

/-- Lines of one declaration give the same as a single line. -/
theorem OneDeclaration.tidyDeclaration_eq (one : OneDeclaration ls) :
    tidyDeclaration (declaration (joinLines ls)) = tidyDeclaration ([' '].intercalate ls) ∧
      declaration ([' '].intercalate ls) = [' '].intercalate ls := by
  rcases List.eq_nil_or_concat ls with rfl | ⟨closed, last, rfl⟩
  · exact ⟨rfl, rfl⟩
  rw [List.concat_eq_append] at one ⊢
  refine ⟨?_, ?_⟩
  · rw [one.declaration_joinLines, intercalate_append_singleton, Header.tidyDeclaration_eq, Header.tidyDeclaration_eq,
      bareDeclaration, bareDeclaration, ← squeeze_beforeBrace, ← squeeze_beforeBrace, squeeze_closed_lines]
  · rw [one.declaration_intercalate, intercalate_append_singleton]

end Layout

/-- A signature is in normal form. One that is spread over lines is that of the same lines put on a single one, and it
has the words of these lines up to the brace, less the macros. -/
theorem signature_in_normal_form :
    (∀ code signature, signature? code = some signature → NormalForm signature.toList) ∧
      ∀ ls, OneDeclaration ls → signature? (joinLines ls) = signature? ([' '].intercalate ls) ∧
        wholeWords ((signature? (joinLines ls)).elim [] String.toList) =
          (wholeWords (beforeBrace ([' '].intercalate ls))).filter (· ∉ exportMacros) := by
  refine ⟨?_, ?_⟩
  · intro code signature found
    obtain ⟨same, filled⟩ := toList_of_signature? found
    rw [same]
    exact normalForm_tidyDeclaration filled
  · intro ls one
    obtain ⟨spread, single⟩ := one.tidyDeclaration_eq
    refine ⟨?_, ?_⟩
    · rw [signature?_eq, signature?_eq, spread, single]
    · rw [elim_signature?, spread, wholeWords_tidyDeclaration]

/-- A declaration over three lines. Macros stand before a blank, before a line end and before a mark, and as parts of
other words. -/
def sampleLines : List (List Char) :=
  ["CF_API\tconst CF_APIs * CF_INLINE\r".toList, "  CF_CALL cf_load(CF_Text* CF_CALL".toList,
    "\tpath,  int (*CF_API)(int));; \x7b".toList]

instance : DecidablePred OpensDefinition := fun _ =>
  decidable_of_iff _ endsDeclaration_iff

theorem signature_in_normal_form_sampleLines :
    OneDeclaration sampleLines ∧
      signature? (joinLines sampleLines) = some "const CF_APIs * cf_load(CF_Text* path, int (*)(int))" ∧
      signature? ([' '].intercalate sampleLines) = some "const CF_APIs * cf_load(CF_Text* path, int (*)(int))" ∧
      NormalForm "const CF_APIs * cf_load(CF_Text* path, int (*)(int))".toList := by
  have one : OneDeclaration sampleLines :=
    ⟨by decide +kernel, by decide +kernel, by decide +kernel, by decide +kernel, by decide +kernel⟩
  have found : signature? (joinLines sampleLines) = some "const CF_APIs * cf_load(CF_Text* path, int (*)(int))" := by
    decide +kernel
  refine ⟨one, found, ?_, signature_in_normal_form.1 _ _ found⟩
  rw [← (signature_in_normal_form.2 sampleLines one).1, found]

end ApiAtlas.Header
