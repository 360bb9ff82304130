import ApiAtlas.Proofs.Header.Writer
import ApiAtlas.Proofs.Text.Parentheses
import ApiAtlas.Proofs.Text.Scan
import ApiAtlas.Proofs.Text.Trim

/-! # Members and entries read back

A written member or entry is an item comment with its item after it. The description has no closing
mark, so the comment ends where it was closed, and the item ends with the line.
-/

namespace ApiAtlas.Header

open Text

variable {α : Type}

/-- A description ends at the first closing mark, if an item follows it. -/
theorem describedItem_append {item : Pattern α} {text rest after : List Char} {value : α}
    (unclosed : ¬['*', '/'] <:+: text) (applies : item rest = some (value, after)) :
    describedItem item (text ++ '*' :: '/' :: rest) = some ((text, value), after) := by
  induction text with
  | nil => simp [describedItem, afterSlash, applies]
  | cons c more ih =>
    have tail := ih fun found => unclosed (List.infix_cons found)
    have goes_on : (if c = '*' then afterSlash item (more ++ '*' :: '/' :: rest) else none) = none := by
      split
      · rename_i star
        cases more with
        | nil => rfl
        | cons d others =>
          have other : d ≠ '/' := by
            rintro rfl
            exact unclosed ⟨[], others, by simp [star]⟩
          simp [afterSlash, other]
      · rfl
    rw [List.cons_append, describedItem]
    simp [goes_on, tail]

theorem itemPattern_eq_none {keyword : List Char} {item : Pattern α} {s : List Char}
    (unopened : ¬['/', '*'] <+: s) : itemPattern keyword item s = none := by
  have unannounced : keywordStart? keyword s = none := by
    unfold keywordStart?
    split
    · rename_i rest
      exact absurd ⟨rest, rfl⟩ unopened
    · rfl
  rw [itemPattern, unannounced]

theorem itemPattern_of_ne {keyword : List Char} {item : Pattern α} {c : Char} (other : c ≠ '/')
    (s : List Char) : itemPattern keyword item (c :: s) = none :=
  itemPattern_eq_none (by simp [List.cons_prefix_cons, other.symm])

/-- A text that opens no comment is passed over, if the letter after it cannot be a part of an opening. -/
theorem findAll_itemPattern_append {keyword : List Char} {item : Pattern α} {front : List Char}
    (unopened : ¬['/', '*'] <:+: front) {c : Char} (apart : c ∉ ['/', '*']) (rest : List Char) :
    findAll (itemPattern keyword item) (front ++ c :: rest) = findAll (itemPattern keyword item) rest := by
  have other : c ≠ '/' := by
    rintro rfl
    simp at apart
  rw [findAll_append_of_eq_none, findAll_cons_of_eq_none (itemPattern_of_ne other rest)]
  intro d tail later
  apply itemPattern_eq_none
  intro opened
  exact unopened ((isPrefix_of_append_cons apart opened).isInfix.trans later.isInfix)

/-- An item comment of a keyword and a portable description is read with the item after it. -/
theorem itemPattern_append {keyword description rest after : List Char} {item : Pattern α} {value : α}
    (portable : PortableDescription description) (applies : item rest = some (value, after)) :
    itemPattern keyword item
      ("/* @".toList ++ keyword ++ ' ' :: description ++ ' ' :: '*' :: '/' :: rest) =
        some ((description, value), after) := by
  have started : keywordStart? keyword
      ("/* @".toList ++ keyword ++ ' ' :: description ++ ' ' :: '*' :: '/' :: rest) =
        some (' ' :: (description ++ ' ' :: '*' :: '/' :: rest)) := by
    have announced : afterStart? ('@' :: keyword) (trimStart (" @".toList ++ keyword ++
        ' ' :: (description ++ ' ' :: '*' :: '/' :: rest))) =
          some (' ' :: (description ++ ' ' :: '*' :: '/' :: rest)) :=
      afterStart?_eq_some_iff.mpr rfl
    have opened : "/* @".toList ++ keyword ++ ' ' :: description ++ ' ' :: '*' :: '/' :: rest =
        '/' :: '*' :: (" @".toList ++ keyword ++ ' ' :: (description ++ ' ' :: '*' :: '/' :: rest)) := by
      simp
    rw [opened, keywordStart?, announced]
    rfl
  have unclosed : ¬['*', '/'] <:+: ' ' :: description ++ [' '] := by
    rw [infix_append_cons_iff (by decide), ← List.nil_append (' ' :: description),
      infix_append_cons_iff (by decide)]
    rintro ((empty | inside) | empty)
    · simp at empty
    · exact portable.unclosed inside
    · simp at empty
  have described := describedItem_append unclosed applies
  have shape : ' ' :: (description ++ ' ' :: '*' :: '/' :: rest) =
      ' ' :: description ++ [' '] ++ '*' :: '/' :: rest := by simp
  have trimmed : trim (' ' :: description ++ [' ']) = description := by
    rw [trim_append_of_blank (by decide), trim_cons_of_blank (by decide), portable.trimmed]
  simp only [itemPattern, started, shape, described, Option.map_some, trimmed]

/-- What a declaration goes on with: nothing, or the next line. -/
theorem declarationItem_append {declaration tail : List Char} (declared : declaration ≠ [])
    (trimmed : trim declaration = declaration) (one_line : ∀ c ∈ declaration, c ≠ '/' ∧ c ≠ '\n')
    (feed : ∀ c ∈ tail.head?, c = '\n') :
    declarationItem ('\n' :: (declaration ++ tail)) = some (declaration, tail) := by
  have started : trimStart ('\n' :: (declaration ++ tail)) = declaration ++ tail := by
    rw [trimStart_cons_of_blank (by decide), trimStart_eq_self_iff]
    rw [List.head?_append_of_ne_nil _ declared]
    exact head_of_trim_eq_self trimmed
  have inside : ∀ c ∈ declaration, inDeclaration c = true := by
    intro c member
    simpa [inDeclaration] using one_line c member
  have stops : ∀ c ∈ tail.head?, inDeclaration c = false := by
    intro c first
    rw [feed c first]
    decide
  simp only [declarationItem, started, takeWhile_run inside stops, dropWhile_run inside stops]
  simp [declared]

theorem trim_append_semicolon {declaration : List Char} (declared : declaration ≠ [])
    (trimmed : trim declaration = declaration) : trim (declaration ++ [';']) = declaration ++ [';'] := by
  apply trim_eq_self
  · rw [List.head?_append_of_ne_nil _ declared]
    exact head_of_trim_eq_self trimmed
  · simpa using show isBlank ';' = false by decide

theorem PortableMember.member?_eq {member : Member} (portable : PortableMember member) :
    member? member.description.toList (member.declaration.toList ++ [';']) = some member := by
  have declared : member.declaration.toList ≠ [] := by simpa using portable.declared
  have ended : trimEnd member.declaration.toList = member.declaration.toList :=
    trimEnd_eq_self_iff.mpr (getLast_of_trim_eq_self portable.trimmed)
  simp only [member?, trim_append_semicolon declared portable.trimmed,
    dropEndWhile_append_self portable.open_ended, ended]
  simpa using portable.declared

theorem PortableMember.findAll_eq {member : Member} (portable : PortableMember member) {tail : List Char}
    (feed : ∀ c ∈ tail.head?, c = '\n') :
    findAll (itemPattern "member".toList declarationItem) (writeMember member ++ tail) =
      (member.description.toList, member.declaration.toList ++ [';']) ::
        findAll (itemPattern "member".toList declarationItem) tail := by
  have declared : member.declaration.toList ≠ [] := by simpa using portable.declared
  have one_line : ∀ c ∈ member.declaration.toList ++ [';'], c ≠ '/' ∧ c ≠ '\n' := by
    intro c inside
    rcases List.mem_append.mp inside with inside | ending
    · exact portable.one_line c inside
    · rw [List.mem_singleton.mp ending]
      decide
  have item := declarationItem_append (by simp) (trim_append_semicolon declared portable.trimmed)
    one_line feed
  have applies := @itemPattern_append _ "member".toList _ _ _ _ _ portable.description item
  have written : writeMember member ++ tail =
      "/* @".toList ++ "member".toList ++ ' ' :: member.description.toList ++ ' ' :: '*' :: '/' ::
        ('\n' :: (member.declaration.toList ++ [';'] ++ tail)) := by
    unfold writeMember
    simp
  obtain ⟨body, shape⟩ : ∃ body, writeMember member = '/' :: body := by
    unfold writeMember
    simp
  rw [← written, shape] at applies
  rw [shape]
  exact findAll_cons_of_eq_some applies (List.suffix_append body tail)

/-- The members of a written struct are read back. -/
theorem members_joinLines {ms : List Member} (portable : ∀ member ∈ ms, PortableMember member) :
    members (joinLines (ms.map writeMember)) = ms := by
  have found : findAll (itemPattern "member".toList declarationItem) (joinLines (ms.map writeMember)) =
      ms.map fun member => (member.description.toList, member.declaration.toList ++ [';']) := by
    apply findAll_joinLines
    · intro member known tail feed
      exact (portable member known).findAll_eq feed
    · exact itemPattern_of_ne (by decide)
  have back : ∀ member ∈ ms,
      member? member.description.toList (member.declaration.toList ++ [';']) = some member :=
    fun member known => (portable member known).member?_eq
  rw [members, found, List.filterMap_map]
  simp only [Function.comp_def]
  rw [List.filterMap_congr back, List.filterMap_some]

/-- The parts of an entry, one after the other. -/
theorem entryItem_eq_some {s opening inside value written after : List Char}
    (opened : afterStart? "CF_ENUM".toList (skipContinuation s) = some opening)
    (entered : afterStart? ['('] (trimStart opening) = some inside)
    (named : (trimStart inside).takeWhile isWord ≠ [])
    (separated : afterStart? [','] (trimStart ((trimStart inside).dropWhile isWord)) = some value)
    (closed : splitOnce? ')' value = some (written, after)) :
    entryItem s = some (((trimStart inside).takeWhile isWord, trim written), after) := by
  have filled : (!((trimStart inside).takeWhile isWord).isEmpty) = true := by simpa using named
  refine Option.bind_eq_some_iff.mpr ⟨opening, opened, Option.bind_eq_some_iff.mpr ⟨inside, entered, ?_⟩⟩
  refine Option.bind_eq_some_iff.mpr ⟨(), if_pos filled, ?_⟩
  exact Option.bind_eq_some_iff.mpr ⟨value, separated,
    Option.bind_eq_some_iff.mpr ⟨(written, after), closed, rfl⟩⟩

/-- A written entry has its name, and its value up to the first parenthesis that closes anything. -/
theorem entryItem_append {name : List Char} (named : name ≠ []) (word : ∀ c ∈ name, isWord c = true)
    (value tail : List Char) :
    entryItem (" \\\nCF_ENUM(".toList ++ name ++ ',' :: ' ' :: value ++ ')' :: tail) =
      some ((name, trim (toFirstClosing value)), pastFirstClosing value tail) := by
  have started (rest : List Char) : trimStart (name ++ rest) = name ++ rest := by
    rw [trimStart_eq_self_iff, List.head?_append_of_ne_nil _ named]
    intro c first
    exact not_isBlank_of_isWord (word c (List.mem_of_mem_head? first))
  have stops : ∀ c ∈ (',' :: ' ' :: (value ++ ')' :: tail)).head?, isWord c = false := by
    rintro c ⟨⟩
    decide
  have continued : skipContinuation (" \\\nCF_ENUM(".toList ++ name ++ ',' :: ' ' :: value ++ ')' :: tail) =
      "CF_ENUM".toList ++ '(' :: (name ++ ',' :: ' ' :: (value ++ ')' :: tail)) := by
    have opening : " \\\nCF_ENUM(".toList ++ name ++ ',' :: ' ' :: value ++ ')' :: tail =
        ' ' :: '\\' :: '\n' :: ("CF_ENUM".toList ++ '(' :: (name ++ ',' :: ' ' :: (value ++ ')' :: tail))) := by
      simp
    rw [opening]
    rfl
  have whole_name := takeWhile_run word stops
  have rest := dropWhile_run word stops
  rw [← started] at whole_name rest
  have entered : afterStart? ['('] (trimStart ('(' :: (name ++ ',' :: ' ' :: (value ++ ')' :: tail)))) =
      some (name ++ ',' :: ' ' :: (value ++ ')' :: tail)) :=
    afterStart?_eq_some_iff.mpr rfl
  have separated : afterStart? [','] (trimStart (',' :: ' ' :: (value ++ ')' :: tail))) =
      some (' ' :: (value ++ ')' :: tail)) := afterStart?_eq_some_iff.mpr rfl
  have closed : splitOnce? ')' (' ' :: (value ++ ')' :: tail)) =
      some (' ' :: toFirstClosing value, pastFirstClosing value tail) :=
    splitOnce?_closing (' ' :: value) tail
  rw [← rest] at separated
  have read := entryItem_eq_some (afterStart?_eq_some_iff.mpr continued) entered (by rwa [whole_name])
    separated closed
  rw [read, whole_name, trim_cons_of_blank (by decide)]

/-- A written entry is found with its value up to the first parenthesis that closes anything, and what is left of the
value is passed over. -/
theorem findAll_writeEntry {entry : EnumEntry} (named : entry.name ≠ "")
    (word : ∀ c ∈ entry.name.toList, isWord c = true) (portable : PortableDescription entry.description.toList)
    (unopened : ¬['/', '*'] <:+: entry.value.toList.dropWhile (· != ')')) (tail : List Char) :
    findAll (itemPattern "entry".toList entryItem) (writeEntry entry ++ tail) =
      (entry.description.toList, entry.name.toList, trim (toFirstClosing entry.value.toList)) ::
        findAll (itemPattern "entry".toList entryItem) tail := by
  have filled : entry.name.toList ≠ [] := by simpa using named
  have item := entryItem_append filled word entry.value.toList (" \\".toList ++ tail)
  have applies := @itemPattern_append _ "entry".toList _ _ _ _ _ portable item
  have written : writeEntry entry ++ tail =
      "/* @".toList ++ "entry".toList ++ ' ' :: entry.description.toList ++ ' ' :: '*' :: '/' ::
        (" \\\nCF_ENUM(".toList ++ entry.name.toList ++ ',' :: ' ' :: entry.value.toList ++
          ')' :: (" \\".toList ++ tail)) := by
    unfold writeEntry
    simp
  obtain ⟨body, shape⟩ : ∃ body, writeEntry entry ++ tail =
      '/' :: (body ++ (entry.value.toList ++ ')' :: (" \\".toList ++ tail))) := by
    unfold writeEntry
    refine ⟨"* @entry ".toList ++ entry.description.toList ++ " */ \\\nCF_ENUM(".toList ++
      entry.name.toList ++ ", ".toList, ?_⟩
    simp
  rw [← written, shape] at applies
  have left : pastFirstClosing entry.value.toList (" \\".toList ++ tail) <:+
      body ++ (entry.value.toList ++ ')' :: (" \\".toList ++ tail)) :=
    (pastFirstClosing_isSuffix _ _).trans (List.suffix_append body _)
  have passed : findAll (itemPattern "entry".toList entryItem)
      (pastFirstClosing entry.value.toList (" \\".toList ++ tail)) =
        findAll (itemPattern "entry".toList entryItem) tail := by
    have clean : ¬['/', '*'] <:+: pastFirstClosing entry.value.toList [' '] := by
      intro opened
      have inside := opened.trans (List.tail_suffix _).isInfix
      rw [infix_append_cons_iff (by decide)] at inside
      exact inside.elim unopened (by decide)
    rw [show " \\".toList ++ tail = [' '] ++ '\\' :: tail from rfl, pastFirstClosing_append,
      findAll_itemPattern_append clean (by decide)]
  rw [shape, findAll_cons_of_eq_some applies left, passed]

theorem PortableEntry.findAll_eq {entry : EnumEntry} (portable : PortableEntry entry) (tail : List Char) :
    findAll (itemPattern "entry".toList entryItem) (writeEntry entry ++ tail) =
      (entry.description.toList, entry.name.toList, entry.value.toList) ::
        findAll (itemPattern "entry".toList entryItem) tail := by
  have nothing : entry.value.toList.dropWhile (· != ')') = [] :=
    List.dropWhile_eq_nil_iff.mpr (bne_of_not_mem portable.unclosed)
  rw [findAll_writeEntry portable.named portable.word portable.description (by simp [nothing]),
    toFirstClosing_eq_self_iff.mpr portable.unclosed, portable.trimmed]

/-- The entries of a written enum are read back. -/
theorem entries_joinLines {es : List EnumEntry} (portable : ∀ entry ∈ es, PortableEntry entry) :
    entries (joinLines (es.map writeEntry)) = es := by
  have found : findAll (itemPattern "entry".toList entryItem) (joinLines (es.map writeEntry)) =
      es.map fun entry => (entry.description.toList, entry.name.toList, entry.value.toList) := by
    apply findAll_joinLines
    · intro entry known tail feed
      exact (portable entry known).findAll_eq tail
    · exact itemPattern_of_ne (by decide)
  rw [entries, found, List.map_map]
  simp [Function.comp_def]

end ApiAtlas.Header
