import ApiAtlas.Proofs.Header.Writer
import ApiAtlas.Proofs.Text.Pieces
import ApiAtlas.Proofs.Text.Trim

/-! # Comments and their tags

A written comment comes apart into the tags it was written from. `Carried` says for which values: the
marks around a value must not be mistaken for a part of it, and no line of it for a mark.
-/

namespace ApiAtlas.Header

open Text

theorem stripClosing_eq_self {line : List Char} (unclosed : ¬['*', '/'] <:+: line) :
    stripClosing line = line := by
  rw [stripClosing]
  split
  · rename_i rest ending
    have tail : line.reverse.dropWhile isBlank <:+ line.reverse := List.dropWhile_suffix isBlank
    rw [ending] at tail
    have mark : ['*', '/'].reverse <:+: line.reverse :=
      (List.infix_append [] ['/', '*'] rest).trans tail.isInfix
    exact absurd (List.reverse_infix.mp mark) unclosed
  · rfl

theorem stripMargin_margin (line : List Char) : stripMargin (" * ".toList ++ line) = line := rfl

theorem unclosed_margin {line : List Char} (unclosed : ¬['*', '/'] <:+: line) :
    ¬['*', '/'] <:+: " * ".toList ++ line := by
  have apart : " * ".toList ++ line = " *".toList ++ ' ' :: line := rfl
  rw [apart, infix_append_cons_iff (by decide)]
  exact fun found => found.elim (by decide) unclosed

/-- The margin comes off a line, and nothing else does. -/
theorem commentText_margin {line : List Char} (unclosed : ¬['*', '/'] <:+: line) :
    commentText (" * ".toList ++ line) = line := by
  rw [commentText, stripClosing_eq_self (unclosed_margin unclosed), stripMargin_margin]

theorem writeValue_append (s t : List Char) : writeValue (s ++ t) = writeValue s ++ writeValue t :=
  replaceChar_append '\n' "\n * ".toList s t

theorem writeValue_of_free {s : List Char} (free : '\n' ∉ s) : writeValue s = s :=
  replaceChar_of_not_mem free "\n * ".toList

theorem feed_free_of_mem_valueLines {value line : List Char} (member : line ∈ valueLines value) :
    '\n' ∉ line := by
  intro feed
  simpa using free_of_mem_splitBy member '\n' feed

theorem valueLines_append_of_free {front value first : List Char} {more : List (List Char)}
    (free : '\n' ∉ front) (split : valueLines value = first :: more) :
    valueLines (front ++ value) = (front ++ first) :: more := by
  apply splitBy_append_of_free _ split
  intro c member
  apply beq_false_of_ne
  rintro rfl
  exact free member

theorem joinLines_valueLines (value : List Char) : joinLines (valueLines value) = value :=
  joinLines_splitBy value

/-- A value behind a margin is its lines, each behind a margin of its own. -/
theorem margin_writeValue (value : List Char) :
    " * ".toList ++ writeValue value ++ ['\n'] =
      ((valueLines value).map (" * ".toList ++ ·)).flatMap (· ++ ['\n']) := by
  have join (ls : List (List Char)) (filled : ls ≠ []) (free : ∀ line ∈ ls, '\n' ∉ line) :
      " * ".toList ++ writeValue (joinLines ls) ++ ['\n'] =
        (ls.map (" * ".toList ++ ·)).flatMap (· ++ ['\n']) := by
    induction ls with
    | nil => exact absurd rfl filled
    | cons line rest ih =>
      rw [List.forall_mem_cons] at free
      cases rest with
      | nil => simp [writeValue_of_free free.1]
      | cons next more =>
        have feed : writeValue ('\n' :: joinLines (next :: more)) =
            "\n * ".toList ++ writeValue (joinLines (next :: more)) :=
          replaceChar_cons_self '\n' "\n * ".toList _
        have tail := ih (by simp) free.2
        rw [joinLines_cons_cons, writeValue_append, writeValue_of_free free.1, feed, List.map_cons,
          List.flatMap_cons, ← tail]
        simp
  have whole := join (valueLines value) (splitBy_ne_nil value) fun line => feed_free_of_mem_valueLines
  rwa [joinLines_valueLines] at whole

theorem tagStart?_text {name : List Char} (named : name ≠ []) (word : ∀ c ∈ name, isWord c = true)
    (first : List Char) : tagStart? ('@' :: name ++ ' ' :: first) = some (name, trim first) := by
  have stops : ∀ c ∈ (' ' :: first).head?, isWord c = false := by
    rintro c ⟨⟩
    decide
  have kept : trimStart ('@' :: name ++ ' ' :: first) = '@' :: (name ++ ' ' :: first) := rfl
  simp only [tagStart?, kept, takeWhile_run word stops, dropWhile_run word stops, List.isEmpty_iff,
    named, trim_cons_of_blank (show isBlank ' ' = true by decide)]
  simp

theorem tagStart?_eq_none {line : List Char} (plain : ¬StartsTag line) : tagStart? line = none := by
  rw [tagStart?]
  split
  · rename_i rest starts
    cases rest with
    | nil => rfl
    | cons c more =>
      have blocked : isWord c = false := by
        apply Bool.eq_false_iff.mpr
        intro word
        exact plain ⟨by simp [starts], by simp [starts, word]⟩
      simp [blocked]
  · rfl

/-- A value that comes back from a comment, up to blanks around it. -/
structure Carried (value : List Char) : Prop where
  unclosed : ¬['*', '/'] <:+: value
  returnless : ∀ line ∈ valueLines value, line.getLast? ≠ some '\r'
  first_line : (valueLines value).tail ≠ [] → ∀ line ∈ (valueLines value).head?, trim line = line
  continued : ∀ line ∈ (valueLines value).tail, ¬StartsTag line

/-- A word that can name a tag. -/
def IsTagName (name : String) : Prop :=
  name ≠ "" ∧ ∀ c ∈ name.toList, isWord c = true

instance (name : String) : Decidable (IsTagName name) :=
  decidable_of_iff (name ≠ "" ∧ name.toList.all isWord = true) (by rw [IsTagName, List.all_eq_true])

/-- A tag with a name that is one word and a value that comes back. -/
structure Tag.Carried (tag : Tag) : Prop where
  named : IsTagName tag.name
  value : Header.Carried tag.value

/-- The text of a tag, without margins. -/
def Tag.text (tag : Tag) : List Char :=
  '@' :: tag.name.toList ++ ' ' :: tag.value

/-- A tag with its value trimmed. -/
def Tag.settled (tag : Tag) : Tag :=
  { tag with value := trim tag.value }

theorem not_mem_of_word {name : List Char} {c : Char} (word : ∀ c ∈ name, isWord c = true)
    (outside : isWord c = false) : c ∉ name := by
  intro member
  simpa [outside] using word c member

theorem Tag.Carried.feed_free {tag : Tag} (carried : tag.Carried) :
    '\n' ∉ '@' :: tag.name.toList ++ [' '] := by
  have plain : '\n' ∉ tag.name.toList := not_mem_of_word carried.named.2 (by decide)
  simpa using plain

theorem Tag.Carried.writeTag_eq {tag : Tag} (carried : tag.Carried) :
    writeTag tag = ((valueLines tag.text).map (" * ".toList ++ ·)).flatMap (· ++ ['\n']) := by
  have apart : tag.text = ('@' :: tag.name.toList ++ [' ']) ++ tag.value := by simp [Tag.text]
  rw [← margin_writeValue, apart, writeValue_append, writeValue_of_free carried.feed_free]
  unfold writeTag
  simp

/-- The first line of a tag's text announces the tag, and the other lines are those of its value. -/
theorem Tag.Carried.valueLines_text {tag : Tag} (carried : tag.Carried) {first : List Char}
    {more : List (List Char)} (split : valueLines tag.value = first :: more) :
    valueLines tag.text = ('@' :: tag.name.toList ++ ' ' :: first) :: more := by
  have apart : tag.text = ('@' :: tag.name.toList ++ [' ']) ++ tag.value := by simp [Tag.text]
  rw [apart, valueLines_append_of_free carried.feed_free split]
  simp

theorem Tag.Carried.text_unclosed {tag : Tag} (carried : tag.Carried) : ¬['*', '/'] <:+: tag.text := by
  rw [Tag.text, infix_append_cons_iff (by decide)]
  rintro (inside | inside)
  · have star : '*' ∈ '@' :: tag.name.toList := inside.subset (by simp)
    have plain : '*' ∉ tag.name.toList := not_mem_of_word carried.named.2 (by decide)
    exact plain (by simpa using star)
  · exact carried.value.unclosed inside

theorem Tag.Carried.line_unclosed {tag : Tag} (carried : tag.Carried) {line : List Char}
    (member : line ∈ valueLines tag.text) : ¬['*', '/'] <:+: line := by
  intro found
  have part : line <:+: joinLines (valueLines tag.text) := infix_joinLines member
  rw [joinLines_valueLines] at part
  exact carried.text_unclosed (found.trans part)

theorem returnless_after_space {line : List Char} (returnless : line.getLast? ≠ some '\r')
    (s : List Char) : (s ++ ' ' :: line).getLast? ≠ some '\r' := by
  cases line with
  | nil => simp
  | cons c rest => simpa [List.getLast?_append] using returnless

theorem Tag.Carried.line_returnless {tag : Tag} (carried : tag.Carried) {line : List Char}
    (member : line ∈ valueLines tag.text) : (" * ".toList ++ line).getLast? ≠ some '\r' := by
  obtain ⟨first, more, split⟩ := List.exists_cons_of_ne_nil (splitBy_ne_nil tag.value)
  have ends := carried.value.returnless
  rw [carried.valueLines_text split] at member
  rw [valueLines, split, List.forall_mem_cons] at ends
  rcases List.mem_cons.mp member with rfl | later
  · rw [← List.append_assoc]
    exact returnless_after_space ends.1 _
  · exact returnless_after_space (ends.2 line later) " *".toList

theorem flatMap_writeTag {ts : List Tag} (carried : ∀ tag ∈ ts, tag.Carried) :
    ts.flatMap writeTag =
      ((ts.flatMap fun tag => valueLines tag.text).map (" * ".toList ++ ·)).flatMap (· ++ ['\n']) := by
  rw [List.map_flatMap, List.flatMap_assoc]
  exact List.flatMap_congr fun tag member => (carried tag member).writeTag_eq

/-- What the lines of a written comment say, once the comment marks are off. -/
theorem commentText_writeComment {ts : List Tag} (carried : ∀ tag ∈ ts, tag.Carried) :
    (lines (writeComment ts)).map commentText =
      [] :: ts.flatMap (fun tag => valueLines tag.text) ++ [[]] := by
  have written : writeComment ts =
      ("/**".toList :: (ts.flatMap fun tag => valueLines tag.text).map (" * ".toList ++ ·)).flatMap
        (· ++ ['\n']) ++ " */".toList := by
    unfold writeComment
    rw [flatMap_writeTag carried]
    rfl
  have free : ∀ line ∈ "/**".toList ::
      (ts.flatMap fun tag => valueLines tag.text).map (" * ".toList ++ ·), '\n' ∉ line := by
    rw [List.forall_mem_cons]
    refine ⟨by decide, ?_⟩
    intro line member
    obtain ⟨plain, inside, rfl⟩ := List.mem_map.mp member
    obtain ⟨tag, -, inside⟩ := List.mem_flatMap.mp inside
    simpa using feed_free_of_mem_valueLines inside
  have bare : ∀ line ∈ ts.flatMap fun tag => valueLines tag.text,
      commentText (dropReturn (" * ".toList ++ line)) = line := by
    intro line member
    obtain ⟨tag, known, member⟩ := List.mem_flatMap.mp member
    rw [dropReturn_eq_self ((carried tag known).line_returnless member),
      commentText_margin ((carried tag known).line_unclosed member)]
  rw [written, lines_flatMap_append free (by decide) (by decide)]
  simp only [List.map_append, List.map_cons, List.map_map, List.map_nil, Function.comp_def]
  rw [List.map_congr_left bare, List.map_id']
  rfl

/-- The blank line at the end of a comment is no part of a value. -/
theorem trim_joinLines_append (first : List Char) (more : List (List Char)) :
    trim (joinLines (first :: more ++ [[]])) = trim (joinLines (first :: more)) := by
  have longer (line : List Char) (rest : List (List Char)) :
      joinLines (line :: rest ++ [[]]) = joinLines (line :: rest) ++ ['\n'] := by
    induction rest generalizing line with
    | nil => simp [joinLines_cons_cons]
    | cons next rest ih =>
      have tail := ih next
      rw [List.cons_append] at tail
      rw [List.cons_append, List.cons_append, joinLines_cons_cons, joinLines_cons_cons, tail]
      simp
  rw [longer, trim_append_of_blank (by decide)]

theorem Carried.trim_joinLines {value first : List Char} {more : List (List Char)}
    (carried : Carried value) (split : valueLines value = first :: more) :
    trim (joinLines (trim first :: more)) = trim value := by
  have joined : joinLines (first :: more) = value := by
    rw [← split, joinLines_valueLines]
  cases more with
  | nil =>
    rw [joinLines_singleton] at joined
    simp [joined]
  | cons next rest =>
    have kept : trim first = first := carried.first_line (by simp [split]) first (by simp [split])
    rw [kept, joined]

/-- The lines of tags fall into one group for each tag, and only the last one has the blank line. -/
theorem groupBy_tagStart? {ts : List Tag} (carried : ∀ tag ∈ ts, tag.Carried) :
    ((groupBy tagStart? (ts.flatMap (fun tag => valueLines tag.text) ++ [[]])).1 = [] ∨
      (groupBy tagStart? (ts.flatMap (fun tag => valueLines tag.text) ++ [[]])).1 = [[]]) ∧
    (groupBy tagStart? (ts.flatMap (fun tag => valueLines tag.text) ++ [[]])).2.map
      (fun group => (⟨String.ofList group.1.1, trim (joinLines (group.1.2 :: group.2))⟩ : Tag)) =
        ts.map Tag.settled := by
  induction ts with
  | nil => exact ⟨.inr rfl, rfl⟩
  | cons tag rest ih =>
    rw [List.forall_mem_cons] at carried
    obtain ⟨front, groups⟩ := ih carried.2
    obtain ⟨first, more, split⟩ := List.exists_cons_of_ne_nil (splitBy_ne_nil tag.value)
    have announced : tagStart? ('@' :: tag.name.toList ++ ' ' :: first) =
        some (tag.name.toList, trim first) :=
      tagStart?_text (by simpa using carried.1.named.1) carried.1.named.2 first
    have plain : ∀ line ∈ more, tagStart? line = none := by
      intro line member
      apply tagStart?_eq_none
      apply carried.1.value.continued
      rw [valueLines, split]
      exact member
    rw [List.flatMap_cons, carried.1.valueLines_text split, List.append_assoc, List.cons_append,
      groupBy_cons_of_eq_some announced, groupBy_append_of_plain plain]
    refine ⟨.inl rfl, ?_⟩
    have value : trim (joinLines (trim first :: (more ++
        (groupBy tagStart? (rest.flatMap (fun tag => valueLines tag.text) ++ [[]])).1))) =
        trim tag.value := by
      rcases front with front | front
      · rw [front, List.append_nil, carried.1.value.trim_joinLines split]
      · rw [front, ← List.cons_append, trim_joinLines_append, carried.1.value.trim_joinLines split]
    rw [List.map_cons, groups, List.map_cons, value]
    simp [Tag.settled]

/-- The tags of a written comment are the tags it was written from, with their values trimmed. -/
theorem tags_writeComment {ts : List Tag} (carried : ∀ tag ∈ ts, tag.Carried) :
    tags (writeComment ts) = ts.map Tag.settled := by
  rw [tags, commentText_writeComment carried, List.cons_append, groupBy_cons_of_eq_none (by rfl)]
  exact (groupBy_tagStart? carried).2

/-- A written comment does not close before its end. -/
theorem unclosed_flatMap_writeTag {ts : List Tag} (carried : ∀ tag ∈ ts, tag.Carried) :
    ¬['*', '/'] <:+: ts.flatMap writeTag := by
  rw [flatMap_writeTag carried]
  apply not_infix_closed_lines (by decide) (by decide)
  intro line member
  obtain ⟨plain, inside, rfl⟩ := List.mem_map.mp member
  obtain ⟨tag, known, inside⟩ := List.mem_flatMap.mp inside
  exact unclosed_margin ((carried tag known).line_unclosed inside)

end ApiAtlas.Header
