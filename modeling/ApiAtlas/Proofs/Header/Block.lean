import ApiAtlas.Proofs.Header.Fields
import ApiAtlas.Proofs.Header.Item
import ApiAtlas.Proofs.Header.Signature
import Mathlib.Data.List.Infix

/-! # Blocks of a written header

A written comment closes only at its end, and the code between two comments opens no documentation
comment. So a scan finds exactly the comments that were written, each with the code of its record.
-/

namespace ApiAtlas.Header

open Text

theorem closing?_append {inside : List Char} (unclosed : ¬['*', '/'] <:+: inside) (rest : List Char) :
    closing? (inside ++ '*' :: '/' :: rest) = some (inside ++ ['*', '/'], rest) := by
  induction inside with
  | nil => rfl
  | cons c more ih =>
    have tail := ih fun found => unclosed (List.infix_cons found)
    rw [List.cons_append, closing?]
    · simp [tail]
    · intro other star shape
      subst star
      cases more with
      | nil => simp at shape
      | cons d others =>
        obtain ⟨rfl, -⟩ : d = '/' ∧ _ := by simpa using shape
        exact unclosed ⟨[], others, rfl⟩

/-- A text between an opening and the first closing mark after it is a documentation comment. -/
theorem commentPattern_append {text : List Char} (unclosed : ¬['*', '/'] <:+: text) (rest : List Char) :
    commentPattern ("/**".toList ++ text ++ "*/".toList ++ rest) =
      some ("/**".toList ++ text ++ "*/".toList, rest) := by
  have whole : "/**".toList ++ text ++ "*/".toList ++ rest = '/' :: '*' :: '*' :: (text ++ '*' :: '/' :: rest) := by
    simp
  rw [whole, commentPattern, closing?_append unclosed]
  rfl

/-- A written comment is the documentation comment at the beginning of a text. -/
theorem commentPattern_writeComment {ts : List Tag} (carried : ∀ tag ∈ ts, tag.Carried) (rest : List Char) :
    commentPattern (writeComment ts ++ rest) = some (writeComment ts, rest) := by
  have unclosed : ¬['*', '/'] <:+: '\n' :: ts.flatMap writeTag ++ [' '] := by
    rw [infix_append_cons_iff (by decide), ← List.nil_append ('\n' :: _), infix_append_cons_iff (by decide)]
    rintro ((empty | inside) | empty)
    · simp at empty
    · exact unclosed_flatMap_writeTag carried inside
    · simp at empty
  have written : writeComment ts = "/**".toList ++ ('\n' :: ts.flatMap writeTag ++ [' ']) ++ "*/".toList := by
    unfold writeComment
    simp
  rw [written]
  exact commentPattern_append unclosed rest

theorem commentPattern_eq_none {s : List Char} (unopened : ¬['/', '*', '*'] <+: s) :
    commentPattern s = none := by
  unfold commentPattern
  split
  · rename_i body
    exact absurd ⟨body, rfl⟩ unopened
  · rfl

theorem getLast?_closed_lines (ls : List (List Char)) :
    ∀ c ∈ (ls.flatMap (· ++ ['\n'])).getLast?, c = '\n' := by
  rcases List.eq_nil_or_concat ls with rfl | ⟨front, last, rfl⟩
  · simp
  · rw [List.concat_eq_append, List.flatMap_append, List.flatMap_singleton, ← List.append_assoc,
      List.getLast?_concat]
    rintro c ⟨⟩
    rfl

/-- Lines without the opening of a documentation comment are plain text to a scan. -/
theorem scan_commentPattern_append {ls : List (List Char)}
    (undocumented : ∀ line ∈ ls, ¬['/', '*', '*'] <:+: line) (rest : List Char) :
    scan commentPattern (ls.flatMap (· ++ ['\n']) ++ rest) =
      (ls.flatMap (· ++ ['\n'])).map .inl ++ scan commentPattern rest := by
  have clean := not_infix_closed_lines (by decide) (by decide) undocumented
  apply scan_append
  intro c tail later
  apply commentPattern_eq_none
  intro opened
  obtain ⟨front, shape⟩ : ∃ front, c :: tail = front ++ ['\n'] := by
    obtain ⟨before, whole⟩ := later
    rcases List.eq_nil_or_concat (c :: tail) with empty | ⟨front, last, shape⟩
    · simp at empty
    · rw [List.concat_eq_append] at shape
      have feed : last = '\n' := by
        apply getLast?_closed_lines ls
        rw [← whole, shape]
        simp
      exact ⟨front, by rw [shape, feed]⟩
  rw [← List.cons_append, shape, List.append_assoc, List.singleton_append] at opened
  have starts : ['/', '*', '*'] <+: c :: tail := by
    rw [shape]
    exact (isPrefix_of_append_cons (by decide) opened).trans (List.prefix_append front ['\n'])
  exact clean (starts.isInfix.trans later.isInfix)

theorem undocumented_writeMember {member : Member} (portable : PortableMember member) :
    ¬['/', '*', '*'] <:+: writeMember member := by
  have shape : writeMember member = "/* @member".toList ++ ' ' :: (member.description.toList ++ ' ' ::
      ("*/".toList ++ '\n' :: (member.declaration.toList ++ ';' :: []))) := by
    unfold writeMember
    simp
  have slashless : '/' ∉ member.declaration.toList := fun slash => (portable.one_line '/' slash).1 rfl
  rw [shape]
  simp only [infix_append_cons_iff (show ' ' ∉ ['/', '*', '*'] by decide),
    infix_append_cons_iff (show '\n' ∉ ['/', '*', '*'] by decide),
    infix_append_cons_iff (show ';' ∉ ['/', '*', '*'] by decide)]
  rintro (opening | inside | closing | inside | empty)
  · exact absurd opening (by decide)
  · exact portable.description.undocumented inside
  · exact absurd closing (by decide)
  · exact slashless (inside.subset (by simp))
  · exact absurd empty (by decide)

theorem undocumented_writeEntry {entry : EnumEntry} (portable : PortableEntry entry) :
    ¬['/', '*', '*'] <:+: writeEntry entry := by
  have shape : writeEntry entry = "/* @entry".toList ++ ' ' :: (entry.description.toList ++ ' ' ::
      ("*/".toList ++ ' ' :: ("\\\nCF_ENUM".toList ++ '(' :: (entry.name.toList ++ ',' :: ([] ++ ' ' ::
        (entry.value.toList ++ ')' :: " \\".toList)))))) := by
    unfold writeEntry
    simp
  rw [shape]
  simp only [infix_append_cons_iff (show ' ' ∉ ['/', '*', '*'] by decide),
    infix_append_cons_iff (show '(' ∉ ['/', '*', '*'] by decide),
    infix_append_cons_iff (show ',' ∉ ['/', '*', '*'] by decide),
    infix_append_cons_iff (show ')' ∉ ['/', '*', '*'] by decide)]
  rintro (opening | inside | closing | marker | inside | empty | inside | ending)
  · exact absurd opening (by decide)
  · exact portable.description.undocumented inside
  · exact absurd closing (by decide)
  · exact absurd marker (by decide)
  · have slash : isWord '/' = true := portable.word '/' (inside.subset (by simp))
    exact absurd slash (by decide)
  · exact absurd empty (by decide)
  · exact portable.undocumented inside
  · exact absurd ending (by decide)

/-- A line of code: it is trimmed, and it opens no documentation comment. -/
structure CodeLine (line : List Char) : Prop where
  filled : line ≠ []
  trimmed : trim line = line
  undocumented : ¬['/', '*', '*'] <:+: line

theorem PortableSignature.codeLine {signature : List Char} (portable : PortableSignature signature) :
    CodeLine (signature ++ ";".toList) := by
  obtain ⟨pieces, proper, written⟩ := portable.declaration
  refine ⟨by simp, ?_, ?_⟩
  · rw [show ";".toList = [';'] from rfl, written, trim_intercalate_words proper]
  · rw [show ";".toList = [';'] from rfl, infix_append_cons_iff (by decide)]
    rintro (inside | empty)
    · exact portable.undocumented inside
    · exact absurd empty (by decide)

theorem PortableMember.codeLine {member : Member} (portable : PortableMember member) :
    CodeLine (writeMember member) := by
  have shape : writeMember member = '/' :: ("* @member ".toList ++ member.description.toList ++
      " */\n".toList ++ member.declaration.toList) ++ [';'] := by
    unfold writeMember
    simp
  refine ⟨?_, ?_, undocumented_writeMember portable⟩
  · simp [shape]
  · rw [shape, trim_enclosed (by decide) (by decide)]

theorem PortableEntry.codeLine {entry : EnumEntry} (portable : PortableEntry entry) :
    CodeLine (writeEntry entry) := by
  have shape : writeEntry entry = '/' :: ("* @entry ".toList ++ entry.description.toList ++
      " */ \\\nCF_ENUM(".toList ++ entry.name.toList ++ ", ".toList ++ entry.value.toList ++
        ") ".toList) ++ ['\\'] := by
    unfold writeEntry
    simp
  refine ⟨?_, ?_, undocumented_writeEntry portable⟩
  · simp [shape]
  · rw [shape, trim_enclosed (by decide) (by decide)]

/-- The lines of code of a canonical record are trimmed and open no documentation comment. -/
theorem codeLine_of_mem {details : Details} (portable : PortableCode details) {line : List Char}
    (member : line ∈ codeLines details) : CodeLine line := by
  cases details with
  | function function =>
    obtain ⟨signature, present, rfl⟩ := List.mem_map.mp member
    exact (portable signature (Option.mem_toList.mp present)).codeLine
  | struct members =>
    obtain ⟨item, known, rfl⟩ := List.mem_map.mp member
    exact (portable item known).codeLine
  | enum entries =>
    obtain ⟨item, known, rfl⟩ := List.mem_map.mp member
    exact (portable item known).codeLine
  | topic topic => exact absurd portable id

theorem trim_writeCode {details : Details} (portable : PortableCode details) :
    trim ('\n' :: writeCode details) = joinLines (codeLines details) := by
  apply trim_closed_lines
  intro line member
  exact ⟨(codeLine_of_mem portable member).filled, (codeLine_of_mem portable member).trimmed⟩

/-- A written record is scanned as its comment and then plain text. -/
theorem Canonical.scan_writeRecord {record : Record} (canonical : Canonical record) (rest : List Char) :
    scan commentPattern (writeRecord record ++ rest) =
      .inr (writeComment (recordTags record)) ::
        (('\n' :: writeCode record.details).map .inl ++ scan commentPattern rest) := by
  have plain : scan commentPattern ('\n' :: writeCode record.details ++ rest) =
      ('\n' :: writeCode record.details).map .inl ++ scan commentPattern rest := by
    have undocumented : ∀ line ∈ [] :: codeLines record.details, ¬['/', '*', '*'] <:+: line := by
      rw [List.forall_mem_cons]
      exact ⟨by decide, fun line member => (codeLine_of_mem canonical.code member).undocumented⟩
    exact scan_commentPattern_append undocumented rest
  have applies := commentPattern_writeComment canonical.carried ('\n' :: writeCode record.details ++ rest)
  obtain ⟨body, shape⟩ : ∃ body, writeComment (recordTags record) = '/' :: body := by
    unfold writeComment
    simp
  have written : writeRecord record ++ rest =
      writeComment (recordTags record) ++ ('\n' :: writeCode record.details ++ rest) := by
    unfold writeRecord
    rw [List.append_assoc]
  rw [written, ← plain]
  rw [shape] at applies ⊢
  exact scan_cons_of_eq_some applies (List.suffix_append body _)

/-- The comments of a written header are those of its records, each with the code of its record. -/
theorem comments_write {rs : List Record} (canonical : ∀ record ∈ rs, Canonical record) :
    comments (write rs) = ([], rs.map fun record =>
      (writeComment (recordTags record), '\n' :: writeCode record.details)) := by
  have groups : groupBy Sum.getRight? (scan commentPattern (write rs)) = ([], rs.map fun record =>
      (writeComment (recordTags record), ('\n' :: writeCode record.details).map .inl)) := by
    induction rs with
    | nil => rfl
    | cons record rest ih =>
      rw [List.forall_mem_cons] at canonical
      have plain : ∀ item ∈ ('\n' :: writeCode record.details).map (@Sum.inl Char (List Char)),
          item.getRight? = none := by
        intro item member
        obtain ⟨c, -, rfl⟩ := List.mem_map.mp member
        rfl
      have announced : (Sum.inr (writeComment (recordTags record)) : Char ⊕ List Char).getRight? =
          some (writeComment (recordTags record)) := rfl
      rw [write, List.flatMap_cons, canonical.1.scan_writeRecord, groupBy_cons_of_eq_some announced,
        groupBy_append_of_plain plain]
      have tail := ih canonical.2
      rw [write] at tail
      rw [tail, List.append_nil]
      rfl
  have letters (s : List Char) :
      (s.map (@Sum.inl Char (List Char))).filterMap Sum.getLeft? = s := by
    rw [List.filterMap_map]
    exact List.filterMap_some
  rw [comments, groups]
  simp [letters]

end ApiAtlas.Header
