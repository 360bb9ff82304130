import ApiAtlas.Proofs.Header.FieldLines
import ApiAtlas.Proofs.Render.ShownLines
import ApiAtlas.Render.Detail

/-! # Tables of items

The page of a function, struct or enum shows its items in a table, one row for each. A row is a line of its own: cells
are freed of line feeds, and what is written as it is, a name or a declaration, never has one if it was read from a
header.
-/

namespace ApiAtlas.Render

open Text Header

/-- The rows of the table on a page. -/
def tableRows : Details → List String
  | .function function => function.parameters.map parameterRow
  | .struct members => members.map memberRow
  | .enum entries => entries.map entryRow
  | .topic _ => []

/-- How many parameters, members or entries there are. -/
def itemCount : Details → Nat
  | .function function => function.parameters.length
  | .struct members => members.length
  | .enum entries => entries.length
  | .topic _ => 0

theorem length_tableRows (details : Details) : (tableRows details).length = itemCount details := by
  cases details <;> simp [tableRows, itemCount]

/-- The title over a table, and the two header lines that the rows follow. -/
def tableHead : Details → List String
  | .function _ => ["## Parameters", "", "| Parameter | Description |", "| --- | --- |"]
  | .struct _ => ["## Members", "", "| Member | Description |", "| --- | --- |"]
  | .enum _ => ["## Values", "", "| Name | Value | Description |", "| --- | --- | --- |"]
  | .topic _ => []

/-- The lines of the table on a page, from its title to the blank line after it. Without rows there are none. -/
def tableLines (details : Details) : List String :=
  if tableRows details = [] then [] else tableHead details ++ tableRows details ++ [""]

/-- The page of an item up to its table. -/
def pageTop (record : Record) : String :=
  head record ++
    ifPresent record.signature? (fun signature => line "## Signature" ++ codeBlock signature) ++
    line "## Description" ++ ifPresent record.brief line ++ line ""

/-- What is said about the value that a function returns. -/
def returnSection : Details → String
  | .function function => ifNonempty function.returnDescription fun text => line ("## Return Value\n" ++ text ++ "\n")
  | _ => ""

/-- The page of an item after its table. -/
def pageBottom (catalog : Catalog) (record : Record) : String :=
  returnSection record.details ++
    ifNonempty record.remarks (fun remarks => line ("## Remarks\n" ++ remarks ++ "\n")) ++
    exampleBlock record ++
    nameList "Related" record.related (apiReference catalog) ++
    mentioningTopics catalog record.name

theorem table_eq_linesOf (title head rule : String) (rows : List String) :
    table title head rule rows =
      linesOf (if rows = [] then [] else ["## " ++ title, "", head, rule] ++ rows ++ [""]) line := by
  have titled : line ("## " ++ title ++ "\n") = line ("## " ++ title) ++ line "" := by
    rw [line, line, line, String.empty_append]
  have nothing : linesOf [] line = "" := rfl
  cases rows with
  | nil => rfl
  | cons row rest =>
    rw [if_neg (List.cons_ne_nil row rest), linesOf_append, linesOf_append]
    simp only [linesOf_cons _ [_], linesOf_cons _ [_, _], linesOf_cons _ [_, _, _], linesOf_cons _ [], nothing,
      String.append_empty]
    rw [table, List.isEmpty_cons, if_neg Bool.false_ne_true, titled]
    simp only [String.append_assoc]

theorem particulars_eq (details : Details) :
    particulars details = linesOf (tableLines details) line ++ returnSection details := by
  cases details with
  | function function =>
    rw [particulars, table_eq_linesOf]
    rfl
  | struct members =>
    rw [particulars, table_eq_linesOf]
    exact String.append_empty.symm
  | enum entries =>
    rw [particulars, table_eq_linesOf]
    exact String.append_empty.symm
  | topic topic => rfl

/-- A page is its table between what comes before and what comes after. -/
theorem detail_eq (catalog : Catalog) {record : Record} (item : ∀ topic, record.details ≠ .topic topic) :
    detail catalog record =
      pageTop record ++ linesOf (tableLines record.details) line ++ pageBottom catalog record := by
  have page : detail catalog record = itemDetail catalog record := by
    unfold detail
    split
    · rename_i topic details
      exact absurd details (item topic)
    · rfl
  rw [page, itemDetail, particulars_eq, pageTop, pageBottom]
  simp only [String.append_assoc]

theorem feedless_cell (text : String) : '\n' ∉ (cell text).toList := by
  rw [cell, String.toList_ofList]
  exact not_mem_replaceChar (by decide) _

/-- A row ends with a bar, so it is one line if it has no line feed. -/
theorem isLine_row {text : String} (feedless : '\n' ∉ text.toList) : IsLine (text ++ " |").toList := by
  rw [String.toList_append]
  exact IsLine.prepend feedless ⟨by decide, by decide⟩ (by decide)

theorem isLine_parameterRow {parameter : Parameter} (feedless : '\n' ∉ parameter.name.toList) :
    IsLine (parameterRow parameter).toList := by
  apply isLine_row
  simp [feedless, feedless_cell]

theorem isLine_memberRow {member : Member} (feedless : '\n' ∉ member.declaration.toList) :
    IsLine (memberRow member).toList := by
  apply isLine_row
  simp [feedless, feedless_cell]

theorem isLine_entryRow {entry : EnumEntry} (feedless : '\n' ∉ entry.name.toList) :
    IsLine (entryRow entry).toList := by
  apply isLine_row
  simp [feedless, feedless_cell]

/-- The rows for what a block documents are lines. -/
theorem isLine_of_mem_tableRows {block : Block} {record : Record} (documents : block.Documents record) :
    ∀ row ∈ tableRows record.details, IsLine row.toList := by
  intro row member
  rcases documents.details with details | details | details <;> rw [details] at member
  · obtain ⟨parameter, known, rfl⟩ := List.mem_map.mp member
    exact isLine_parameterRow (feedless_of_mem_parameters known)
  · obtain ⟨item, known, rfl⟩ := List.mem_map.mp member
    exact isLine_memberRow (feedless_of_mem_members known)
  · obtain ⟨entry, known, rfl⟩ := List.mem_map.mp member
    exact isLine_entryRow (feedless_of_mem_entries known)

theorem isLine_of_mem_tableHead (details : Details) : ∀ text ∈ tableHead details, IsLine text.toList := by
  intro text member
  cases details <;> simp only [tableHead, List.mem_cons, List.not_mem_nil, or_false] at member
  · rcases member with rfl | rfl | rfl | rfl <;> exact ⟨by decide, by decide⟩
  · rcases member with rfl | rfl | rfl | rfl <;> exact ⟨by decide, by decide⟩
  · rcases member with rfl | rfl | rfl | rfl <;> exact ⟨by decide, by decide⟩

theorem shownLines_tableLines {details : Details} (rows : ∀ row ∈ tableRows details, IsLine row.toList) :
    shownLines (linesOf (tableLines details) line) = tableLines details := by
  apply shownLines_linesOf_iff.mpr
  intro text member
  unfold tableLines at member
  split_ifs at member
  · contradiction
  · rw [List.mem_append, List.mem_append, List.mem_singleton] at member
    rcases member with (head | row) | rfl
    · exact isLine_of_mem_tableHead details text head
    · exact rows text row
    · exact ⟨by decide, by decide⟩

theorem complete_pageTop (record : Record) : Complete (pageTop record).toList := by
  rw [pageTop, String.toList_append]
  exact complete_append_feed _

/-- The table on the page of a record of a header is shown with a line for each item, in the order of the items. -/
theorem detail_has_row_per_item {file : String} {s : List Char} {record : Record} (read : record ∈ records file s)
    (catalog : Catalog) :
    detail catalog record = pageTop record ++ linesOf (tableLines record.details) line ++ pageBottom catalog record ∧
      shownLines (detail catalog record) =
        shownLines (pageTop record) ++ tableLines record.details ++ shownLines (pageBottom catalog record) ∧
      (tableRows record.details).length = itemCount record.details ∧
      ∀ row ∈ tableRows record.details, '\n' ∉ row.toList := by
  obtain ⟨block, -, documents⟩ := exists_documents read
  have rows := isLine_of_mem_tableRows documents
  have page := detail_eq catalog documents.details_ne_topic
  refine ⟨page, ?_, length_tableRows record.details, fun row member => (rows row member).feedless⟩
  rw [page, String.append_assoc, shownLines_append (complete_pageTop record),
    shownLines_append (complete_linesOf complete_line), shownLines_tableLines rows, List.append_assoc]

/-- A header in which the description of a member goes over two lines. -/
def pairHeader : List Char :=
  "/**\n * @struct Pair\n */\nstruct Pair\n\x7b\n\t/* @member First |\n second. */\n\tint a;\n\t/* @member Third. */\n\tint b;\n\x7d;\n".toList

/-- The record of `pairHeader`. -/
def pairRecord : Record :=
  { Record.ofDetails "Pair" (.struct [⟨"int a", "First |\n second."⟩, ⟨"int b", "Third."⟩]) with
    source := some ⟨"f.h", some 1⟩ }

theorem detail_has_row_per_item_pairRecord : pairRecord ∈ records "f.h" pairHeader ∧
    shownLines (detail .empty pairRecord) =
      shownLines (pageTop pairRecord) ++
        ["## Members", "", "| Member | Description |", "| --- | --- |", "| `int a` | First \\|  second. |",
          "| `int b` | Third. |", ""] ++
        shownLines (pageBottom .empty pairRecord) := by
  have read : pairRecord ∈ records "f.h" pairHeader := by decide +kernel
  have rows : tableLines pairRecord.details =
      ["## Members", "", "| Member | Description |", "| --- | --- |", "| `int a` | First \\|  second. |",
        "| `int b` | Third. |", ""] := by
    decide +kernel
  refine ⟨read, ?_⟩
  rw [← rows]
  exact (detail_has_row_per_item read .empty).2.1

end ApiAtlas.Render
