import ApiAtlas.Proofs.Header.FieldLines
import ApiAtlas.Proofs.Render.ShownLines
import ApiAtlas.Proofs.Tool.CategoryListing

/-! # Lists of records, line by line

A search and the page of a category list records by their summaries: a line with a bullet, and for a function with a
signature a second one. Name, category and brief are written as they are, so a summary keeps to its lines exactly if
each of the three was written on one line, and a list does exactly if all its summaries do. A signature never goes
beyond its line.
-/

namespace ApiAtlas

open Text

/-- The tags that a summary shows say what they say on one line each. -/
def Header.Block.Terse (block : Block) (kind : RecordKind) : Prop :=
  ∀ name ∈ [kind.label, "category", "brief"], (filledLines (tagLines name block.comment)).length ≤ 1

instance (block : Header.Block) (kind : RecordKind) : Decidable (block.Terse kind) :=
  inferInstanceAs (Decidable (∀ name ∈ [kind.label, "category", "brief"],
    (filledLines (Header.tagLines name block.comment)).length ≤ 1))

namespace Render

open Header

/-- What the line with the bullet says about a record. -/
def bulletLine (record : Record) : String :=
  "- **" ++ record.name ++ "** `(" ++ kindNote record ++ ")` — " ++ record.briefText

/-- The lines that a summary is meant to have. -/
def summaryLines (record : Record) : List String :=
  bulletLine record :: record.signature?.toList.map fun signature => "  `" ++ signature ++ "`"

/-- A record whose summary has the lines it is meant to have, and no others. -/
def KeepsToLines (record : Record) : Prop :=
  shownLines (summary record) = summaryLines record

/-- A summary is written line by line, as it is meant to be shown. -/
theorem summary_eq_linesOf (record : Record) : summary record = linesOf (summaryLines record) line := by
  have below : signatureLine record =
      linesOf (record.signature?.toList.map fun signature => "  `" ++ signature ++ "`") line := by
    unfold signatureLine
    cases record.signature? with
    | none => rfl
    | some signature =>
      rw [Option.toList_some, List.map_singleton, linesOf_cons]
      exact String.append_empty.symm
  rw [summaryLines, linesOf_cons, ← below]
  rfl

/-- Summaries below each other are one list of lines. -/
theorem linesOf_summary (records : List Record) :
    linesOf records summary = linesOf (records.flatMap summaryLines) line := by
  induction records with
  | nil => rfl
  | cons record rest ih =>
    rw [linesOf_cons, List.flatMap_cons, linesOf_append, summary_eq_linesOf, ih]

/-- A record keeps to its lines exactly if nothing in its summary breaks a line. -/
theorem keepsToLines_iff {record : Record} :
    KeepsToLines record ↔ ∀ text ∈ summaryLines record, IsLine text.toList := by
  rw [KeepsToLines, summary_eq_linesOf, shownLines_linesOf_iff]

/-- A list between complete lines and anything else has the lines it is meant to have exactly if all its records keep to
theirs. -/
theorem shownLines_list_iff {front : String} (complete : Complete front.toList) (records : List Record)
    (back : String) :
    shownLines (front ++ linesOf records summary ++ back) =
        shownLines front ++ records.flatMap summaryLines ++ shownLines back ↔
      ∀ record ∈ records, KeepsToLines record := by
  rw [linesOf_summary, String.append_assoc, shownLines_append complete,
    shownLines_append (complete_linesOf complete_line), ← List.append_assoc, List.append_left_inj,
    List.append_right_inj, shownLines_linesOf_iff]
  simp only [List.forall_mem_flatMap, keepsToLines_iff]

section Documented

variable {block : Block} {record : Record} (documents : block.Documents record)

include documents

/-- What stands between the parentheses breaks the line exactly if the category does. -/
theorem feedless_kindNote_iff :
    '\n' ∉ (kindNote record).toList ↔ '\n' ∉ shownValue "category" (tags block.comment) := by
  have label : '\n' ∉ record.kind.label.toList := by cases record.kind <;> decide
  rw [kindNote, documents.isTopic_eq_false, if_neg Bool.false_ne_true, shownValue, ← documents.category,
    Record.categoryName?]
  cases record.category with
  | none => simpa using label
  | some category =>
    by_cases empty : category = ""
    · simp [Option.filter, empty, label]
    · simp [Option.filter, empty, label]

/-- The end of a line with a bullet is what was trimmed, or a space. -/
theorem returnless_bulletLine : (bulletLine record).toList.getLast? ≠ some '\r' := by
  rw [bulletLine, String.toList_append, documents.toList_briefText, shownValue_tags]
  generalize joinLines (tagLines "brief" block.comment) = written
  intro ends
  rw [List.getLast?_append] at ends
  cases last : (trim written).getLast? with
  | none =>
    have space : ")` — ".toList.getLast? = some ' ' := by decide
    rw [last, Option.none_or, String.toList_append, List.getLast?_append, space, Option.some_or] at ends
    exact absurd ends (by decide)
  | some c =>
    rw [last, Option.some_or, Option.some_inj] at ends
    subst ends
    exact absurd (getLast_of_trim_eq_self (trim_trim written) '\r' last) (by decide)

/-- The line with the bullet is one line exactly if name, category and brief were each written on one. -/
theorem isLine_bulletLine_iff : IsLine (bulletLine record).toList ↔ block.Terse record.kind := by
  have feedless : '\n' ∉ (bulletLine record).toList ↔
      '\n' ∉ record.name.toList ∧ '\n' ∉ (kindNote record).toList ∧ '\n' ∉ record.briefText.toList := by
    simp [bulletLine]
  have shown : '\n' ∉ (bulletLine record).toList ↔ block.Terse record.kind := by
    rw [feedless, feedless_kindNote_iff documents, documents.toList_name, documents.toList_briefText,
      feedless_shownValue_iff, feedless_shownValue_iff, feedless_shownValue_iff, Block.Terse]
    simp
  exact ⟨fun one => shown.mp one.feedless, fun terse => ⟨shown.mpr terse, returnless_bulletLine documents⟩⟩

/-- The line with a signature is always one line. -/
theorem isLine_signature {signature : String} (shown : record.signature? = some signature) :
    IsLine ("  `" ++ signature ++ "`").toList := by
  have found : signature? (trim block.code) = some signature := by
    rcases documents.details with details | details | details <;> simp only [Record.signature?, details] at shown
    · exact shown
    · contradiction
    · contradiction
  rw [String.toList_append]
  refine IsLine.prepend ?_ ⟨by decide, by decide⟩ (by decide)
  simpa using feedless_of_signature? found

/-- A record keeps to its lines exactly if the tags that its summary shows are terse. -/
theorem keepsToLines_iff_terse : KeepsToLines record ↔ block.Terse record.kind := by
  rw [keepsToLines_iff, summaryLines, List.forall_mem_cons, isLine_bulletLine_iff documents]
  refine and_iff_left ?_
  intro text member
  obtain ⟨signature, shown, rfl⟩ := List.mem_map.mp member
  exact isLine_signature documents (Option.mem_toList.mp shown)

end Documented

/-- What a search finds. -/
def searchResults (catalog : Catalog) (query : String) (kind : Option RecordKind) (category : Option String)
    (limit : Option Nat) : List Record :=
  catalog.search ⟨some query, kind, givenFilter? category, limit.getD defaultLimit⟩

/-- What an answer to a search says before the records. -/
def searchHead (found limit : Nat) : String :=
  line ("Found " ++ toString found ++ " result(s)" ++
    (if limit ≤ found then " (limit reached, more may exist)" else "") ++ ":\n")

/-- What an answer to a search says after the records. -/
def searchFoot (found limit : Nat) : String :=
  "\n**Tip:** Use `cf_get_details` with an exact name to get full documentation including parameters, examples, and related items." ++
    if limit ≤ found then "\nTo find more results, narrow your search with `type` or `category` filters." else ""

/-- An answer that found something is a list of summaries between a head and a foot. -/
theorem searchAnswer_eq {catalog : Catalog} {query : String} {kind : Option RecordKind} {category : Option String}
    {limit : Option Nat} (found : searchResults catalog query kind category limit ≠ []) :
    searchAnswer catalog query kind category limit =
      let results := searchResults catalog query kind category limit
      searchHead results.length (limit.getD defaultLimit) ++ linesOf results summary ++
        searchFoot results.length (limit.getD defaultLimit) := by
  have filled : ¬(searchResults catalog query kind category limit).isEmpty = true := by simpa using found
  simp only [searchAnswer]
  rw [← searchResults, if_neg filled, String.append_assoc]
  rfl

/-- What the page of a category says before the records. -/
def categoryHead (category : String) : String :=
  "Items in '" ++ category ++ "':\n\n"

/-- What the page of a category says after the records. -/
def categoryFoot (topics : List Record) : String :=
  (if topics = [] then "" else "\n## Related Topics\n" ++ String.join (topics.map topicLine)) ++
    "\n**Tip:** Use `cf_get_details` with an exact name for full documentation."

/-- The page of a category with items is a list of summaries between a head and a foot. -/
theorem categoryAnswer_of_listed {catalog : Catalog} {category : String} {kind : Option RecordKind}
    (found : listedItems (catalog.inCategory category) kind ≠ []) :
    categoryAnswer catalog category kind =
      categoryHead category ++ linesOf (listedItems (catalog.inCategory category) kind) summary ++
        categoryFoot (if kind = some .topic then [] else (catalog.inCategory category).filter Record.isTopic) := by
  have filled : ¬(listedItems (catalog.inCategory category) kind = [] ∧
      (kind.isSome = true ∨ (catalog.inCategory category).filter Record.isTopic = [])) := fun nothing => found nothing.1
  simp only [categoryAnswer_eq]
  rw [if_neg filled]
  exact String.append_assoc

/-- An answer to a search has the lines it is meant to have exactly if all that it found keeps to its lines. -/
theorem shownLines_searchAnswer_iff {catalog : Catalog} {query : String} {kind : Option RecordKind}
    {category : Option String} {limit : Option Nat} (found : searchResults catalog query kind category limit ≠ []) :
    let results := searchResults catalog query kind category limit
    shownLines (searchAnswer catalog query kind category limit) =
        shownLines (searchHead results.length (limit.getD defaultLimit)) ++ results.flatMap summaryLines ++
          shownLines (searchFoot results.length (limit.getD defaultLimit)) ↔
      ∀ record ∈ results, KeepsToLines record := by
  rw [searchAnswer_eq found]
  exact shownLines_list_iff (complete_line _) _ _

/-- The page of a category has the lines it is meant to have exactly if all its items keep to theirs. -/
theorem shownLines_categoryAnswer_iff {catalog : Catalog} {category : String} {kind : Option RecordKind}
    (found : listedItems (catalog.inCategory category) kind ≠ []) :
    let listed := listedItems (catalog.inCategory category) kind
    shownLines (categoryAnswer catalog category kind) =
        shownLines (categoryHead category) ++ listed.flatMap summaryLines ++
          shownLines (categoryFoot (if kind = some .topic then [] else
            (catalog.inCategory category).filter Record.isTopic)) ↔
      ∀ record ∈ listed, KeepsToLines record := by
  have complete : Complete (categoryHead category).toList := by
    have ends : (categoryHead category).toList = ("Items in '" ++ category ++ "':\n").toList ++ ['\n'] := by
      simp [categoryHead]
    rw [ends]
    exact complete_append_feed _
  rw [categoryAnswer_of_listed found]
  exact shownLines_list_iff complete _ _

/-- A record of a header keeps to its lines exactly if its name, its category and its brief were each written on one
line. An answer that lists records has a bullet for each record, in their order, and between them nothing but
signatures, exactly if all the records keep to their lines. -/
theorem summaries_keep_to_lines_iff (file : String) (s : List Char) (catalog : Catalog) :
    (∀ block ∈ blocks s, ∀ record, block.record? file = some record →
      (KeepsToLines record ↔ block.Terse record.kind)) ∧
    (∀ (query : String) (kind : Option RecordKind) (category : Option String) (limit : Option Nat),
      let results := searchResults catalog query kind category limit
      results ≠ [] →
        (shownLines (searchAnswer catalog query kind category limit) =
            shownLines (searchHead results.length (limit.getD defaultLimit)) ++ results.flatMap summaryLines ++
              shownLines (searchFoot results.length (limit.getD defaultLimit)) ↔
          ∀ record ∈ results, KeepsToLines record)) ∧
    (∀ (category : String) (kind : Option RecordKind),
      let listed := listedItems (catalog.inCategory category) kind
      listed ≠ [] →
        (shownLines (categoryAnswer catalog category kind) =
            shownLines (categoryHead category) ++ listed.flatMap summaryLines ++
              shownLines (categoryFoot (if kind = some .topic then [] else
                (catalog.inCategory category).filter Record.isTopic)) ↔
          ∀ record ∈ listed, KeepsToLines record)) := by
  refine ⟨?_, ?_, ?_⟩
  · intro block _ record read
    exact keepsToLines_iff_terse (Block.documents_of_record? read)
  · intro query kind category limit results found
    exact shownLines_searchAnswer_iff found
  · intro category kind listed found
    exact shownLines_categoryAnswer_iff found

/-- A header whose names, categories and briefs are written on one line each. -/
def terseHeader : List Char :=
  "/**\n * @function cf_f\n * @category app\n * @brief\n *   One.\n *\n */\nvoid cf_f(void);\n\n/**\n * @struct S\n * @category app\n */\nstruct S;\n".toList

/-- The records of `terseHeader`. -/
def terseRecords : List Record :=
  [{ Record.ofDetails "cf_f" (.function ⟨some "void cf_f(void)", [], none⟩) with
      category := some "app", brief := some "One.", source := some ⟨"f.h", some 1⟩ },
    { Record.ofDetails "S" (.struct []) with category := some "app", source := some ⟨"f.h", some 10⟩ }]

theorem summaries_keep_to_lines_terseHeader :
    records "f.h" terseHeader = terseRecords ∧ (∀ record ∈ terseRecords, KeepsToLines record) ∧
    shownLines (categoryAnswer (.ofRecords terseRecords) "app" none) =
      ["Items in 'app':", "", "- **cf_f** `(function, app)` — One.", "  `void cf_f(void)`",
        "- **S** `(struct, app)` — ", "",
        "**Tip:** Use `cf_get_details` with an exact name for full documentation."] := by
  have read : records "f.h" terseHeader = terseRecords := by decide +kernel
  have terse : ∀ block ∈ blocks terseHeader, ∀ record ∈ block.record? "f.h", block.Terse record.kind := by
    decide +kernel
  obtain ⟨summaries, -, pages⟩ := summaries_keep_to_lines_iff "f.h" terseHeader (.ofRecords terseRecords)
  have kept : ∀ record ∈ terseRecords, KeepsToLines record := by
    intro record member
    rw [← read] at member
    obtain ⟨block, known, found⟩ := List.mem_filterMap.mp member
    exact (summaries block known record found).mpr (terse block known record found)
  have listed : listedItems ((Catalog.ofRecords terseRecords).inCategory "app") none = terseRecords := by
    decide +kernel
  have page := pages "app" none
  rw [listed] at page
  refine ⟨read, kept, ((page (by decide)).mpr kept).trans ?_⟩
  decide +kernel

/-- A header with a brief of two lines. -/
def wrappedBriefHeader : List Char :=
  "/**\n * @function cf_f\n * @brief First line.\n *        Second line.\n */\nvoid cf_f(void);\n".toList

/-- A brief of two lines puts a line between the bullet and the signature. -/
theorem wrapped_brief_breaks_summary : ∃ record ∈ records "test.h" wrappedBriefHeader,
    summaryLines record = ["- **cf_f** `(function)` — First line.\n       Second line.", "  `void cf_f(void)`"] ∧
    shownLines (summary record) =
      ["- **cf_f** `(function)` — First line.", "       Second line.", "  `void cf_f(void)`"] ∧
    ¬KeepsToLines record := by
  unfold KeepsToLines
  decide +kernel

end Render

end ApiAtlas
