import ApiAtlas.Lookup.MemberMatch
import ApiAtlas.Lookup.Related
import ApiAtlas.Lookup.TypeUsage
import ApiAtlas.Render.Detail
import ApiAtlas.Search.Query

/-! # Answers to questions

Each answer is a text. Something that cannot be found is not an error: the answer says so, and
where it can, it suggests what was meant.
-/

namespace ApiAtlas.Render

open Text

/-- A filter that is given. A blank one counts as none. -/
def givenFilter? (filter : Option String) : Option String :=
  filter.filter fun text => !isBlankText text.toList

/-- The results of a search. -/
def searchAnswer (catalog : Catalog) (query : String) (kind : Option RecordKind)
    (category : Option String) (limit : Option Nat) : String :=
  let limit := limit.getD defaultLimit
  let results := catalog.search ⟨some query, kind, givenFilter? category, limit⟩
  if results.isEmpty then "No results found for '" ++ query ++ "'"
  else
    let limitReached := limit ≤ results.length
    line ("Found " ++ toString results.length ++ " result(s)" ++
        (if limitReached then " (limit reached, more may exist)" else "") ++ ":\n") ++
      linesOf results summary ++
      "\n**Tip:** Use `cf_get_details` with an exact name to get full documentation including parameters, examples, and related items." ++
      if limitReached then
        "\nTo find more results, narrow your search with `type` or `category` filters."
      else ""

/-- At most this many items are suggested for a name that is not found. -/
def suggestionLimit : Nat := 5

/-- The page of an item, or suggestions. -/
def detailsAnswer (catalog : Catalog) (name : String) : String :=
  match catalog.find? name with
  | some record => detail catalog record
  | none =>
    let similar := catalog.search { SearchQuery.ofText name with limit := suggestionLimit }
    line ("Not found: '" ++ name ++ "'\n") ++
      (if similar.isEmpty then ""
        else line "**Similar items:**" ++ linesOf similar referenceLine ++ line "") ++
      "**Tip:** Cute Framework uses `cf_` prefix for functions and `CF_` prefix for types (structs/enums)."

/-- How many records of each kind there are; kinds without records are left out. -/
def breakdown (records : List Record) : String :=
  let counts := RecordKind.all.map fun kind =>
    (kind, (records.filter fun record => record.kind == kind).length)
  ", ".intercalate ((counts.filter fun (_, count) => 0 < count).map fun (kind, count) =>
    toString count ++ " " ++ kind.plural)

/-- All categories with their counts. -/
def categoriesAnswer (catalog : Catalog) : String :=
  if catalog.categories.isEmpty then "No categories found"
  else
    "Available categories:\n\n" ++
      linesOf catalog.categories (fun category =>
        let records := catalog.inCategory category
        line ("- **" ++ category ++ "** (" ++ toString records.length ++ " items: " ++
          breakdown records ++ ")")) ++
      "\n**Tip:** Use `cf_list_category` with a category name to see its items."

/-- The records of a category that are listed as items: those of the kind asked for, or all that
are no guides. -/
def listedItems (records : List Record) : Option RecordKind → List Record
  | some kind => records.filter fun record => record.kind == kind
  | none => records.filter fun record => !record.isTopic

/-- The items of a category, and the guides in it unless guides were asked for. -/
def categoryAnswer (catalog : Catalog) (category : String) (kind : Option RecordKind) : String :=
  let records := catalog.inCategory category
  let topics := records.filter Record.isTopic
  let listed := listedItems records kind
  if listed.isEmpty && (kind.isSome || topics.isEmpty) then
    "No items found in category '" ++ category ++ "'" ++
      (match kind with
        | some kind => " of type " ++ kind.label
        | none => "")
  else
    "Items in '" ++ category ++ "':\n\n" ++ linesOf listed summary ++
      (if !topics.isEmpty && kind != some .topic then
        line "\n## Related Topics" ++ linesOf topics topicLine
        else "") ++
      "\n**Tip:** Use `cf_get_details` with an exact name for full documentation."

/-- An entry among the relations of a record. -/
def relatedLine : RelatedEntry → String
  | .found record => referenceLine record
  | .missing name => line ("- `" ++ name ++ "` (not found in index)")

/-- The relations of an item. -/
def relatedAnswer (catalog : Catalog) (name : String) : String :=
  match catalog.relations? name with
  | none => "Not found: '" ++ name ++ "'"
  | some relations =>
    if relations.isEmpty then
      "# " ++ name ++ "\n\nNo related items found.\n\n**Tip:** Not all items have explicit relationships documented."
    else
      "# Related items for " ++ name ++ "\n\n" ++
        (if relations.references.isEmpty then ""
          else line "## References (items this references)" ++
            linesOf relations.references relatedLine ++ line "") ++
        (if relations.referencedBy.isEmpty then ""
          else line "## Referenced by (items that reference this)" ++
            linesOf relations.referencedBy referenceLine ++ line "")

/-- Functions under a heading with their number. A list without functions is left out. -/
def functionList (title : String) (functions : List Record) : String :=
  if functions.isEmpty then ""
  else
    line ("## " ++ title ++ " (" ++ toString functions.length ++ ")") ++
      linesOf functions (fun record => topicLine record ++ signatureLine record) ++ line ""

/-- The functions that use a type. -/
def typeUsageAnswer (catalog : Catalog) (typeName : String) (direction : Direction) : String :=
  let usage := catalog.typeUsage typeName direction
  if usage.inputs.isEmpty && usage.outputs.isEmpty then
    "No functions found using type '" ++ typeName ++ "'"
  else
    "# Functions using '" ++ typeName ++ "'\n\n" ++
      functionList "Takes as input" usage.inputs ++
      functionList "Returns" usage.outputs ++
      "**Tip:** Use `cf_get_details` with a function name for full documentation."

/-- A struct with the members that were looked for. -/
def memberMatchLines (found : MemberMatch) : String :=
  let record := found.record
  let note := match record.categoryName? with
    | some category => " (" ++ category ++ ")"
    | none => ""
  line ("- **" ++ record.name ++ "**" ++ note ++ " — " ++ record.briefText) ++
    linesOf found.members fun member =>
      line ("  - `" ++ member.declaration ++ "` — " ++ member.description)

/-- The structs with certain members. -/
def membersAnswer (catalog : Catalog) (query : String) (limit : Nat) : String :=
  let found := catalog.structsWithMember query limit
  if found.isEmpty then "No structs found with members matching '" ++ query ++ "'"
  else
    "# Structs with members matching '" ++ query ++ "'\n\n" ++
      linesOf found memberMatchLines ++
      (if limit ≤ found.length then
        "\n_Results limited to " ++ toString limit ++
          ". Narrow your search for more specific results._\n"
        else "") ++
      "\n**Tip:** Use `cf_get_details` with a struct name for full documentation."

/-- What stands before a guide in the list: its number if the list is in reading order and the
guide has a place in it, else a bullet. -/
def topicMark (ordered : Bool) (position : Nat) (record : Record) : String :=
  if ordered && record.readingOrder?.isSome then toString (position + 1) ++ ". " else "- "

/-- The guides that a list shows. -/
def listedTopics (catalog : Catalog) (category : Option String) (ordered : Bool) : List Record :=
  let topics := if ordered then catalog.topicsInOrder else catalog.ofKind .topic
  topics.filter fun record => category.all fun name => record.categoryName? == some name

/-- The list of guides. -/
def topicsAnswer (catalog : Catalog) (category : Option String) (ordered : Bool) : String :=
  let topics := listedTopics catalog category ordered
  if topics.isEmpty then
    "No topics found" ++
      (match category with
        | some name => " in category '" ++ name ++ "'"
        | none => "") ++
      "\n\nUse `cf_list_topics` without a category to see all available topics."
  else
    "# Cute Framework Topics\n\n" ++
      (if ordered then line "_Listed in recommended reading order_\n" else "") ++
      linesOf topics.zipIdx (fun (record, position) =>
        line (topicMark ordered position record ++ "**" ++ record.name ++ "** — " ++
          record.briefText)) ++
      "\n**Tip:** Use `cf_get_topic` with a topic name to read the full content."

/-- A name without underscores. -/
def squashed (name : List Char) : List Char :=
  name.filter (· != '_')

/-- Whether a guide's name resembles a name: one contains the other, or the guide's name without
underscores contains the other one without them. -/
def resembles (name topic : List Char) : Bool :=
  occursIn name topic || occursIn topic name || occursIn (squashed name) (squashed topic)

/-- The page of a guide, or guides with similar names. -/
def topicAnswer (catalog : Catalog) (name : String) : String :=
  match (catalog.find? name).filter Record.isTopic with
  | some record => detail catalog record
  | none =>
    let similar := (catalog.ofKind .topic).filter fun record =>
      resembles name.toList record.name.toList
    "Topic not found: '" ++ name ++ "'\n\n" ++
      if similar.isEmpty then "Use `cf_list_topics` to see available topics."
      else line "**Similar topics:**" ++ linesOf similar topicLine

end ApiAtlas.Render
