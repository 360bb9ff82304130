import ApiAtlas.Proofs.Search.Ranking
import ApiAtlas.Tool.Listing

/-! # Category pages and filtered searches

A page about a category is read off the index of categories; a search without a text goes through all records and
compares their category with the one that is asked for. Both see the same records in the same order, after every
history of a catalog. So pages and counts can be stated by searches alone: what is listed as an item, what as a guide,
when nothing is found, and how many records of each kind there are.
-/

namespace ApiAtlas

namespace Catalog

/-- The records of a category, and of a kind if one is given, as a search without a text returns them. -/
def browse (catalog : Catalog) (limit : Nat) (category : String) (kind : Option RecordKind) : List Record :=
  catalog.search ⟨none, kind, some category, limit⟩

section Browse

variable {catalog : Catalog} {limit : Nat} {category : String}

/-- A search without a text that no limit cuts is a plain selection. -/
theorem browse_eq_filter (wide : catalog.size ≤ limit) (category : String) (kind : Option RecordKind) :
    catalog.browse limit category kind =
      catalog.records.filter (SearchQuery.mk none kind (some category) limit).admits := by
  have short := (List.length_filter_le (SearchQuery.mk none kind (some category) limit).admits
    catalog.records).trans wide
  rw [browse, search]
  exact List.take_of_length_le short

theorem browse_kind_eq_filter (wide : catalog.size ≤ limit) (category : String) (kind : RecordKind) :
    catalog.browse limit category (some kind) =
      (catalog.browse limit category none).filter fun record => record.kind == kind := by
  rw [browse_eq_filter wide, browse_eq_filter wide, List.filter_filter]
  apply List.filter_congr
  intro record _
  simp [SearchQuery.admits]

theorem mem_browse_iff (wide : catalog.size ≤ limit) {kind : Option RecordKind} {record : Record} :
    record ∈ catalog.browse limit category kind ↔
      record ∈ catalog.records ∧ (∀ wanted ∈ kind, record.kind = wanted) ∧ record.category = some category := by
  rw [browse_eq_filter wide, List.mem_filter, SearchQuery.admits_iff]
  simp

/-- The index of categories holds what a search for the category finds. -/
theorem Coherent.inCategory_eq_browse {added : List Record} (coherent : catalog.Coherent added)
    (wide : catalog.size ≤ limit) (named : category ≠ "") :
    catalog.inCategory category = catalog.browse limit category none := by
  rw [coherent.inCategory_eq_filter, browse_eq_filter wide]
  apply List.filter_congr
  intro record _
  rw [Bool.eq_iff_iff, decide_eq_true_eq, Record.categoryName?_eq_some_iff, SearchQuery.admits_iff]
  simp [named]

end Browse

end Catalog

namespace Render

/-- The answer for a category where nothing is found. -/
def nothingFound (category : String) (kind : Option RecordKind) : String :=
  "No items found in category '" ++ category ++ "'" ++
    match kind with
    | some kind => " of type " ++ kind.label
    | none => ""

/-- The page of a category with a summary of every item and, if there are guides, a line for each of them. -/
def categoryPage (category : String) (items topics : List Record) : String :=
  "Items in '" ++ category ++ "':\n\n" ++ String.join (items.map summary) ++
    (if topics = [] then "" else "\n## Related Topics\n" ++ String.join (topics.map topicLine)) ++
    "\n**Tip:** Use `cf_get_details` with an exact name for full documentation."

/-- The line of a category in the list of all of them. Kinds that do not occur are left out. -/
def countsLine (category : String) (total : Nat) (count : RecordKind → Nat) : String :=
  line ("- **" ++ category ++ "** (" ++ toString total ++ " items: " ++
    ", ".intercalate ((RecordKind.all.filter fun kind => 0 < count kind).map fun kind =>
      toString (count kind) ++ " " ++ kind.plural) ++ ")")

/-- A page and the answer that nothing was found differ in their first letter. -/
theorem items_ne_noItems (page rest : String) : "Items in '" ++ page ≠ "No items found in category '" ++ rest := by
  intro same
  have first (start text : String) (filled : start.toList ≠ []) :
      (start ++ text).toList.head? = start.toList.head? := by
    rw [String.toList_append, List.head?_append_of_ne_nil _ filled]
  have letters := congrArg (fun text => text.toList.head?) same
  rw [first _ page (by decide), first _ rest (by decide)] at letters
  exact absurd letters (by decide)

theorem categoryPage_ne_nothingFound (category : String) (items topics : List Record) (kind : Option RecordKind) :
    categoryPage category items topics ≠ nothingFound category kind := by
  unfold categoryPage nothingFound
  simp only [String.append_assoc]
  exact items_ne_noItems _ _

theorem eq_nothingFound_iff {category : String} {kind : Option RecordKind} {results items topics : List Record} :
    (if results = [] then nothingFound category kind else categoryPage category items topics) =
      nothingFound category kind ↔ results = [] := by
  split_ifs with nothing
  · exact iff_of_true rfl nothing
  · exact iff_of_false (categoryPage_ne_nothingFound category items topics kind) nothing

/-- An answer about a category is a page, unless there is nothing to put on it. -/
theorem categoryAnswer_eq (catalog : Catalog) (category : String) (kind : Option RecordKind) :
    categoryAnswer catalog category kind =
      let records := catalog.inCategory category
      let topics := records.filter Record.isTopic
      if listedItems records kind = [] ∧ (kind.isSome = true ∨ topics = []) then nothingFound category kind
      else categoryPage category (listedItems records kind) (if kind = some .topic then [] else topics) := by
  have headed (topics : List Record) : line "\n## Related Topics" ++ linesOf topics topicLine =
      "\n## Related Topics\n" ++ String.join (topics.map topicLine) := rfl
  simp only [categoryAnswer]
  generalize listedItems (catalog.inCategory category) kind = items
  generalize (catalog.inCategory category).filter Record.isTopic = topics
  by_cases nothing : items = [] ∧ (kind.isSome = true ∨ topics = [])
  · rw [if_pos nothing, if_pos (by simpa using nothing)]
    cases kind <;> rfl
  · rw [if_neg nothing, if_neg (by simpa using nothing), headed]
    unfold categoryPage linesOf
    by_cases asked : kind = some .topic
    · simp [asked]
    · by_cases none : topics = []
      · simp [none]
      · simp [asked, none]

/-- What the pages about categories say about the searches without a text that nothing is cut from. -/
structure ShowsBrowsed (catalog : Catalog) (limit : Nat) : Prop where
  /-- A page for one kind lists what the search for that kind finds, and the guides beside it. -/
  kind_page : ∀ category ≠ "", ∀ kind, catalog.browse limit category (some kind) ≠ [] →
    categoryAnswer catalog category (some kind) =
      categoryPage category (catalog.browse limit category (some kind))
        (if kind = .topic then [] else catalog.browse limit category (some .topic))
  /-- A page for all kinds lists what the search finds, the guides apart from the rest. -/
  whole_page : ∀ category ≠ "", catalog.browse limit category none ≠ [] →
    categoryAnswer catalog category none =
      categoryPage category ((catalog.browse limit category none).filter fun record => !record.isTopic)
        ((catalog.browse limit category none).filter Record.isTopic)
  /-- Nothing is said to be found exactly if the search finds nothing. -/
  nothing_found : ∀ category ≠ "", ∀ kind,
    categoryAnswer catalog category kind = nothingFound category kind ↔ catalog.browse limit category kind = []
  /-- The categories are those for which the search finds something. -/
  mem_categories : ∀ category, category ∈ catalog.categories ↔
    category ≠ "" ∧ catalog.browse limit category none ≠ []
  /-- The list of categories gives the numbers of records that the searches find, in all and by kind. -/
  counts : catalog.categories ≠ [] → categoriesAnswer catalog =
    "Available categories:\n\n" ++
      String.join (catalog.categories.map fun category =>
        countsLine category (catalog.browse limit category none).length fun kind =>
          (catalog.browse limit category (some kind)).length) ++
      "\n**Tip:** Use `cf_list_category` with a category name to see its items."

section Coherent

variable {catalog : Catalog} {added : List Record} {limit : Nat} (coherent : catalog.Coherent added)
  (wide : catalog.size ≤ limit)

include coherent wide

theorem categoryAnswer_of_kind {category : String} (named : category ≠ "") (kind : RecordKind) :
    categoryAnswer catalog category (some kind) =
      if catalog.browse limit category (some kind) = [] then nothingFound category (some kind)
      else categoryPage category (catalog.browse limit category (some kind))
        (if kind = .topic then [] else catalog.browse limit category (some .topic)) := by
  have listed : listedItems (catalog.browse limit category none) (some kind) =
      catalog.browse limit category (some kind) := (Catalog.browse_kind_eq_filter wide category kind).symm
  have topics : (catalog.browse limit category none).filter Record.isTopic =
      catalog.browse limit category (some .topic) := (Catalog.browse_kind_eq_filter wide category .topic).symm
  rw [categoryAnswer_eq, coherent.inCategory_eq_browse wide named]
  simp [listed, topics]

theorem categoryAnswer_of_all {category : String} (named : category ≠ "") :
    categoryAnswer catalog category none =
      if catalog.browse limit category none = [] then nothingFound category none
      else categoryPage category ((catalog.browse limit category none).filter fun record => !record.isTopic)
        ((catalog.browse limit category none).filter Record.isTopic) := by
  rw [categoryAnswer_eq, coherent.inCategory_eq_browse wide named]
  generalize catalog.browse limit category none = records
  have listed : listedItems records none = records.filter fun record => !record.isTopic := rfl
  have nothing : (listedItems records none = [] ∧ records.filter Record.isTopic = []) ↔ records = [] := by
    rw [listed, List.filter_eq_nil_iff, List.filter_eq_nil_iff, List.eq_nil_iff_forall_not_mem]
    constructor
    · rintro ⟨noItem, noTopic⟩ record member
      exact noItem record member (by simpa using noTopic record member)
    · intro free
      exact ⟨fun record member => absurd member (free record), fun record member => absurd member (free record)⟩
  simp only [Option.isSome_none, Bool.false_eq_true, false_or, nothing, reduceCtorEq, if_false, ← listed]

theorem categoriesAnswer_of_filed (filed : catalog.categories ≠ []) : categoriesAnswer catalog =
    "Available categories:\n\n" ++
      String.join (catalog.categories.map fun category =>
        countsLine category (catalog.browse limit category none).length fun kind =>
          (catalog.browse limit category (some kind)).length) ++
      "\n**Tip:** Use `cf_list_category` with a category name to see its items." := by
  have lines : ∀ category ∈ catalog.categories,
      line ("- **" ++ category ++ "** (" ++ toString (catalog.inCategory category).length ++ " items: " ++
        breakdown (catalog.inCategory category) ++ ")") =
      countsLine category (catalog.browse limit category none).length fun kind =>
        (catalog.browse limit category (some kind)).length := by
    intro category member
    have named : category ≠ "" := by
      obtain ⟨record, -, kept⟩ := (coherent.mem_categories_iff category).mp member
      exact (Record.categoryName?_eq_some_iff.mp kept).2
    simp only [coherent.inCategory_eq_browse wide named, Catalog.browse_kind_eq_filter wide, breakdown,
      List.filter_map, List.map_map]
    rfl
  simp only [categoriesAnswer]
  rw [if_neg (by simpa using filed)]
  unfold linesOf
  rw [List.map_congr_left lines]

end Coherent

end Render

/-- After every history the pages about categories show what searches without a text find. -/
theorem Catalog.category_pages_show_browsed (history : List Operation) {limit : Nat}
    (wide : (run history).size ≤ limit) : Render.ShowsBrowsed (run history) limit := by
  have coherent := coherent_run history
  refine {
    kind_page := fun category named kind found => ?_
    whole_page := fun category named found => ?_
    nothing_found := fun category named kind => ?_
    mem_categories := fun category => ?_
    counts := Render.categoriesAnswer_of_filed coherent wide }
  · rw [Render.categoryAnswer_of_kind coherent wide named, if_neg found]
  · rw [Render.categoryAnswer_of_all coherent wide named, if_neg found]
  · cases kind with
    | none => rw [Render.categoryAnswer_of_all coherent wide named, Render.eq_nothingFound_iff]
    | some kind => rw [Render.categoryAnswer_of_kind coherent wide named, Render.eq_nothingFound_iff]
  · rw [coherent.mem_categories_iff, ← List.length_pos_iff_ne_nil, List.length_pos_iff_exists_mem]
    simp only [mem_browse_iff wide, Record.categoryName?_eq_some_iff]
    constructor
    · rintro ⟨record, member, filed, named⟩
      exact ⟨named, record, member, by simp, filed⟩
    · rintro ⟨named, record, member, -, filed⟩
      exact ⟨record, member, filed, named⟩

/-- A history in which a record changes its kind and leaves a category, and comes back after another one. -/
def sampleMoves : List Operation :=
  let point : Record := { Record.ofDetails "CF_Point" (.struct []) with category := some "draw" }
  let line : Record := { Record.ofDetails "cf_line" (.function ⟨none, [], none⟩) with category := some "draw" }
  let guide : Record :=
    { Record.ofDetails "drawing" (.topic ⟨"", [], [], [], [], [], none⟩) with category := some "draw" }
  [.extend [point, line, guide], .add { point with category := some "math", details := .enum [] }, .add line,
    .add { point with details := .enum [] }]

theorem Catalog.category_pages_show_browsed_sampleMoves :
    (run sampleMoves).size ≤ 3 ∧
      ((run sampleMoves).browse 3 "draw" none).map Record.name = ["CF_Point", "cf_line", "drawing"] ∧
      (run sampleMoves).categories = ["draw"] ∧
      Render.categoryAnswer (run sampleMoves) "draw" none =
        "Items in 'draw':\n\n- **CF_Point** `(enum, draw)` — \n- **cf_line** `(function, draw)` — \n\n" ++
          "## Related Topics\n- **drawing** — \n\n" ++
          "**Tip:** Use `cf_get_details` with an exact name for full documentation." ∧
      Render.categoryAnswer (run sampleMoves) "math" none = "No items found in category 'math'" ∧
      Render.categoryAnswer (run sampleMoves) "draw" (some .struct) =
        "No items found in category 'draw' of type struct" := by
  have wide : (run sampleMoves).size ≤ 3 := by decide +kernel
  have shows := category_pages_show_browsed sampleMoves wide
  refine ⟨wide, by decide +kernel, by decide +kernel, ?_, ?_, ?_⟩
  · rw [shows.whole_page "draw" (by decide) (by decide +kernel)]
    decide +kernel
  · exact (shows.nothing_found "math" (by decide) none).mpr (by decide +kernel)
  · exact (shows.nothing_found "draw" (by decide) (some .struct)).mpr (by decide +kernel)

end ApiAtlas
