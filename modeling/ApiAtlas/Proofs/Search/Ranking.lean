import ApiAtlas.Proofs.Catalog.Refinement
import ApiAtlas.Proofs.Text.Pieces
import ApiAtlas.Search.Query

/-! # Search as the top of a ranking

A query selects records and ranks them: a higher score goes first, and equal scores keep the order of
the catalog. The answer is the beginning of that ranking, cut at the limit. What is ranked and how is
said here without sorting; the sorted list only appears in proofs.
-/

namespace ApiAtlas

section StableSort

variable {α β : Type}

theorem insertBy_map (before : β → β → Bool) (view : α → β) (item : α) (items : List α) :
    insertBy before (view item) (items.map view) =
      (insertBy (fun left right => before (view left) (view right)) item items).map view := by
  induction items with
  | nil => rfl
  | cons other rest ih =>
    rw [List.map_cons, insertBy, insertBy]
    split
    · rfl
    · rw [ih, List.map_cons]

/-- Sorting by what is seen of the items is sorting the items. -/
theorem stableSort_map (before : β → β → Bool) (view : α → β) (items : List α) :
    stableSort before (items.map view) =
      (stableSort (fun left right => before (view left) (view right)) items).map view := by
  induction items with
  | nil => rfl
  | cons item rest ih => rw [List.map_cons, stableSort, ih, insertBy_map, stableSort]

theorem stableSort_eq_self (before : α → α → Bool) (items : List α)
    (indifferent : ∀ left right, before left right = true) : stableSort before items = items := by
  induction items with
  | nil => rfl
  | cons item rest ih =>
    rw [stableSort, ih]
    cases rest with
    | nil => rfl
    | cons other more => rw [insertBy, if_pos (indifferent item other)]

variable {key : α → Nat} {precedes : α → α → Prop}

theorem insertBy_pairwise {item : α} {items : List α} (first : ∀ other ∈ items, precedes item other)
    (sorted : items.Pairwise fun left right =>
      key right < key left ∨ key left = key right ∧ precedes left right) :
    (insertBy (fun left right => key right ≤ key left) item items).Pairwise fun left right =>
      key right < key left ∨ key left = key right ∧ precedes left right := by
  induction items with
  | nil => exact List.pairwise_singleton _ _
  | cons other rest ih =>
    obtain ⟨head, tail⟩ := List.pairwise_cons.mp sorted
    rw [insertBy]
    split_ifs with fits
    · have fits : key other ≤ key item := of_decide_eq_true fits
      refine List.pairwise_cons.mpr ⟨?_, sorted⟩
      intro later member
      have early := first later member
      rcases List.mem_cons.mp member with rfl | member
      · rcases fits.lt_or_eq with less | same
        · exact Or.inl less
        · exact Or.inr ⟨same.symm, early⟩
      · rcases head later member with less | ⟨same, _⟩
        · exact Or.inl (less.trans_le fits)
        · rcases fits.lt_or_eq with less | equal
          · exact Or.inl (same ▸ less)
          · exact Or.inr ⟨equal.symm.trans same, early⟩
    · have above : key item < key other := not_le.mp fun fits' => fits (decide_eq_true fits')
      refine List.pairwise_cons.mpr ⟨?_, ih (fun later member => first later (by simp [member])) tail⟩
      intro later member
      rcases List.mem_cons.mp ((insertBy_perm _ _ _).mem_iff.mp member) with rfl | member
      · exact Or.inl above
      · exact head later member

/-- Sorting by falling keys ranks the items by their keys and then by the order they had. -/
theorem stableSort_pairwise {items : List α} (ordered : items.Pairwise precedes) :
    (stableSort (fun left right => key right ≤ key left) items).Pairwise fun left right =>
      key right < key left ∨ key left = key right ∧ precedes left right := by
  induction items with
  | nil => exact .nil
  | cons item rest ih =>
    obtain ⟨first, tail⟩ := List.pairwise_cons.mp ordered
    refine insertBy_pairwise ?_ (ih tail)
    intro other member
    exact first other ((stableSort_perm _ _).mem_iff.mp member)

end StableSort

namespace SearchQuery

/-- A record of the kind and the category that a query asks for, and matching its text if that has a
keyword. -/
def Eligible (query : SearchQuery) (record : Record) : Prop :=
  (∀ kind ∈ query.kind, record.kind = kind) ∧
    (∀ category ∈ query.category, record.category = some category) ∧
    ∀ text ∈ query.text, Search.keywords text ≠ [] → Search.isMatch text record = true

instance (query : SearchQuery) : DecidablePred query.Eligible := fun _ =>
  inferInstanceAs (Decidable (_ ∧ _ ∧ _))

/-- The score of a record for the text of a query. Without a text nothing scores. -/
def score (query : SearchQuery) (record : Record) : UInt32 :=
  query.text.elim 0 fun text => Search.score text record

theorem keywords_eq_nil_iff {text : String} :
    Search.keywords text = [] ↔ Search.isBlankQuery text = true := by
  rw [Search.keywords, List.map_eq_nil_iff, Text.words_eq_nil_iff]
  rfl

theorem admits_iff {query : SearchQuery} {record : Record} :
    query.admits record = true ↔ (∀ kind ∈ query.kind, record.kind = kind) ∧
      ∀ category ∈ query.category, record.category = some category := by
  rw [admits, Bool.and_eq_true, Option.all_eq_true, Option.all_eq_true]
  simp

theorem score_of_blank {query : SearchQuery} (blank : ∀ text ∈ query.text, Search.keywords text = [])
    (record : Record) : query.score record = 0 := by
  cases given : query.text with
  | none => simp [score, given]
  | some text => simp [score, given, Search.score, blank text given]

end SearchQuery

namespace Catalog

/-- One record stands before another one in a catalog. -/
def Precedes (catalog : Catalog) (left right : Record) : Prop :=
  ∃ i j : Nat, i < j ∧ catalog.records[i]? = some left ∧ catalog.records[j]? = some right

/-- One record goes before another one in the answer to a query. -/
def RanksBefore (catalog : Catalog) (query : SearchQuery) (left right : Record) : Prop :=
  query.score right < query.score left ∨
    query.score left = query.score right ∧ catalog.Precedes left right

theorem records_pairwise_precedes (catalog : Catalog) : catalog.records.Pairwise catalog.Precedes := by
  rw [List.pairwise_iff_getElem]
  intro i j hi hj less
  exact ⟨i, j, less, List.getElem?_eq_getElem hi, List.getElem?_eq_getElem hj⟩

/-- The whole ranking of the records that a query may answer with. -/
def ranking (catalog : Catalog) (query : SearchQuery) : List Record :=
  stableSort (fun left right => query.score right ≤ query.score left)
    (catalog.records.filter query.Eligible)

theorem ranking_perm (catalog : Catalog) (query : SearchQuery) :
    (catalog.ranking query).Perm (catalog.records.filter query.Eligible) :=
  stableSort_perm _ _

theorem ranking_pairwise (catalog : Catalog) (query : SearchQuery) :
    (catalog.ranking query).Pairwise (catalog.RanksBefore query) := by
  have ordered := catalog.records_pairwise_precedes.filter fun record => decide (query.Eligible record)
  have sorted := @stableSort_pairwise _ (fun record => (query.score record).toNat) _ _ ordered
  simp only [← UInt32.le_iff_toNat_le, ← UInt32.lt_iff_toNat_lt, UInt32.toNat_inj] at sorted
  exact sorted

theorem ranking_of_blank (catalog : Catalog) {query : SearchQuery}
    (blank : ∀ text ∈ query.text, Search.keywords text = []) :
    catalog.ranking query = catalog.records.filter query.Eligible := by
  apply stableSort_eq_self
  intro left right
  simp [SearchQuery.score_of_blank blank]

/-- The answer to a query is the beginning of its ranking. -/
theorem search_eq_take_ranking (catalog : Catalog) (query : SearchQuery) :
    catalog.search query = (catalog.ranking query).take query.limit := by
  cases keyword : query.keywordText? with
  | some text =>
    obtain ⟨given, present⟩ := Option.filter_eq_some_iff.mp keyword
    have named : Search.keywords text ≠ [] := by
      rw [ne_eq, SearchQuery.keywords_eq_nil_iff]
      simpa using present
    have scores : query.score = Search.score text := by
      funext record
      simp [SearchQuery.score, given]
    have eligible : (catalog.records.filter query.admits).filter (Search.isMatch text) =
        catalog.records.filter query.Eligible := by
      rw [List.filter_filter]
      apply List.filter_congr
      intro record _
      rw [Bool.eq_iff_iff, Bool.and_eq_true, SearchQuery.admits_iff, decide_eq_true_eq]
      simp only [SearchQuery.Eligible, given, Option.mem_some_iff, forall_eq', named, ne_eq,
        not_false_eq_true, true_implies]
      tauto
    simp only [search, keyword, eligible, rank, ranking, scores]
    rw [stableSort_map, List.map_map, show Prod.snd ∘ (fun record => (Search.score text record, record)) = id
      from rfl, List.map_id]
  | none =>
    have blank : ∀ text ∈ query.text, Search.keywords text = [] := by
      intro text given
      rw [SearchQuery.keywords_eq_nil_iff]
      by_contra other
      have kept : query.keywordText? = some text :=
        Option.filter_eq_some_iff.mpr ⟨given, by simpa using other⟩
      rw [keyword] at kept
      contradiction
    have eligible : catalog.records.filter query.admits = catalog.records.filter query.Eligible := by
      apply List.filter_congr
      intro record _
      rw [Bool.eq_iff_iff, SearchQuery.admits_iff, decide_eq_true_eq]
      constructor
      · rintro ⟨kind, category⟩
        exact ⟨kind, category, fun text given named => (named (blank text given)).elim⟩
      · rintro ⟨kind, category, _⟩
        exact ⟨kind, category⟩
    simp only [search, keyword]
    rw [ranking_of_blank catalog blank, eligible]

/-- The first eligible records of a catalog, by rank and up to the limit of a query. -/
structure Tops (catalog : Catalog) (query : SearchQuery) (results : List Record) : Prop where
  eligible : ∀ record ∈ results, record ∈ catalog.records ∧ query.Eligible record
  distinct : results.Nodup
  length_eq : results.length = min query.limit (catalog.records.filter query.Eligible).length
  /-- Of two results the one that ranks before the other stands before it. -/
  ranked : results.Pairwise (catalog.RanksBefore query)
  /-- Whatever is eligible and left out ranks after everything returned. -/
  complete : ∀ record ∈ catalog.records, query.Eligible record → record ∉ results →
    ∀ returned ∈ results, catalog.RanksBefore query returned record
  /-- Without a keyword the order is that of the catalog. -/
  browse : (∀ text ∈ query.text, Search.keywords text = []) →
    results = (catalog.records.filter query.Eligible).take query.limit

/-- In every catalog that a history leads to, a search returns the top of the ranking. -/
theorem search_tops_ranking (history : List Operation) (query : SearchQuery) :
    (run history).Tops query ((run history).search query) := by
  have nodup : (run history).records.Nodup := (coherent_run history).names_nodup.of_map
  have perm := (run history).ranking_perm query
  have parts := List.pairwise_append.mp (by
    rw [List.take_append_drop query.limit]
    exact (run history).ranking_pairwise query)
  rw [search_eq_take_ranking]
  refine {
    eligible := ?_
    distinct := (perm.nodup_iff.mpr (nodup.filter _)).sublist (List.take_sublist _ _)
    length_eq := by rw [List.length_take, perm.length_eq]
    ranked := parts.1
    complete := ?_
    browse := fun blank => by rw [ranking_of_blank _ blank] }
  · intro record member
    simpa using perm.mem_iff.mp (List.mem_of_mem_take member)
  · intro record member eligible left returned first
    have listed : record ∈ (run history).ranking query :=
      perm.mem_iff.mpr (List.mem_filter.mpr ⟨member, decide_eq_true eligible⟩)
    rw [← List.take_append_drop query.limit ((run history).ranking query), List.mem_append] at listed
    exact parts.2.2 returned first record (listed.resolve_left left)

end Catalog

end ApiAtlas
