import ApiAtlas.Proofs.Catalog.Refinement
import Mathlib.Data.Set.Card

/-! # References as the inverse of the current guides

The graph inside a catalog answers who mentions a name. Its answer is compared with the guides that
a look-up finds at the same moment: the same names, each once, in the order in which they were last
added, and nothing that a later addition or a clear has made obsolete.
-/

namespace ApiAtlas

theorem Record.mem_apiReferences_iff {record : Record} {api : String} :
    api ∈ record.apiReferences ↔ ∃ topic, record.details = .topic topic ∧
      (api ∈ topic.functionReferences ∨ api ∈ topic.structReferences ∨ api ∈ topic.enumReferences) := by
  unfold Record.apiReferences
  cases record.details with
  | topic topic => simp [TopicDetails.apiReferences]
  | _ => simp

theorem Record.isTopic_of_mem_apiReferences {record : Record} {api : String}
    (mentioned : api ∈ record.apiReferences) : record.isTopic = true := by
  by_contra other
  rw [Record.apiReferences_of_not_topic (Bool.eq_false_iff.mpr other)] at mentioned
  contradiction

namespace Catalog

/-- The record that a name is looked up as is a guide, and one of its lists of references has the
other name. -/
def Mentions (catalog : Catalog) (name api : String) : Prop :=
  ∃ record topic, catalog.find? name = some record ∧ record.details = .topic topic ∧
    (api ∈ topic.functionReferences ∨ api ∈ topic.structReferences ∨ api ∈ topic.enumReferences)

variable {catalog : Catalog} {added : List Record}

theorem Coherent.find?_eq_some_iff_recency (coherent : catalog.Coherent added) (name : String)
    (record : Record) :
    catalog.find? name = some record ↔ record ∈ recency added ∧ record.name = name := by
  rw [coherent.find?_eq_some_iff, coherent.mem_records_iff, mem_recency_iff]

theorem Coherent.mentions_iff (coherent : catalog.Coherent added) (name api : String) :
    catalog.Mentions name api ↔
      ∃ record ∈ recency added, api ∈ record.apiReferences ∧ record.name = name := by
  simp only [Mentions, Record.mem_apiReferences_iff]
  constructor
  · rintro ⟨record, topic, found, guide, mentioned⟩
    obtain ⟨member, named⟩ := (coherent.find?_eq_some_iff_recency name record).mp found
    exact ⟨record, member, ⟨topic, guide, mentioned⟩, named⟩
  · rintro ⟨record, member, ⟨topic, guide, mentioned⟩, named⟩
    exact ⟨record, topic, (coherent.find?_eq_some_iff_recency name record).mpr ⟨member, named⟩,
      guide, mentioned⟩

/-- The guides for a name are all guides that mention it, by their last additions. -/
theorem Coherent.topicsFor_eq_filter (coherent : catalog.Coherent added) (api : String) :
    catalog.topicsFor api = (recency added).filter fun record => api ∈ record.apiReferences := by
  have found : ∀ record ∈ (recency added).filter (fun record => api ∈ record.apiReferences),
      catalog.find? record.name = some record := by
    intro record member
    exact (coherent.find?_eq_some_iff_recency _ _).mpr ⟨(List.mem_filter.mp member).1, rfl⟩
  have resolved : (catalog.references.topicNames api).filterMap catalog.find? =
      (recency added).filter fun record => api ∈ record.apiReferences := by
    rw [coherent.files.references.topicNames, List.filterMap_map]
    exact (List.filterMap_congr found).trans List.filterMap_some
  rw [topicsFor, resolved, List.filter_eq_self]
  intro record member
  exact Record.isTopic_of_mem_apiReferences (of_decide_eq_true (List.mem_filter.mp member).2)

/-- The order by additions since the last clear is the order by all additions. -/
theorem lastTime_lt_lastTime {history : List Operation} {left right : String}
    (leftUsed : left ∈ (additions history).map Record.name)
    (rightUsed : right ∈ (additions history).map Record.name)
    (earlier : lastTime (additions history) left < lastTime (additions history) right) :
    lastTime (history.flatMap Operation.added) left <
      lastTime (history.flatMap Operation.added) right := by
  obtain ⟨before, all⟩ := additions_suffix history
  rw [← all, lastTime_append leftUsed, lastTime_append rightUsed]
  omega

theorem topicNames_pairwise_lastTime (history : List Operation) (api : String) :
    ((run history).references.topicNames api).Pairwise fun earlier later =>
      lastTime (history.flatMap Operation.added) earlier <
        lastTime (history.flatMap Operation.added) later := by
  rw [(coherent_run history).files.references.topicNames, List.pairwise_map]
  refine ((recency_pairwise (additions history)).filter _).imp_of_mem ?_
  intro left right leftMember rightMember earlier
  exact lastTime_lt_lastTime (name_mem_of_mem_recency (List.mem_filter.mp leftMember).1)
    (name_mem_of_mem_recency (List.mem_filter.mp rightMember).1) earlier

theorem Coherent.references_size (coherent : catalog.Coherent added) :
    catalog.references.size = Set.ncard {api | ∃ name, catalog.Mentions name api} := by
  have mentioned : {api | ∃ name, catalog.Mentions name api} =
      ↑((recency added).flatMap Record.apiReferences).toFinset := by
    ext api
    simp only [coherent.mentions_iff, Set.mem_ofPred_eq, List.coe_toFinset, List.mem_flatMap]
    constructor
    · rintro ⟨_, record, member, mention, _⟩
      exact ⟨record, member, mention⟩
    · rintro ⟨record, member, mention⟩
      exact ⟨record.name, record, member, mention, rfl⟩
  rw [mentioned, Set.ncard_coe_finset, coherent.files.references.size_eq_card]

/-- After every history the guides recorded under a name are exactly the current guides that mention
it, each once and by the time of its last addition; all of them are found when they are looked up, and
the graph counts the names that some current guide mentions. -/
theorem references_invert_guides (history : List Operation) (api : String) :
    (∀ name, name ∈ (run history).references.topicNames api ↔ (run history).Mentions name api) ∧
    ((run history).references.topicNames api).Nodup ∧
    ((run history).references.topicNames api).Pairwise (fun earlier later =>
      lastTime (history.flatMap Operation.added) earlier <
        lastTime (history.flatMap Operation.added) later) ∧
    ((run history).topicsFor api).map some =
      ((run history).references.topicNames api).map (run history).find? ∧
    (run history).references.size = Set.ncard {api | ∃ name, (run history).Mentions name api} := by
  have coherent := coherent_run history
  have ordered := topicNames_pairwise_lastTime history api
  refine ⟨?_, ?_, ordered, ?_, coherent.references_size⟩
  · intro name
    rw [coherent.files.references.mem_topicNames_iff, coherent.mentions_iff]
  · refine ordered.imp ?_
    rintro earlier later before rfl
    exact before.ne rfl
  · rw [coherent.topicsFor_eq_filter, coherent.files.references.topicNames, List.map_map]
    apply List.map_congr_left
    intro record member
    exact ((coherent.find?_eq_some_iff_recency _ _).mpr ⟨(List.mem_filter.mp member).1, rfl⟩).symm

end Catalog

end ApiAtlas
