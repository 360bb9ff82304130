import ApiAtlas.Catalog.ReferenceGraph
import ApiAtlas.Proofs.Names
import Mathlib.Data.Finset.Dedup
import Mathlib.Data.Finset.Card

/-! # The reference graph as an inverse

A graph tracks a list of records if the guides under a name are exactly the listed ones that mention
it, in their order. Recording a guide that is not listed yet puts it at the end of the list,
and forgetting a name takes its record out. The list stands for the order of recording; where it
comes from is left open here.
-/

namespace ApiAtlas

/-- The names that a record mentions as a guide. Other records mention none. -/
def Record.apiReferences (record : Record) : List String :=
  match record.details with
  | .topic topic => topic.apiReferences
  | _ => []

namespace ReferenceGraph

/-- The names with guides. -/
def apis (graph : ReferenceGraph) : List String :=
  graph.edges.map Prod.fst

/-- Every name stands once, and with at least one guide. -/
structure WellFormed (graph : ReferenceGraph) : Prop where
  unique : graph.apis.Nodup
  filled : ∀ edge ∈ graph.edges, edge.2 ≠ []

theorem wellFormed_empty : WellFormed empty := ⟨.nil, by simp [empty]⟩

theorem topicNames_nil (api : String) : topicNames ⟨[]⟩ api = [] := rfl

theorem topicNames_cons (edge : String × List String) (edges : List (String × List String))
    (api : String) :
    topicNames ⟨edge :: edges⟩ api = if edge.1 = api then edge.2 else topicNames ⟨edges⟩ api := by
  by_cases same : edge.1 = api
  · simp [topicNames, same]
  · simp [topicNames, same]

theorem topicNames_eq_nil_of_not_mem {graph : ReferenceGraph} {api : String}
    (absent : api ∉ graph.apis) : graph.topicNames api = [] := by
  unfold topicNames
  split
  · next name topics found =>
    have same : name = api := by simpa using List.find?_some found
    exact (absent (same ▸ List.mem_map_of_mem (List.mem_of_find?_eq_some found))).elim
  · rfl

/-- A name stands in the graph exactly when some guide is recorded under it. -/
theorem WellFormed.mem_apis_iff {graph : ReferenceGraph} (valid : graph.WellFormed) (api : String) :
    api ∈ graph.apis ↔ graph.topicNames api ≠ [] := by
  constructor
  · intro member
    obtain ⟨edge, listed, same⟩ := List.mem_map.mp member
    unfold topicNames
    split
    · next name topics found => exact valid.filled _ (List.mem_of_find?_eq_some found)
    · next missing =>
      have differs := List.find?_eq_none.mp missing edge listed
      simp [same] at differs
  · intro named
    by_contra absent
    exact named (topicNames_eq_nil_of_not_mem absent)

theorem topicNames_insertEdge (api topic other : String) (edges : List (String × List String)) :
    topicNames ⟨insertEdge api topic edges⟩ other =
      if other = api then Names.insertNew (topicNames ⟨edges⟩ other) topic
      else topicNames ⟨edges⟩ other := by
  induction edges with
  | nil =>
    rw [insertEdge, topicNames_cons, topicNames_nil]
    by_cases same : other = api
    · rw [if_pos same.symm, if_pos same]
      rfl
    · rw [if_neg (Ne.symm same), if_neg same]
  | cons edge rest ih =>
    obtain ⟨name, topics⟩ := edge
    rw [insertEdge]
    by_cases here : name = api
    · subst here
      rw [if_pos rfl, topicNames_cons, topicNames_cons]
      by_cases same : other = name
      · rw [if_pos same.symm, if_pos same, if_pos same.symm]
      · rw [if_neg (Ne.symm same), if_neg same, if_neg (Ne.symm same)]
    · rw [if_neg here, topicNames_cons, topicNames_cons]
      by_cases first : name = other
      · rw [if_pos first, if_pos first, if_neg (fun same => here (first.trans same))]
      · rw [if_neg first, if_neg first, ih]

theorem apis_insertEdge (api topic : String) (edges : List (String × List String)) :
    apis ⟨insertEdge api topic edges⟩ = Names.insertNew (apis ⟨edges⟩) api := by
  induction edges with
  | nil => rfl
  | cons edge rest ih =>
    obtain ⟨name, topics⟩ := edge
    simp only [apis] at ih ⊢
    rw [insertEdge]
    by_cases here : name = api
    · subst here
      rw [if_pos rfl]
      exact (Names.insertNew_of_mem (List.mem_cons_self ..)).symm
    · rw [if_neg here, List.map_cons, ih]
      by_cases known : api ∈ rest.map Prod.fst
      · rw [Names.insertNew_of_mem known, Names.insertNew_of_mem (by simp [known])]
        rfl
      · rw [Names.insertNew_of_not_mem known, Names.insertNew_of_not_mem (by simp [known, Ne.symm here])]
        rfl

theorem insertEdge_filled {api topic : String} {edges : List (String × List String)}
    (filled : ∀ edge ∈ edges, edge.2 ≠ []) : ∀ edge ∈ insertEdge api topic edges, edge.2 ≠ [] := by
  induction edges with
  | nil => simp [insertEdge]
  | cons first rest ih =>
    obtain ⟨name, topics⟩ := first
    intro edge member
    rw [insertEdge] at member
    split_ifs at member with here
    · rcases List.mem_cons.mp member with rfl | later
      · exact Names.insertNew_ne_nil _ _
      · exact filled edge (by simp [later])
    · rcases List.mem_cons.mp member with rfl | later
      · exact filled _ (by simp)
      · exact ih (fun other listed => filled other (by simp [listed])) edge later

theorem WellFormed.insertEdge {graph : ReferenceGraph} (valid : graph.WellFormed)
    (api topic : String) : WellFormed ⟨insertEdge api topic graph.edges⟩ := by
  refine ⟨?_, insertEdge_filled valid.filled⟩
  rw [apis_insertEdge]
  exact Names.nodup_insertNew valid.unique api

/-- Recording is adding one edge for each mention. -/
theorem recordTopic_eq (graph : ReferenceGraph) (record : Record) :
    graph.recordTopic record =
      ⟨record.apiReferences.foldl (fun edges api => insertEdge api record.name edges) graph.edges⟩ := by
  unfold recordTopic Record.apiReferences
  cases record.details <;> rfl

private theorem foldl_insertEdge (topic : String) (mentions : List String)
    (graph : ReferenceGraph) (valid : graph.WellFormed) :
    WellFormed ⟨mentions.foldl (fun edges api => insertEdge api topic edges) graph.edges⟩ ∧
      ∀ api, topicNames ⟨mentions.foldl (fun edges api => insertEdge api topic edges) graph.edges⟩ api =
        if api ∈ mentions then Names.insertNew (graph.topicNames api) topic
        else graph.topicNames api := by
  induction mentions generalizing graph with
  | nil => exact ⟨valid, fun api => by simp⟩
  | cons mention rest ih =>
    obtain ⟨wellFormed, named⟩ := ih ⟨insertEdge mention topic graph.edges⟩ (valid.insertEdge mention topic)
    refine ⟨wellFormed, fun api => ?_⟩
    rw [List.foldl_cons, named, topicNames_insertEdge]
    by_cases here : api = mention
    · subst here
      by_cases again : api ∈ rest
      · simp [again, Names.insertNew_insertNew]
      · simp [again]
    · simp [here]

theorem WellFormed.recordTopic {graph : ReferenceGraph} (valid : graph.WellFormed)
    (record : Record) : (graph.recordTopic record).WellFormed := by
  rw [recordTopic_eq]
  exact (foldl_insertEdge record.name record.apiReferences graph valid).1

/-- Recording a guide adds it under every name it mentions and nowhere else. -/
theorem WellFormed.topicNames_recordTopic {graph : ReferenceGraph} (valid : graph.WellFormed)
    (record : Record) (api : String) :
    (graph.recordTopic record).topicNames api =
      if api ∈ record.apiReferences then Names.insertNew (graph.topicNames api) record.name
      else graph.topicNames api := by
  rw [recordTopic_eq]
  exact (foldl_insertEdge record.name record.apiReferences graph valid).2 api

private theorem forgetTopic_cons (topic : String) (edge : String × List String)
    (edges : List (String × List String)) :
    (forgetTopic ⟨edge :: edges⟩ topic).edges =
      if edge.2.filter (· ≠ topic) = [] then (forgetTopic ⟨edges⟩ topic).edges
      else (edge.1, edge.2.filter (· ≠ topic)) :: (forgetTopic ⟨edges⟩ topic).edges := by
  by_cases left : edge.2.filter (· ≠ topic) = []
  · rw [if_pos left]
    simp only [forgetTopic, List.filterMap_cons, left, List.isEmpty_nil, if_true]
  · rw [if_neg left]
    simp only [forgetTopic, List.filterMap_cons, List.isEmpty_iff, left, if_false]

theorem apis_forgetTopic_sublist (graph : ReferenceGraph) (topic : String) :
    (graph.forgetTopic topic).apis.Sublist graph.apis := by
  obtain ⟨edges⟩ := graph
  induction edges with
  | nil => exact .slnil
  | cons edge rest ih =>
    unfold apis at ih ⊢
    rw [forgetTopic_cons]
    split_ifs with left
    · exact ih.cons _
    · exact ih.cons_cons _

theorem WellFormed.forgetTopic {graph : ReferenceGraph} (valid : graph.WellFormed)
    (topic : String) : (graph.forgetTopic topic).WellFormed := by
  refine ⟨valid.unique.sublist (apis_forgetTopic_sublist graph topic), ?_⟩
  intro edge member
  obtain ⟨⟨api, topics⟩, listed, kept⟩ := List.mem_filterMap.mp member
  dsimp only at kept
  split_ifs at kept with left
  · cases kept
    simpa using left

/-- Forgetting a guide takes it out under every name. -/
theorem WellFormed.topicNames_forgetTopic {graph : ReferenceGraph} (valid : graph.WellFormed)
    (topic api : String) :
    (graph.forgetTopic topic).topicNames api = (graph.topicNames api).filter (· ≠ topic) := by
  obtain ⟨edges⟩ := graph
  induction edges with
  | nil => rfl
  | cons edge rest ih =>
    obtain ⟨first, unique⟩ := List.nodup_cons.mp valid.unique
    have tail := ih ⟨unique, fun other listed => valid.filled other (by simp [listed])⟩
    have split : ReferenceGraph.forgetTopic ⟨edge :: rest⟩ topic = ⟨_⟩ :=
      congrArg ReferenceGraph.mk (forgetTopic_cons topic edge rest)
    rw [split, topicNames_cons]
    by_cases here : edge.1 = api
    · rw [if_pos here]
      split_ifs with left
      · rw [left]
        apply topicNames_eq_nil_of_not_mem
        intro member
        exact first (here ▸ (apis_forgetTopic_sublist ⟨rest⟩ topic).subset member)
      · rw [topicNames_cons, if_pos here]
    · rw [if_neg here, ← tail]
      split_ifs with left
      · rfl
      · rw [topicNames_cons, if_neg here]

/-- The guides under every name are the listed records that mention it, in their order. -/
structure Tracks (graph : ReferenceGraph) (records : List Record) : Prop where
  wellFormed : graph.WellFormed
  topicNames : ∀ api, graph.topicNames api =
    (records.filter fun record => api ∈ record.apiReferences).map Record.name

theorem tracks_empty : Tracks empty [] := ⟨wellFormed_empty, fun _ => rfl⟩

/-- Recording a record that is not listed yet lists it last. -/
theorem Tracks.recordTopic {graph : ReferenceGraph} {records : List Record}
    (tracks : graph.Tracks records) {record : Record} (fresh : record.name ∉ records.map Record.name) :
    (graph.recordTopic record).Tracks (records ++ [record]) := by
  refine ⟨tracks.wellFormed.recordTopic record, fun api => ?_⟩
  rw [tracks.wellFormed.topicNames_recordTopic, tracks.topicNames, List.filter_append, List.map_append]
  by_cases mentioned : api ∈ record.apiReferences
  · have absent : record.name ∉
        (records.filter fun other => api ∈ other.apiReferences).map Record.name := fun member =>
      fresh ((List.filter_sublist.map Record.name).subset member)
    rw [if_pos mentioned, Names.insertNew_of_not_mem absent]
    simp [mentioned]
  · simp [mentioned]

/-- Forgetting a name takes its records out of the list. -/
theorem Tracks.forgetTopic {graph : ReferenceGraph} {records : List Record}
    (tracks : graph.Tracks records) (name : String) :
    (graph.forgetTopic name).Tracks (records.filter fun record => record.name ≠ name) := by
  refine ⟨tracks.wellFormed.forgetTopic name, fun api => ?_⟩
  rw [tracks.wellFormed.topicNames_forgetTopic, tracks.topicNames, List.filter_map, List.filter_filter,
    List.filter_filter]
  congr 1
  apply List.filter_congr
  intro record _
  exact Bool.and_comm _ _

/-- A record that mentions nothing can be taken out of the list without a trace. -/
theorem Tracks.drop {graph : ReferenceGraph} {records : List Record}
    (tracks : graph.Tracks records) {name : String}
    (silent : ∀ record ∈ records, record.name = name → record.apiReferences = []) :
    graph.Tracks (records.filter fun record => record.name ≠ name) := by
  refine ⟨tracks.wellFormed, fun api => ?_⟩
  rw [tracks.topicNames, List.filter_filter]
  congr 1
  apply List.filter_congr
  intro record member
  by_cases same : record.name = name
  · simp [same, silent record member same]
  · simp [same]

theorem Tracks.mem_topicNames_iff {graph : ReferenceGraph} {records : List Record}
    (tracks : graph.Tracks records) {api name : String} :
    name ∈ graph.topicNames api ↔
      ∃ record ∈ records, api ∈ record.apiReferences ∧ record.name = name := by
  simp [tracks.topicNames, and_assoc]

/-- The size of a graph counts the names that are mentioned. -/
theorem Tracks.size_eq_card {graph : ReferenceGraph} {records : List Record}
    (tracks : graph.Tracks records) :
    graph.size = (records.flatMap Record.apiReferences).toFinset.card := by
  have mentioned : graph.apis.toFinset = (records.flatMap Record.apiReferences).toFinset := by
    ext api
    rw [List.mem_toFinset, List.mem_toFinset, tracks.wellFormed.mem_apis_iff, tracks.topicNames]
    simp [List.filter_eq_nil_iff]
  calc graph.size = graph.apis.length := (List.length_map ..).symm
    _ = graph.apis.toFinset.card := (List.toFinset_card_of_nodup tracks.wellFormed.unique).symm
    _ = (records.flatMap Record.apiReferences).toFinset.card := by rw [mentioned]

end ReferenceGraph

end ApiAtlas
