import ApiAtlas.Proofs.Catalog.References
import Mathlib.Order.Bounds.Basic

/-! # Histories of a reference graph

A graph on its own is changed by recording, forgetting and clearing, in any order, and a guide may be recorded again
with other references. What the graph holds afterwards is said by the places of the history alone: a guide stands under
a name if some change entered it there and no later one dropped it, and guides stand in the order of the first such
changes. One more change at the end moves no place, so a graph is followed change by change.
-/

namespace ApiAtlas.ReferenceGraph

/-- A change of a reference graph. -/
inductive Change where
  | record (record : Record)
  | forget (topic : String)
  | clear
deriving DecidableEq, Repr

/-- The change records a guide, one of whose lists of references has the name. -/
def Change.Enters (change : Change) (topic api : String) : Prop :=
  ∃ record guide, change = .record record ∧ record.name = topic ∧ record.details = .topic guide ∧
    (api ∈ guide.functionReferences ∨ api ∈ guide.structReferences ∨ api ∈ guide.enumReferences)

/-- The change takes a guide out under every name. -/
def Change.Drops (change : Change) (topic : String) : Prop :=
  change = .forget topic ∨ change = .clear

/-- Carry out one change. -/
def apply (graph : ReferenceGraph) : Change → ReferenceGraph
  | .record record => graph.recordTopic record
  | .forget topic => graph.forgetTopic topic
  | .clear => empty

/-- The graph that a history leads to. -/
def run (history : List Change) : ReferenceGraph :=
  history.foldl apply empty

/-- The change at a place of a history enters a guide under a name, and no later change drops the guide. -/
def EnteredAt (history : List Change) (topic api : String) (place : Nat) : Prop :=
  ∃ before change after, history = before ++ change :: after ∧ before.length = place ∧ change.Enters topic api ∧
    ∀ later ∈ after, ¬later.Drops topic

/-- Where a guide was first entered under a name, of the places that count. -/
def FirstEnteredAt (history : List Change) (topic api : String) (place : Nat) : Prop :=
  IsLeast {place | EnteredAt history topic api place} place

/-- Of two guides under a name the one was first entered before the other. -/
def EnteredBefore (history : List Change) (api left right : String) : Prop :=
  ∃ earlier later, FirstEnteredAt history left api earlier ∧ FirstEnteredAt history right api later ∧ earlier < later

section Places

variable {history : List Change} {change : Change} {topic api : String} {place : Nat}

theorem EnteredAt.lt_length (entered : EnteredAt history topic api place) : place < history.length := by
  obtain ⟨before, change, after, rfl, rfl, -, -⟩ := entered
  rw [List.length_append, List.length_cons]
  omega

/-- One more change takes away the places of what it drops, and adds its own place for what it enters. -/
theorem enteredAt_append_singleton : EnteredAt (history ++ [change]) topic api place ↔
    (EnteredAt history topic api place ∧ ¬change.Drops topic) ∨
      (place = history.length ∧ change.Enters topic api) := by
  constructor
  · rintro ⟨before, first, after, split, rfl, enters, kept⟩
    rcases List.eq_nil_or_concat after with rfl | ⟨more, last, rfl⟩
    · obtain ⟨rfl, single⟩ := List.append_inj' split rfl
      obtain rfl : change = first := by simpa using single
      exact .inr ⟨rfl, enters⟩
    · rw [List.concat_eq_append] at split kept
      rw [← List.cons_append, ← List.append_assoc] at split
      obtain ⟨rfl, single⟩ := List.append_inj' split rfl
      obtain rfl : change = last := by simpa using single
      exact .inl ⟨⟨before, first, more, rfl, rfl, enters, fun later member => kept later (by simp [member])⟩,
        kept change (by simp)⟩
  · rintro (⟨⟨before, first, after, rfl, rfl, enters, kept⟩, keeps⟩ | ⟨rfl, enters⟩)
    · refine ⟨before, first, after ++ [change], by simp, rfl, enters, ?_⟩
      intro later member
      rcases List.mem_append.mp member with inside | last
      · exact kept later inside
      · rwa [List.mem_singleton.mp last]
    · exact ⟨history, change, [], rfl, rfl, enters, by simp⟩

/-- Where a guide was first entered stays the same until the guide is dropped. -/
theorem FirstEnteredAt.append_singleton (first : FirstEnteredAt history topic api place)
    (keeps : ¬change.Drops topic) : FirstEnteredAt (history ++ [change]) topic api place := by
  refine ⟨enteredAt_append_singleton.mpr (.inl ⟨first.1, keeps⟩), ?_⟩
  intro other entered
  rcases enteredAt_append_singleton.mp entered with ⟨earlier, -⟩ | ⟨rfl, -⟩
  · exact first.2 earlier
  · exact first.1.lt_length.le

theorem EnteredAt.exists_first (entered : EnteredAt history topic api place) :
    ∃ first, FirstEnteredAt history topic api first := by
  classical
  exact ⟨Nat.find ⟨place, entered⟩, Nat.isLeast_find ⟨place, entered⟩⟩

theorem EnteredBefore.append_singleton {left right : String} (before : EnteredBefore history api left right)
    (keepsLeft : ¬change.Drops left) (keepsRight : ¬change.Drops right) :
    EnteredBefore (history ++ [change]) api left right := by
  obtain ⟨earlier, later, first, second, less⟩ := before
  exact ⟨earlier, later, first.append_singleton keepsLeft, second.append_singleton keepsRight, less⟩

theorem enters_record_iff {record : Record} :
    (Change.record record).Enters topic api ↔ record.name = topic ∧ api ∈ record.apiReferences := by
  rw [Record.mem_apiReferences_iff]
  constructor
  · rintro ⟨_, guide, ⟨⟩, named, details, mentioned⟩
    exact ⟨named, guide, details, mentioned⟩
  · rintro ⟨named, guide, details, mentioned⟩
    exact ⟨record, guide, rfl, named, details, mentioned⟩

theorem not_drops_record (record : Record) (topic : String) : ¬(Change.record record).Drops topic := by
  simp [Change.Drops]

theorem drops_forget_iff {other : String} : (Change.forget other).Drops topic ↔ topic = other := by
  simp [Change.Drops, eq_comm]

theorem not_enters_forget (other : String) : ¬(Change.forget other).Enters topic api := by
  rintro ⟨_, _, ⟨⟩, -⟩

end Places

/-- A graph holds what a history has entered and not dropped. -/
structure Follows (graph : ReferenceGraph) (history : List Change) : Prop where
  wellFormed : graph.WellFormed
  mem_iff : ∀ api topic, topic ∈ graph.topicNames api ↔ ∃ place, EnteredAt history topic api place
  nodup : ∀ api, (graph.topicNames api).Nodup
  ordered : ∀ api, (graph.topicNames api).Pairwise (EnteredBefore history api)

namespace Follows

variable {graph : ReferenceGraph} {history : List Change}

theorem clear (history : List Change) : Follows empty (history ++ [.clear]) := by
  refine ⟨wellFormed_empty, fun api topic => ?_, fun _ => .nil, fun _ => .nil⟩
  refine iff_of_false (by simp [empty, topicNames_nil]) ?_
  rintro ⟨place, entered⟩
  rcases enteredAt_append_singleton.mp entered with ⟨-, keeps⟩ | ⟨-, _, _, ⟨⟩, -⟩
  exact keeps (.inr rfl)

theorem forget (follows : graph.Follows history) (name : String) :
    (graph.forgetTopic name).Follows (history ++ [.forget name]) := by
  have names := follows.wellFormed.topicNames_forgetTopic name
  refine ⟨follows.wellFormed.forgetTopic name, fun api topic => ?_, fun api => ?_, fun api => ?_⟩
  · simp only [names, List.mem_filter, follows.mem_iff, decide_eq_true_eq, enteredAt_append_singleton,
      drops_forget_iff, not_enters_forget, and_false, or_false, exists_and_right]
  · rw [names]
    exact (follows.nodup api).filter _
  · rw [names]
    refine ((follows.ordered api).filter _).imp_of_mem ?_
    intro left right leftMember rightMember before
    have keeps {topic : String} (member : topic ∈ (graph.topicNames api).filter (· ≠ name)) :
        ¬(Change.forget name).Drops topic := by
      rw [drops_forget_iff]
      simpa using (List.mem_filter.mp member).2
    exact before.append_singleton (keeps leftMember) (keeps rightMember)

/-- A guide that does not stand under a name yet is first entered there by the change that records it. -/
theorem firstEnteredAt_record (follows : graph.Follows history) {record : Record} {api : String}
    (mentioned : api ∈ record.apiReferences) (fresh : record.name ∉ graph.topicNames api) :
    FirstEnteredAt (history ++ [.record record]) record.name api history.length := by
  refine ⟨enteredAt_append_singleton.mpr (.inr ⟨rfl, enters_record_iff.mpr ⟨rfl, mentioned⟩⟩), ?_⟩
  intro place entered
  rcases enteredAt_append_singleton.mp entered with ⟨earlier, -⟩ | ⟨rfl, -⟩
  · exact absurd ((follows.mem_iff api record.name).mpr ⟨place, earlier⟩) fresh
  · exact le_rfl

theorem record (follows : graph.Follows history) (record : Record) :
    (graph.recordTopic record).Follows (history ++ [.record record]) := by
  have names := follows.wellFormed.topicNames_recordTopic record
  have kept (api : String) : (graph.topicNames api).Pairwise (EnteredBefore (history ++ [.record record]) api) :=
    (follows.ordered api).imp fun before =>
      before.append_singleton (not_drops_record record _) (not_drops_record record _)
  refine ⟨follows.wellFormed.recordTopic record, fun api topic => ?_, fun api => ?_, fun api => ?_⟩
  · have entered : (∃ place, EnteredAt (history ++ [.record record]) topic api place) ↔
        topic ∈ graph.topicNames api ∨ (record.name = topic ∧ api ∈ record.apiReferences) := by
      simp only [enteredAt_append_singleton, not_drops_record, enters_record_iff, not_false_eq_true, and_true,
        exists_or, exists_eq_left, follows.mem_iff]
    rw [names, entered]
    by_cases mentioned : api ∈ record.apiReferences
    · rw [if_pos mentioned, Names.mem_insertNew, and_iff_left mentioned, @eq_comm _ topic]
    · rw [if_neg mentioned]
      simp [mentioned]
  · rw [names]
    split_ifs
    · exact Names.nodup_insertNew (follows.nodup api) record.name
    · exact follows.nodup api
  · rw [names]
    by_cases mentioned : api ∈ record.apiReferences
    · rw [if_pos mentioned]
      by_cases known : record.name ∈ graph.topicNames api
      · rw [Names.insertNew_of_mem known]
        exact kept api
      · rw [Names.insertNew_of_not_mem known]
        refine List.pairwise_append.mpr ⟨kept api, List.pairwise_singleton _ _, ?_⟩
        intro left member right single
        obtain rfl := List.mem_singleton.mp single
        obtain ⟨_, entered⟩ := (follows.mem_iff api left).mp member
        obtain ⟨place, first⟩ := entered.exists_first
        exact ⟨place, history.length, first.append_singleton (not_drops_record record _),
          follows.firstEnteredAt_record mentioned known, first.1.lt_length⟩
    · rw [if_neg mentioned]
      exact kept api

/-- One change is followed by the graph. -/
theorem apply (follows : graph.Follows history) (change : Change) :
    (graph.apply change).Follows (history ++ [change]) := by
  cases change with
  | record record => exact follows.record record
  | forget topic => exact follows.forget topic
  | clear => exact .clear history

end Follows

theorem follows_empty : Follows empty [] := by
  refine ⟨wellFormed_empty, fun api topic => ?_, fun _ => .nil, fun _ => .nil⟩
  refine iff_of_false (by simp [empty, topicNames_nil]) ?_
  rintro ⟨place, entered⟩
  exact absurd entered.lt_length (Nat.not_lt_zero place)

theorem run_append_singleton (history : List Change) (change : Change) :
    run (history ++ [change]) = (run history).apply change := by
  rw [run, List.foldl_append, ← run, List.foldl_cons, List.foldl_nil]

theorem follows_run (history : List Change) : (run history).Follows history := by
  induction history using List.reverseRecOn with
  | nil => exact follows_empty
  | append_singleton history change ih =>
    rw [run_append_singleton]
    exact ih.apply change

/-- A guide that already stands under a name is not entered there again. -/
theorem insertEdge_eq_self {api topic : String} {edges : List (String × List String)}
    (known : topic ∈ topicNames ⟨edges⟩ api) : insertEdge api topic edges = edges := by
  induction edges with
  | nil => simp [topicNames_nil] at known
  | cons edge rest ih =>
    obtain ⟨name, topics⟩ := edge
    rw [topicNames_cons] at known
    rw [insertEdge]
    split_ifs at known ⊢ with here
    · rw [Names.insertNew_of_mem known]
    · rw [ih known]

/-- Recording a guide that stands under all names it mentions leaves the graph as it is. -/
theorem recordTopic_eq_self {graph : ReferenceGraph} {record : Record}
    (known : ∀ api ∈ record.apiReferences, record.name ∈ graph.topicNames api) : graph.recordTopic record = graph := by
  rw [recordTopic_eq]
  generalize record.apiReferences = mentions at known
  induction mentions with
  | nil => rfl
  | cons api rest ih =>
    rw [List.forall_mem_cons] at known
    rw [List.foldl_cons, insertEdge_eq_self known.1, ih known.2]

theorem WellFormed.recordTopic_recordTopic {graph : ReferenceGraph} (valid : graph.WellFormed) (record : Record) :
    (graph.recordTopic record).recordTopic record = graph.recordTopic record := by
  apply recordTopic_eq_self
  intro api mentioned
  rw [valid.topicNames_recordTopic, if_pos mentioned, Names.mem_insertNew]
  exact .inr rfl

theorem WellFormed.size_eq_ncard {graph : ReferenceGraph} (valid : graph.WellFormed) :
    graph.size = Set.ncard {api | graph.topicNames api ≠ []} := by
  have named : {api | graph.topicNames api ≠ []} = ↑graph.apis.toFinset := by
    ext api
    rw [List.coe_toFinset, Set.mem_ofPred_eq, Set.mem_ofPred_eq, valid.mem_apis_iff]
  rw [named, Set.ncard_coe_finset, List.toFinset_card_of_nodup valid.unique]
  exact (List.length_map ..).symm

/-- After every history of changes the guides under a name are those that were entered there and not dropped since,
each once and in the order in which they were first entered; the graph counts the names that have guides. Recording
again what was recorded last changes nothing, nor does recording what is no guide. -/
theorem run_holds_entered (history : List Change) (api : String) :
    (∀ topic, topic ∈ (run history).topicNames api ↔ ∃ place, EnteredAt history topic api place) ∧
    ((run history).topicNames api).Nodup ∧
    ((run history).topicNames api).Pairwise (EnteredBefore history api) ∧
    (run history).size = Set.ncard {api | (run history).topicNames api ≠ []} ∧
    (∀ record, run (history ++ [.record record, .record record]) = run (history ++ [.record record])) ∧
    ∀ record, (∀ guide, record.details ≠ .topic guide) → run (history ++ [.record record]) = run history := by
  have follows := follows_run history
  refine ⟨follows.mem_iff api, follows.nodup api, follows.ordered api, follows.wellFormed.size_eq_ncard, ?_, ?_⟩
  · intro record
    rw [List.append_cons, run_append_singleton, run_append_singleton]
    exact follows.wellFormed.recordTopic_recordTopic record
  · intro record plain
    rw [run_append_singleton]
    apply recordTopic_eq_self
    intro other mentioned
    obtain ⟨guide, details, -⟩ := Record.mem_apiReferences_iff.mp mentioned
    exact absurd details (plain guide)

/-- A guide that is recorded with one reference, then with another, is forgotten and comes back behind the guide that
was recorded in between. -/
def sampleChanges : List Change :=
  let guide (name : String) (functions : List String) : Record :=
    Record.ofDetails name (.topic ⟨"", [], functions, [], [], [], none⟩)
  [.record (guide "audio" ["cf_play"]), .record (guide "music" ["cf_play"]), .record (guide "audio" ["cf_stop"]),
    .forget "audio", .record (guide "audio" ["cf_play", "cf_play"])]

theorem run_holds_entered_sampleChanges :
    (run sampleChanges).topicNames "cf_play" = ["music", "audio"] ∧
      (∃ place, EnteredAt sampleChanges "audio" "cf_play" place) ∧
      (¬∃ place, EnteredAt sampleChanges "audio" "cf_stop" place) ∧
      EnteredBefore sampleChanges "cf_play" "music" "audio" ∧
      Set.ncard {api | (run sampleChanges).topicNames api ≠ []} = 1 ∧
      run (sampleChanges ++ [.record (Record.ofDetails "cf_play" (.struct []))]) = run sampleChanges := by
  obtain ⟨played, -, ordered, counted, -, plain⟩ := run_holds_entered sampleChanges "cf_play"
  have stopped := (run_holds_entered sampleChanges "cf_stop").1
  have names : (run sampleChanges).topicNames "cf_play" = ["music", "audio"] := by decide +kernel
  rw [names] at ordered
  refine ⟨names, (played "audio").mp (by simp [names]), ?_, ?_, ?_, plain _ (by simp [Record.ofDetails])⟩
  · exact fun entered => absurd ((stopped "audio").mpr entered) (by decide +kernel)
  · simpa using ordered
  · rw [← counted]
    decide +kernel

end ApiAtlas.ReferenceGraph
