import ApiAtlas.Proofs.Files.Listing
import ApiAtlas.Proofs.Guide.ReadingOrder
import ApiAtlas.Proofs.Ingest.Built
import ApiAtlas.Proofs.Ingest.Contents
import ApiAtlas.Tool.Listing

/-! # Guides in reading order

The place of a guide is read off a page, kept with the record of the guide, sorted by and shown as a number. Guides
without a place do not take part: sorting leaves them as they stand, behind all others, so the numbers that are shown
run from one without a gap, whatever the guides are selected by.
-/

namespace ApiAtlas

section Split

variable {α : Type} {before : α → α → Bool}

theorem insertBy_append {item : α} {right : List α} (fits : ∀ other ∈ right, before item other = true)
    (left : List α) : insertBy before item (left ++ right) = insertBy before item left ++ right := by
  induction left with
  | nil =>
    cases right with
    | nil => rfl
    | cons other rest => simp [insertBy, fits other List.mem_cons_self]
  | cons other rest ih =>
    rw [List.cons_append, insertBy, insertBy]
    split_ifs
    · rfl
    · rw [ih, List.cons_append]

theorem insertBy_eq_append_singleton {item : α} {items : List α}
    (unfit : ∀ other ∈ items, before item other = false) : insertBy before item items = items ++ [item] := by
  induction items with
  | nil => rfl
  | cons other rest ih =>
    obtain ⟨first, later⟩ := List.forall_mem_cons.mp unfit
    rw [insertBy, first, if_neg Bool.false_ne_true, ih later, List.cons_append]

/-- If some items come before all others, and the others may stand in any order, only the former are sorted. -/
theorem stableSort_eq_append {leads : α → Bool}
    (ahead : ∀ left right, leads right = false → before left right = true)
    (behind : ∀ left right, leads left = false → leads right = true → before left right = false) (items : List α) :
    stableSort before items =
      stableSort before (items.filter leads) ++ items.filter fun item => !leads item := by
  induction items with
  | nil => rfl
  | cons item rest ih =>
    have fits : ∀ other ∈ rest.filter fun item => !leads item, before item other = true := by
      intro other member
      exact ahead item other (by simpa using (List.mem_filter.mp member).2)
    rw [stableSort, ih, insertBy_append fits]
    cases lead : leads item with
    | true => simp [lead, stableSort]
    | false =>
      -- The item passes all that lead and stays in front of the others, which came after it.
      have unfit : ∀ other ∈ stableSort before (rest.filter leads), before item other = false := by
        intro other member
        rw [(stableSort_perm _ _).mem_iff, List.mem_filter] at member
        exact behind item other lead member.2
      rw [insertBy_eq_append_singleton unfit]
      simp [lead]

end Split

namespace Catalog

/-- Whether a guide has a place in the reading order. -/
def hasPlace (record : Record) : Bool := record.readingOrder?.isSome

theorem hasPlace_eq_false_iff {record : Record} : hasPlace record = false ↔ record.readingOrder? = none := by
  rw [hasPlace, Option.isSome_eq_false_iff, Option.isNone_iff_eq_none]

/-- What comes later has no place, or a place that is not smaller. -/
theorem readsBefore_iff {left right : Record} :
    readsBefore left right = true ↔
      ∀ later, right.readingOrder? = some later → ∃ earlier, left.readingOrder? = some earlier ∧ earlier ≤ later := by
  unfold readsBefore
  cases left.readingOrder? <;> cases right.readingOrder? <;> simp

theorem readsBefore_total (left right : Record) :
    readsBefore left right = true ∨ readsBefore right left = true := by
  rw [readsBefore_iff, readsBefore_iff]
  cases left.readingOrder? <;> cases right.readingOrder? <;> simp [UInt32.le_total]

theorem readsBefore_trans {left middle right : Record} (first : readsBefore left middle = true)
    (second : readsBefore middle right = true) : readsBefore left right = true := by
  rw [readsBefore_iff] at *
  intro later kept
  obtain ⟨between, middleKept, upper⟩ := second later kept
  obtain ⟨earlier, leftKept, lower⟩ := first between middleKept
  exact ⟨earlier, leftKept, UInt32.le_trans lower upper⟩

theorem stableSort_readsBefore (records : List Record) :
    stableSort readsBefore records =
      stableSort readsBefore (records.filter hasPlace) ++ records.filter fun record => !hasPlace record := by
  apply stableSort_eq_append
  · intro left right unplaced
    rw [hasPlace_eq_false_iff] at unplaced
    simp [readsBefore_iff, unplaced]
  · intro left right unplaced placed
    rw [hasPlace_eq_false_iff] at unplaced
    obtain ⟨place, kept⟩ := Option.isSome_iff_exists.mp placed
    rw [← Bool.not_eq_true, readsBefore_iff]
    simp [unplaced, kept]

/-- The guides of a catalog, in the order of its records. -/
def guides (catalog : Catalog) : List Record := catalog.records.filter Record.isTopic

/-- The guides that have a place, by their places. -/
def placedGuides (catalog : Catalog) : List Record := stableSort readsBefore (catalog.guides.filter hasPlace)

/-- The guides of a catalog keep the places that an order gives them, in 32 bits. -/
def KeepsPlaces (catalog : Catalog) (order : List String) : Prop :=
  ∀ guide ∈ catalog.guides, guide.readingOrder? = (Guide.position? guide.name order).map UInt32.ofNat

/-- A guide comes before another one in an order. The places are compared as they are kept, so they can be told apart
only if 32 bits can count the items. -/
def ComesBefore (order : List String) (left right : Record) : Prop :=
  ∃ earlier later, Guide.IsLastAt order left.name earlier ∧ Guide.IsLastAt order right.name later ∧
    earlier % UInt32.size ≤ later % UInt32.size ∧ (order.length ≤ UInt32.size → earlier < later)

/-- A catalog lists its guides by an order. -/
structure FollowsOrder (catalog : Catalog) (order : List String) : Prop where
  /-- Every guide is listed once. -/
  complete : catalog.topicsInOrder.Perm catalog.guides
  once : (catalog.topicsInOrder.map Record.name).Nodup
  /-- Guides of the order come first, by their places, and the others as they stand. -/
  split : ∃ placed,
    catalog.topicsInOrder = placed ++ catalog.guides.filter (fun guide => guide.name ∉ order) ∧
      (∀ guide ∈ placed, guide.name ∈ order) ∧ placed.Pairwise (ComesBefore order)

section KeepsPlaces

variable {catalog : Catalog} {order : List String} (kept : catalog.KeepsPlaces order)

include kept

theorem KeepsPlaces.hasPlace_iff {guide : Record} (member : guide ∈ catalog.guides) :
    hasPlace guide = true ↔ guide.name ∈ order := by
  rw [hasPlace, kept guide member, Option.isSome_map, Guide.isSome_position?]

/-- Comparing the places that are kept compares those of the items. -/
theorem KeepsPlaces.comesBefore {left right : Record} (leftMember : left ∈ catalog.guides)
    (rightMember : right ∈ catalog.guides) (placed : right.name ∈ order) (different : left.name ≠ right.name)
    (before : readsBefore left right = true) : ComesBefore order left right := by
  obtain ⟨later, rightPlace⟩ := Option.isSome_iff_exists.mp (Guide.isSome_position?.mpr placed)
  rw [readsBefore_iff, kept right rightMember, rightPlace, kept left leftMember] at before
  obtain ⟨_, leftKept, ordered⟩ := before _ rfl
  obtain ⟨earlier, leftPlace, rfl⟩ := Option.map_eq_some_iff.mp leftKept
  rw [Guide.position?_eq_some_iff] at leftPlace rightPlace
  rw [UInt32.le_iff_toNat_le, UInt32.toNat_ofNat', UInt32.toNat_ofNat'] at ordered
  refine ⟨earlier, later, leftPlace, rightPlace, ordered, fun countable => ?_⟩
  -- With fewer items than 32 bits can count, keeping a place does not change it.
  have leftBound := (List.getElem?_eq_some_iff.mp leftPlace.1).1
  have rightBound := (List.getElem?_eq_some_iff.mp rightPlace.1).1
  rw [Nat.mod_eq_of_lt (leftBound.trans_le countable), Nat.mod_eq_of_lt (rightBound.trans_le countable)] at ordered
  apply lt_of_le_of_ne ordered
  rintro rfl
  exact different (leftPlace.guide_unique rightPlace)

theorem KeepsPlaces.filter_unplaced :
    (catalog.guides.filter fun guide => !hasPlace guide) = catalog.guides.filter fun guide => guide.name ∉ order := by
  apply List.filter_congr
  intro guide member
  rw [Bool.eq_iff_iff, Bool.not_eq_true', ← Bool.not_eq_true, kept.hasPlace_iff member, decide_eq_true_eq]

theorem KeepsPlaces.of_mem_placedGuides {guide : Record} (member : guide ∈ catalog.placedGuides) :
    guide ∈ catalog.guides ∧ guide.name ∈ order := by
  rw [placedGuides, (stableSort_perm _ _).mem_iff, List.mem_filter] at member
  exact ⟨member.1, (kept.hasPlace_iff member.1).mp member.2⟩

theorem KeepsPlaces.placedGuides_pairwise (distinct : (catalog.placedGuides.map Record.name).Nodup) :
    catalog.placedGuides.Pairwise (ComesBefore order) := by
  have sorted := stableSort_sorted readsBefore_total readsBefore_trans (catalog.guides.filter hasPlace)
  refine (sorted.and (List.pairwise_map.mp distinct)).imp_of_mem ?_
  rintro left right leftMember rightMember ⟨before, different⟩
  obtain ⟨leftFound, -⟩ := kept.of_mem_placedGuides leftMember
  obtain ⟨rightFound, placed⟩ := kept.of_mem_placedGuides rightMember
  exact kept.comesBefore leftFound rightFound placed different before

end KeepsPlaces

section FollowsOrder

variable {catalog : Catalog} {added : List Record} (coherent : catalog.Coherent added)

include coherent

theorem Coherent.ofKind_topic : catalog.ofKind .topic = catalog.guides := by
  rw [coherent.ofKind_eq_filter]
  rfl

theorem Coherent.topicsInOrder_perm : catalog.topicsInOrder.Perm catalog.guides := by
  rw [topicsInOrder, coherent.ofKind_topic]
  exact stableSort_perm _ _

theorem Coherent.topicsInOrder_nodup : (catalog.topicsInOrder.map Record.name).Nodup := by
  rw [(coherent.topicsInOrder_perm.map Record.name).nodup_iff]
  exact coherent.names_nodup.sublist (List.filter_sublist.map Record.name)

theorem Coherent.topicsInOrder_eq_append :
    catalog.topicsInOrder = catalog.placedGuides ++ catalog.guides.filter fun guide => !hasPlace guide := by
  rw [topicsInOrder, coherent.ofKind_topic]
  exact stableSort_readsBefore catalog.guides

theorem Coherent.followsOrder {order : List String} (kept : catalog.KeepsPlaces order) :
    catalog.FollowsOrder order := by
  have split := coherent.topicsInOrder_eq_append
  have once := coherent.topicsInOrder_nodup
  have distinct : (catalog.placedGuides.map Record.name).Nodup := by
    rw [split, List.map_append] at once
    exact once.of_append_left
  rw [kept.filter_unplaced] at split
  exact ⟨coherent.topicsInOrder_perm, once, catalog.placedGuides, split,
    fun guide member => (kept.of_mem_placedGuides member).2, kept.placedGuides_pairwise distinct⟩

end FollowsOrder

end Catalog

theorem Guide.readingOrder?_refine (catalog : Catalog) (record : Record) :
    (refine catalog record).readingOrder? = record.readingOrder? := by
  unfold refine
  split
  · rename_i guide
    simp [Record.readingOrder?, Record.topic?, guide, refineDetails]
  · rfl

/-- The order that places the guides of a build is the one that the files give. -/
theorem Ingest.orderOf_orderFor (around : Surroundings) (headers : String) :
    OrderOf around headers (orderFor around headers) := by
  unfold orderFor
  cases path : guidesPath? around headers with
  | none =>
    refine .inr ⟨fun directory stand => ?_, rfl⟩
    rw [← guidesPath?_eq_some_iff, path] at stand
    contradiction
  | some directory =>
    have stand := guidesPath?_eq_some_iff.mp path
    obtain ⟨place, leads, there⟩ := exists_place stand.isDirectory
    exact .inl ⟨directory, place, stand, leads, readingOrder_eq leads there⟩

theorem Ingest.Parts.keepsPlaces {order : List String} {records guides : List Record}
    (parts : Parts order records guides) :
    (addGuides (Catalog.ofRecords records) guides).KeepsPlaces order := by
  intro record member
  obtain ⟨member, topic⟩ := List.mem_filter.mp member
  obtain ⟨place, guide, listed, rfl⟩ := parts.exists_guide (by simpa [Record.isTopic] using topic) member
  obtain ⟨name, text, rfl⟩ := parts.guides guide (List.mem_of_getElem? listed)
  rw [Guide.readingOrder?_refine, Guide.refine_name]
  rfl

namespace Render

open Catalog (hasPlace stableSort_readsBefore)

/-- The line of a guide with what stands before its name. -/
def markedLine (mark : String) (record : Record) : String :=
  mark ++ "**" ++ record.name ++ "** — " ++ record.briefText ++ "\n"

/-- The lines of guides, numbered from one. -/
def numberedLines (records : List Record) : String :=
  String.join ((records.zipIdx 1).map fun (record, number) => markedLine (toString number ++ ". ") record)

/-- The lines of guides with a bullet before each of them. -/
def bulletLines (records : List Record) : String :=
  String.join (records.map (markedLine "- "))

/-- The page with a list of guides in reading order. -/
def orderedPage (placed others : List Record) : String :=
  "# Cute Framework Topics\n\n_Listed in recommended reading order_\n\n" ++ numberedLines placed ++
    bulletLines others ++ "\n**Tip:** Use `cf_get_topic` with a topic name to read the full content."

/-- The line of a guide at a position of a list in reading order. -/
def topicLineAt (guide : Record × Nat) : String :=
  line (topicMark true guide.2 guide.1 ++ "**" ++ guide.1.name ++ "** — " ++ guide.1.briefText)

theorem topicLineAt_of_place {record : Record} (place : hasPlace record = true) (position : Nat) :
    topicLineAt (record, position) = markedLine (toString (position + 1) ++ ". ") record := by
  unfold hasPlace at place
  simp [topicLineAt, topicMark, place, line, markedLine]

theorem topicLineAt_of_no_place {record : Record} (unplaced : hasPlace record = false) (position : Nat) :
    topicLineAt (record, position) = markedLine "- " record := by
  unfold hasPlace at unplaced
  simp [topicLineAt, topicMark, unplaced, line, markedLine]

/-- What is numbered by its position among all guides is numbered by its position among those with a place. -/
theorem linesOf_zipIdx {placed others : List Record} (numbered : ∀ record ∈ placed, hasPlace record = true)
    (plain : ∀ record ∈ others, hasPlace record = false) :
    linesOf (placed ++ others).zipIdx topicLineAt = numberedLines placed ++ bulletLines others := by
  have front : placed.zipIdx.map topicLineAt =
      (placed.zipIdx 1).map fun (record, number) => markedLine (toString number ++ ". ") record := by
    rw [List.zipIdx_succ, List.map_map]
    apply List.map_congr_left
    rintro ⟨record, position⟩ member
    exact topicLineAt_of_place (numbered record (List.fst_mem_of_mem_zipIdx member)) position
  have back (start : Nat) : (others.zipIdx start).map topicLineAt = others.map (markedLine "- ") := by
    rw [← List.zipIdx_map_fst start others, List.map_map, List.zipIdx_map_fst]
    apply List.map_congr_left
    rintro ⟨record, position⟩ member
    exact topicLineAt_of_no_place (plain record (List.fst_mem_of_mem_zipIdx member)) position
  rw [linesOf, List.zipIdx_append, List.map_append, String.join_append, front, back]
  rfl

theorem topicsAnswer_eq_orderedPage {catalog : Catalog} {category : Option String} {placed others : List Record}
    (listed : listedTopics catalog category true = placed ++ others) (filled : placed ++ others ≠ [])
    (numbered : ∀ record ∈ placed, hasPlace record = true) (plain : ∀ record ∈ others, hasPlace record = false) :
    topicsAnswer catalog category true = orderedPage placed others := by
  have heading : "# Cute Framework Topics\n\n" ++ line "_Listed in recommended reading order_\n" =
      "# Cute Framework Topics\n\n_Listed in recommended reading order_\n\n" := by decide +kernel
  have lines : linesOf (placed ++ others).zipIdx (fun (record, position) =>
      line (topicMark true position record ++ "**" ++ record.name ++ "** — " ++ record.briefText)) =
        numberedLines placed ++ bulletLines others := linesOf_zipIdx numbered plain
  unfold topicsAnswer orderedPage
  rw [listed, if_neg (by simpa using filled), if_pos rfl, heading, lines, ← String.append_assoc]

/-- How the guides of a category are shown in reading order. -/
structure ShowsOrder (catalog : Catalog) (category : Option String) (listed : List Record) : Prop where
  /-- Every guide of the category is listed once. -/
  complete : listed.Perm ((catalog.ofKind .topic).filter fun record =>
    ∀ name ∈ category, record.categoryName? = some name)
  /-- Those with a place come first. -/
  split : listed = listed.filter hasPlace ++ listed.filter fun record => !hasPlace record
  nothing_found : listed = [] → topicsAnswer catalog category true =
    "No topics found" ++ (category.elim "" fun name => " in category '" ++ name ++ "'") ++
      "\n\nUse `cf_list_topics` without a category to see all available topics."
  /-- Those with a place are numbered, and only those. -/
  page : listed ≠ [] → topicsAnswer catalog category true =
    orderedPage (listed.filter hasPlace) (listed.filter fun record => !hasPlace record)

theorem listedTopics_eq_append (catalog : Catalog) (category : Option String) :
    ∃ placed others, listedTopics catalog category true = placed ++ others ∧
      (∀ record ∈ placed, hasPlace record = true) ∧ ∀ record ∈ others, hasPlace record = false := by
  rw [listedTopics, if_pos rfl, Catalog.topicsInOrder, stableSort_readsBefore, List.filter_append]
  refine ⟨_, _, rfl, fun record member => ?_, fun record member => ?_⟩
  · have sorted := (List.mem_filter.mp member).1
    rw [(stableSort_perm _ _).mem_iff] at sorted
    exact (List.mem_filter.mp sorted).2
  · have kept := (List.mem_filter.mp (List.mem_filter.mp member).1).2
    rwa [Bool.not_eq_true'] at kept

theorem showsOrder (catalog : Catalog) (category : Option String) :
    ShowsOrder catalog category (listedTopics catalog category true) := by
  obtain ⟨placed, others, listed, numbered, plain⟩ := listedTopics_eq_append catalog category
  have first : (placed ++ others).filter hasPlace = placed := by
    rw [List.filter_append, List.filter_eq_self.mpr numbered, List.filter_eq_nil_iff.mpr (by simpa using plain),
      List.append_nil]
  have last : ((placed ++ others).filter fun record => !hasPlace record) = others := by
    rw [List.filter_append, List.filter_eq_nil_iff.mpr (by simpa using numbered), List.nil_append,
      List.filter_eq_self.mpr (by simpa using plain)]
  refine ⟨?_, ?_, ?_, ?_⟩
  · rw [listedTopics, if_pos rfl]
    refine ((stableSort_perm _ _).filter _).trans (List.Perm.of_eq (List.filter_congr fun record _ => ?_))
    cases category with
    | none => rfl
    | some name =>
      rw [Bool.eq_iff_iff]
      simp
  · rw [listed, first, last]
  · intro nothing
    simp only [topicsAnswer, nothing]
    cases category <;> rfl
  · intro something
    rw [listed] at something
    rewrite [listed, first, last]
    exact topicsAnswer_eq_orderedPage listed something numbered plain

end Render

/-- A reading order against the order of the files, with a guide that is listed twice and one that does not exist, and
guides that are not listed. -/
def Ingest.orderedFiles : Surroundings :=
  ⟨⟨[(["work"], .directory), (["work", "include"], .directory), (["work", "topics"], .directory),
    (["work", "topics", "index.md"],
      .file "# Start\n7. [A](./audio.md)\n1. [Z](./zoom.md)\n2. [A](./audio.md)\n3. [G](./gone.md)\n".toUTF8),
    (["work", "topics", "zoom.md"], .file "# Zoom\n\nZoom in.\n".toUTF8),
    (["work", "topics", "basics.md"], .file "# Basics\n\nStart here.\n".toUTF8),
    (["work", "topics", "audio.md"], .file "# Audio\n\nPlay a sound.\n".toUTF8),
    (["work", "topics", "files.md"], .file "# Files\n\nOpen a file.\n".toUTF8)]⟩, []⟩

end ApiAtlas
