import ApiAtlas.Record.Codec
import Mathlib.Data.List.Nodup
import Mathlib.Logic.Relation

/-! # Reading what was written

The fields of a record are read back as the record. Reading looks at the keys of the record's kind and at
nothing else, and takes a missing key for null. So it does not see fields under other keys, the order of
the fields, or null fields that are left out.
-/

namespace ApiAtlas

namespace Json

variable {α : Type} {key : String} {value : Json} {before after : List (String × Json)}

/-- What reading sees of a key: a missing one looks like null. -/
def held (key : String) (fields : List (String × Json)) : Json :=
  (lookup? key fields).getD null

theorem optional_eq_held (read : Json → Option α) (key : String) (fields : List (String × Json)) :
    optional read (lookup? key fields) = optional read (some (held key fields)) := by
  rw [held]
  cases lookup? key fields <;> rfl

/-- A reader that refuses null takes a missing field for null as well. -/
theorem required_eq_held {read : Json → Option α} (refused : read null = none) (key : String)
    (fields : List (String × Json)) : required read (lookup? key fields) = read (held key fields) := by
  rw [held]
  cases lookup? key fields with
  | none => exact refused.symm
  | some value => rfl

theorem optional_congr (read : Json → Option α) (same : held key before = held key after) :
    optional read (lookup? key before) = optional read (lookup? key after) := by
  rw [optional_eq_held, same, optional_eq_held]

theorem required_congr (read : Json → Option α) (refused : read null = none)
    (same : held key before = held key after) :
    required read (lookup? key before) = required read (lookup? key after) := by
  rw [required_eq_held refused, same, required_eq_held refused]

theorem lookup?_append_cons_of_ne {other : String} (ne : other ≠ key) (front back : List (String × Json)) :
    lookup? key (front ++ (other, value) :: back) = lookup? key (front ++ back) := by
  induction front with
  | nil => simp [lookup?, ne]
  | cons field rest ih => rw [List.cons_append, List.cons_append, lookup?, lookup?, ih]

theorem lookup?_eq_none_of_not_mem {fields : List (String × Json)} (absent : key ∉ fields.map Prod.fst) :
    lookup? key fields = none := by
  induction fields with
  | nil => rfl
  | cons field rest ih =>
    rw [List.map_cons, List.mem_cons, not_or] at absent
    rw [lookup?, if_neg (Ne.symm absent.1), ih absent.2]

/-- A key that occurs once has its own value. -/
theorem lookup?_eq_some_iff {fields : List (String × Json)} (once : (fields.map Prod.fst).count key ≤ 1) :
    lookup? key fields = some value ↔ (key, value) ∈ fields := by
  induction fields with
  | nil => simp [lookup?]
  | cons field rest ih =>
    obtain ⟨other, given⟩ := field
    rw [List.map_cons, List.count_cons] at once
    by_cases same : other = key
    · subst same
      have absent : other ∉ rest.map Prod.fst := List.count_eq_zero.mp (by simpa using once)
      have later : (other, value) ∉ rest := fun member => absent (List.mem_map_of_mem member)
      simp [lookup?, later, eq_comm]
    · rw [lookup?, if_neg same, ih (by omega), List.mem_cons, Prod.mk.injEq]
      simp [Ne.symm same]

theorem lookup?_of_perm (perm : before.Perm after) (once : (before.map Prod.fst).count key ≤ 1) :
    lookup? key before = lookup? key after := by
  have again : (after.map Prod.fst).count key ≤ 1 := (perm.map Prod.fst).count_eq key ▸ once
  apply Option.ext
  intro value
  rw [lookup?_eq_some_iff once, lookup?_eq_some_iff again, perm.mem_iff]

theorem readAll_map {read : Json → Option α} {write : α → Json} (inverse : ∀ item, read (write item) = some item)
    (items : List α) : readAll read (items.map write) = some items := by
  induction items with
  | nil => rfl
  | cons item rest ih => simp [readAll, inverse, ih]

theorem list?_arr_map {read : Json → Option α} {write : α → Json}
    (inverse : ∀ item, read (write item) = some item) (items : List α) :
    list? read (arr (items.map write)) = some items :=
  readAll_map inverse items

theorem optional_ofOption {read : Json → Option α} {write : α → Json}
    (inverse : ∀ item, read (write item) = some item) (filled : ∀ item, write item ≠ null) (item? : Option α) :
    optional read (some (ofOption write item?)) = some item? := by
  cases item? with
  | none => rfl
  | some item =>
    have present : optional read (some (write item)) = (read (write item)).map some := by
      cases written : write item with
      | null => exact absurd written (filled item)
      | _ => rfl
    rw [ofOption, present, inverse]
    rfl

theorem optional_text (text? : Option String) : optional str? (some (ofOption str text?)) = some text? :=
  optional_ofOption (by simp [str?]) (by simp) text?

theorem list?_strs (texts : List String) : list? str? (strs texts) = some texts :=
  list?_arr_map (by simp [str?]) texts

theorem word32?_nat (n : UInt32) : word32? (nat n.toNat) = some n := by
  have bound : n.toNat < UInt32.size := n.toNat_lt
  simp [word32?, nat, bound]

theorem optional_word32 (word? : Option UInt32) :
    optional word32? (some (ofOption (fun word => nat word.toNat) word?)) = some word? :=
  optional_ofOption word32?_nat (by simp [nat]) word?

end Json

open Json

/-- The keys of what records of all kinds have, and of the kind itself. -/
def Record.sharedKeys : List String :=
  ["name", "category", "brief", "remarks", "example", "example_brief", "related", "source", "kind"]

namespace RecordKind

/-- The keys of what is particular to a kind. -/
def detailKeys : RecordKind → List String
  | function => ["signature", "parameters", "return_description"]
  | struct => ["members"]
  | enum => ["entries"]
  | topic => ["content", "sections", "function_references", "struct_references", "enum_references",
      "topic_references", "reading_order"]

/-- The keys of the object of a record. -/
def keys (kind : RecordKind) : List String :=
  Record.sharedKeys ++ kind.detailKeys

/-- The keys of fields that can be null. -/
def nullableKeys (kind : RecordKind) : List String :=
  ["category", "brief", "remarks", "example", "example_brief", "source"] ++
    match kind with
    | function => ["signature", "return_description"]
    | topic => ["reading_order"]
    | _ => []

theorem mem_keys_of_shared {kind : RecordKind} {key : String} (member : key ∈ Record.sharedKeys) :
    key ∈ kind.keys :=
  List.mem_append_left _ member

theorem keys_nodup (kind : RecordKind) : kind.keys.Nodup := by
  cases kind <;> decide

end RecordKind

/-! ## Round trip -/

theorem SourceLocation.ofJson?_toJson (source : SourceLocation) : ofJson? source.toJson = some source := by
  simp [ofJson?, toJson, struct?, lookup?, required, str?, optional_word32]

theorem optional_source (source? : Option SourceLocation) :
    optional SourceLocation.ofJson? (some (ofOption SourceLocation.toJson source?)) = some source? :=
  optional_ofOption SourceLocation.ofJson?_toJson (by simp [SourceLocation.toJson]) source?

theorem Parameter.ofJson?_toJson (parameter : Parameter) : ofJson? parameter.toJson = some parameter := rfl

theorem Member.ofJson?_toJson (member : Member) : ofJson? member.toJson = some member := rfl

theorem EnumEntry.ofJson?_toJson (entry : EnumEntry) : ofJson? entry.toJson = some entry := rfl

theorem GuideSection.ofJson?_toJson (part : GuideSection) : ofJson? part.toJson = some part := rfl

/-- What is particular to a kind is read from the fields that it was written to. -/
theorem Details.ofFields?_toFields (record : Record) :
    ofFields? record.toFields record.kind = some record.details := by
  obtain ⟨name, category, brief, remarks, code, codeBrief, related, source, details⟩ := record
  cases details with
  | function f =>
    have parameters := list?_arr_map Parameter.ofJson?_toJson f.parameters
    simp [Record.toFields, Record.kind, Details.kind, toFields, ofFields?, lookup?, required, optional_text,
      parameters]
  | struct members =>
    have read := list?_arr_map Member.ofJson?_toJson members
    simp [Record.toFields, Record.kind, Details.kind, toFields, ofFields?, lookup?, required, read]
  | enum entries =>
    have read := list?_arr_map EnumEntry.ofJson?_toJson entries
    simp [Record.toFields, Record.kind, Details.kind, toFields, ofFields?, lookup?, required, read]
  | topic t =>
    have sections := list?_arr_map GuideSection.ofJson?_toJson t.sections
    simp [Record.toFields, Record.kind, Details.kind, toFields, ofFields?, lookup?, required, str?, sections,
      list?_strs, optional_word32]

theorem Record.ofFields?_toFields (record : Record) : ofFields? record.toFields = some record := by
  have text (key : String) (value : Option String)
      (written : lookup? key record.toFields = some (ofOption str value)) :
      optional str? (lookup? key record.toFields) = some value := written ▸ optional_text value
  have name : required str? (lookup? "name" record.toFields) = some record.name := rfl
  have related : required (list? str?) (lookup? "related" record.toFields) = some record.related :=
    list?_strs record.related
  have source : optional SourceLocation.ofJson? (lookup? "source" record.toFields) = some record.source :=
    optional_source record.source
  have kind : required RecordKind.ofJson? (lookup? "kind" record.toFields) = some record.kind :=
    RecordKind.ofLabel?_label record.kind
  simp only [ofFields?, name, text "category" record.category rfl, text "brief" record.brief rfl,
    text "remarks" record.remarks rfl, text "example" record.exampleCode rfl,
    text "example_brief" record.exampleBrief rfl, related, source, kind, Details.ofFields?_toFields,
    Option.bind_eq_bind, Option.bind_some]
  rfl

/-! ## Changes that are not seen -/

namespace Record

theorem toFields_keys (record : Record) : record.toFields.map Prod.fst = record.kind.keys := by
  obtain ⟨name, category, brief, remarks, code, codeBrief, related, source, details⟩ := record
  cases details <;> rfl

/-- A change to the fields of an object that matters to no reader of a record of a kind. -/
inductive Rewrites (kind : RecordKind) : List (String × Json) → List (String × Json) → Prop where
  /-- A field is put in somewhere under a key that the kind does not use. -/
  | add (front back : List (String × Json)) {key : String} (value : Json) (foreign : key ∉ kind.keys) :
    Rewrites kind (front ++ back) (front ++ (key, value) :: back)
  /-- A field that can be null and is null is left out. -/
  | drop (front back : List (String × Json)) {key : String} (nullable : key ∈ kind.nullableKeys) :
    Rewrites kind (front ++ (key, null) :: back) (front ++ back)
  /-- A line that is null is left out of the source. -/
  | dropLine (front back : List (String × Json)) (file : Json) :
    Rewrites kind (front ++ ("source", obj [("file", file), ("line", null)]) :: back)
      (front ++ ("source", obj [("file", file)]) :: back)
  | reorder {before after : List (String × Json)} (perm : before.Perm after) : Rewrites kind before after

/-- Two objects that a reader of a record of a kind cannot tell apart. -/
structure SeenAlike (kind : RecordKind) (before after : List (String × Json)) : Prop where
  held_eq : ∀ key ∈ kind.keys, key ≠ "source" → held key before = held key after
  source_eq : optional SourceLocation.ofJson? (lookup? "source" before) =
    optional SourceLocation.ofJson? (lookup? "source" after)
  count_le : ∀ key ∈ kind.keys, (after.map Prod.fst).count key ≤ (before.map Prod.fst).count key

end Record

open Record

variable {kind : RecordKind} {before after : List (String × Json)}

theorem Record.SeenAlike.of_held_eq (same : ∀ key ∈ kind.keys, held key before = held key after)
    (count_le : ∀ key ∈ kind.keys, (after.map Prod.fst).count key ≤ (before.map Prod.fst).count key) :
    SeenAlike kind before after :=
  ⟨fun key member _ => same key member, optional_congr _ (same "source" (RecordKind.mem_keys_of_shared (by decide))),
    count_le⟩

theorem Details.ofFields?_congr (alike : SeenAlike kind before after) :
    ofFields? before kind = ofFields? after kind := by
  have same (key : String) (member : key ∈ kind.detailKeys) : held key before = held key after := by
    refine alike.held_eq key (List.mem_append_right _ member) ?_
    rintro rfl
    revert member
    cases kind <;> decide
  cases kind with
  | function =>
    have signature := optional_congr str? (same "signature" (by decide))
    have parameters := required_congr (list? Parameter.ofJson?) rfl (same "parameters" (by decide))
    have returns := optional_congr str? (same "return_description" (by decide))
    simp only [ofFields?, signature, parameters, returns]
  | struct =>
    have members := required_congr (list? Member.ofJson?) rfl (same "members" (by decide))
    simp only [ofFields?, members]
  | enum =>
    have entries := required_congr (list? EnumEntry.ofJson?) rfl (same "entries" (by decide))
    simp only [ofFields?, entries]
  | topic =>
    have content := required_congr str? rfl (same "content" (by decide))
    have sections := required_congr (list? GuideSection.ofJson?) rfl (same "sections" (by decide))
    have references (key : String) (member : key ∈ RecordKind.topic.detailKeys) :=
      required_congr (list? str?) rfl (same key member)
    have order := optional_congr word32? (same "reading_order" (by decide))
    simp only [ofFields?, content, sections, references "function_references" (by decide),
      references "struct_references" (by decide), references "enum_references" (by decide),
      references "topic_references" (by decide), order]

theorem Record.ofFields?_congr (label : held "kind" before = str kind.label) (alike : SeenAlike kind before after) :
    ofFields? before = ofFields? after := by
  have same (key : String) (member : key ∈ sharedKeys) (other : key ≠ "source") :
      held key before = held key after :=
    alike.held_eq key (RecordKind.mem_keys_of_shared member) other
  have text (key : String) (member : key ∈ sharedKeys) (other : key ≠ "source") :=
    optional_congr str? (same key member other)
  have name := required_congr str? rfl (same "name" (by decide) (by decide))
  have related := required_congr (list? str?) rfl (same "related" (by decide) (by decide))
  have tagged : required RecordKind.ofJson? (lookup? "kind" before) = some kind := by
    rw [required_eq_held rfl, label]
    exact RecordKind.ofLabel?_label kind
  have tag := required_congr RecordKind.ofJson? rfl (same "kind" (by decide) (by decide))
  simp only [ofFields?, name, text "category" (by decide) (by decide), text "brief" (by decide) (by decide),
    text "remarks" (by decide) (by decide), text "example" (by decide) (by decide),
    text "example_brief" (by decide) (by decide), related, alike.source_eq, ← tag, tagged, Option.bind_eq_bind,
    Option.bind_some, Details.ofFields?_congr alike]

/-- A rewriting of an object in which no key of the kind occurs twice is not seen. -/
theorem Record.Rewrites.seenAlike (step : Rewrites kind before after)
    (once : ∀ key ∈ kind.keys, (before.map Prod.fst).count key ≤ 1) : SeenAlike kind before after := by
  cases step with
  | @add front back key value foreign =>
    have other (used : String) (member : used ∈ kind.keys) : key ≠ used := fun same => foreign (same ▸ member)
    refine .of_held_eq (fun used member => ?_) (fun used member => ?_)
    · rw [held, held, lookup?_append_cons_of_ne (other used member)]
    · simp [List.count_cons_of_ne (other used member)]
  | @drop front back key nullable =>
    refine .of_held_eq (fun used member => ?_) (fun used member => ?_)
    · by_cases same : key = used
      · subst same
        -- The key occurs once, so without this field it is missing, which looks the same.
        have absent : key ∉ (front ++ back).map Prod.fst := by
          have single := once key member
          rw [List.map_append, List.map_cons, List.count_append, List.count_cons_self] at single
          rw [← List.count_eq_zero, List.map_append, List.count_append]
          omega
        have written : lookup? key (front ++ (key, null) :: back) = some null :=
          (lookup?_eq_some_iff (once key member)).mpr (by simp)
        rw [held, held, written, lookup?_eq_none_of_not_mem absent]
        rfl
      · rw [held, held, lookup?_append_cons_of_ne same]
    · exact (((List.sublist_cons_self _ back).append_left front).map Prod.fst).count_le used
  | dropLine front back file =>
    -- The source itself changes here, so it is compared by what is read from it.
    have shared : "source" ∈ kind.keys := RecordKind.mem_keys_of_shared (by decide)
    refine ⟨fun used member other => ?_, ?_, fun used member => ?_⟩
    · rw [held, held, lookup?_append_cons_of_ne other.symm, lookup?_append_cons_of_ne other.symm]
    · have single := once "source" shared
      have written : lookup? "source" (front ++ ("source", obj [("file", file), ("line", null)]) :: back) =
          some (obj [("file", file), ("line", null)]) := (lookup?_eq_some_iff single).mpr (by simp)
      have rewritten : lookup? "source" (front ++ ("source", obj [("file", file)]) :: back) =
          some (obj [("file", file)]) := (lookup?_eq_some_iff (by simpa using single)).mpr (by simp)
      rw [written, rewritten]
      rfl
    · simp
  | reorder perm =>
    refine .of_held_eq (fun key member => ?_) (fun key _ => ?_)
    · rw [held, held, lookup?_of_perm perm (once key member)]
    · exact Nat.le_of_eq ((perm.map Prod.fst).count_eq key).symm

namespace Record

/-- An object that stands for a record. No key of the record's kind occurs twice in it. -/
structure Presents (record : Record) (fields : List (String × Json)) : Prop where
  once : ∀ key ∈ record.kind.keys, (fields.map Prod.fst).count key ≤ 1
  label : held "kind" fields = str record.kind.label
  read : ofFields? fields = some record

theorem presents_toFields (record : Record) : Presents record record.toFields where
  once key _ := by
    rw [record.toFields_keys]
    exact List.nodup_iff_count_le_one.mp record.kind.keys_nodup key
  label := rfl
  read := record.ofFields?_toFields

theorem Presents.rewrite {record : Record} (presents : Presents record before)
    (step : Rewrites record.kind before after) : Presents record after := by
  have alike := step.seenAlike presents.once
  refine ⟨fun key member => Nat.le_trans (alike.count_le key member) (presents.once key member), ?_, ?_⟩
  · rw [← alike.held_eq "kind" (RecordKind.mem_keys_of_shared (by decide)) (by decide), presents.label]
  · rw [← ofFields?_congr presents.label alike, presents.read]

theorem Presents.rewrites {record : Record} (presents : Presents record before)
    (steps : Relation.ReflTransGen (Rewrites record.kind) before after) : Presents record after := by
  induction steps with
  | refl => exact presents
  | tail _ step ih => exact ih.rewrite step

/-- A record is written as an object with the keys of its kind, each once, and is read back from it. It is
also read from the object after any changes that put in fields under other keys, leave out null fields or
reorder the fields. -/
theorem decoding_undoes_encoding (record : Record) :
    record.toFields.map Prod.fst = record.kind.keys ∧ record.kind.keys.Nodup ∧
      ofJson? record.toJson = some record ∧
      ∀ fields, Relation.ReflTransGen (Rewrites record.kind) record.toFields fields →
        ofJson? (.obj fields) = some record :=
  ⟨record.toFields_keys, record.kind.keys_nodup, record.ofFields?_toFields, fun _ steps =>
    ((presents_toFields record).rewrites steps).read⟩

/-- A guide with nothing but a name, a text and a source without a line. -/
def sampleGuide : Record :=
  { Record.ofDetails "audio" (.topic ⟨"Sounds.", [], ["cf_play"], [], [], [], none⟩) with
    source := some ⟨"audio.md", none⟩ }

theorem decoding_undoes_encoding_sampleGuide :
    ∃ fields, Relation.ReflTransGen (Rewrites .topic) sampleGuide.toFields fields ∧
      fields.map Prod.fst = ["members", "name", "brief", "remarks", "example", "example_brief", "related",
        "source", "kind", "content", "sections", "function_references", "struct_references",
        "enum_references", "topic_references"] ∧
      lookup? "source" fields = some (obj [("file", str "audio.md")]) ∧
      ofJson? (.obj fields) = some sampleGuide := by
  have steps : Relation.ReflTransGen (Rewrites .topic) sampleGuide.toFields _ :=
    .head (.drop [_] _ (by decide : "category" ∈ _)) <|
    .head (.dropLine [_, _, _, _, _, _] _ (str "audio.md")) <|
    .head (.drop [_, _, _, _, _, _, _, _, _, _, _, _, _, _] [] (by decide : "reading_order" ∈ _)) <|
    .single (.add [] _ null (by decide : "members" ∉ _))
  exact ⟨_, steps, rfl, rfl, sampleGuide.decoding_undoes_encoding.2.2.2 _ steps⟩

end Record

end ApiAtlas
