import ApiAtlas.Proofs.Header.Block

/-! # Headers read back

Reading inverts writing: the records of a written header are the records it was written from, in the
same order, each with the file and with the line on which its comment opens.
-/

namespace ApiAtlas.Header

open Text

/-- The code of a function gives the signature back, and no code gives none. -/
theorem signature?_codeLines {function : FunctionDetails} (portable : PortableCode (.function function)) :
    signature? (joinLines (codeLines (.function function))) = function.signature := by
  cases present : function.signature with
  | none =>
    rw [codeLines, present]
    rfl
  | some signature =>
    have back := (portable signature present).signature?_eq
    rw [String.ofList_toList] at back
    rw [codeLines, present, Option.toList_some, List.map_singleton, joinLines_singleton,
      show ";".toList = [';'] from rfl, back]

/-- The tags and the code of a canonical record say which record it is. -/
theorem Canonical.subject?_eq {record : Record} (canonical : Canonical record) :
    subject? ((recordTags record).map Tag.settled) (joinLines (codeLines record.details)) =
      some (record.name, record.details) := by
  have named := canonical.value?_label record.kind
  have code := canonical.code
  rw [if_pos rfl] at named
  have other (kind : RecordKind) (different : record.kind ≠ kind) :
      value? kind.label ((recordTags record).map Tag.settled) = none := by
    rw [canonical.value?_label, if_neg different]
  cases shape : record.details with
  | function function =>
    have kind : record.kind = .function := by rw [Record.kind, shape, Details.kind]
    have parameters := canonical.parameters_eq
    have description := canonical.value?_return
    rw [kind, RecordKind.label] at named
    rw [shape] at code parameters description
    simp only [subject?, named, parameters, description, signature?_codeLines code]
    rfl
  | struct members =>
    have kind : record.kind = .struct := by rw [Record.kind, shape, Details.kind]
    have function := other .function (by rw [kind]; decide)
    rw [kind, RecordKind.label] at named
    rw [shape] at code
    rw [RecordKind.label] at function
    simp only [subject?, function, named, codeLines, members_joinLines code]
  | enum entries =>
    have kind : record.kind = .enum := by rw [Record.kind, shape, Details.kind]
    have function := other .function (by rw [kind]; decide)
    have struct := other .struct (by rw [kind]; decide)
    rw [kind, RecordKind.label] at named
    rw [shape] at code
    simp only [RecordKind.label] at function struct
    simp only [subject?, function, struct, named, codeLines, entries_joinLines code, Option.map_some]
  | topic topic =>
    rw [shape] at code
    exact absurd code id

/-- A record with the place where it was read. -/
def located (file : String) (line : Nat) (record : Record) : Record :=
  { record with source := some ⟨file, lineField line⟩ }

/-- The block of a canonical record gives the record back. -/
theorem Canonical.record?_eq {record : Record} (canonical : Canonical record) (file : String) (line : Nat) :
    Block.record? file ⟨line, writeComment (recordTags record), '\n' :: writeCode record.details⟩ =
      some (located file line record) := by
  obtain ⟨category, brief, remarks, exampleCode, exampleBrief⟩ := canonical.shared_fields
  simp only [Block.record?, tags_writeComment canonical.carried, trim_writeCode canonical.code,
    canonical.subject?_eq, category, brief, remarks, exampleCode, exampleBrief, canonical.relatedNames_eq,
    Option.map_some]
  rfl

/-- Numbered blocks of canonical records give the records back, each on the line it was written on. -/
theorem filterMap_record?_numberBlocks {rs : List Record} (canonical : ∀ record ∈ rs, Canonical record)
    (file : String) (feeds : Nat) :
    (numberBlocks feeds (rs.map fun record =>
      (writeComment (recordTags record), '\n' :: writeCode record.details))).filterMap (Block.record? file) =
      rs.mapIdx fun i record => located file (1 + feeds + lineFeeds (write (rs.take i))) record := by
  induction rs generalizing feeds with
  | nil => rfl
  | cons record rest ih =>
    rw [List.forall_mem_cons] at canonical
    have first := canonical.1.record?_eq file (feeds + 1)
    have start : feeds + 1 = 1 + feeds + lineFeeds (write ((record :: rest).take 0)) := by
      have nothing : lineFeeds (write ((record :: rest).take 0)) = 0 := rfl
      omega
    have shift (i : Nat) : 1 + (feeds + lineFeeds (writeComment (recordTags record)) +
        lineFeeds ('\n' :: writeCode record.details)) + lineFeeds (write (rest.take i)) =
          1 + feeds + lineFeeds (write ((record :: rest).take (i + 1))) := by
      have whole : lineFeeds (write ((record :: rest).take (i + 1))) =
          lineFeeds (writeComment (recordTags record)) + lineFeeds ('\n' :: writeCode record.details) +
            lineFeeds (write (rest.take i)) := by
        rw [List.take_succ_cons, write, List.flatMap_cons, lineFeeds_append, writeRecord, lineFeeds_append,
          write]
      omega
    rw [List.map_cons, numberBlocks, List.filterMap_cons_some first, ih canonical.2, List.mapIdx_cons, ← start]
    simp only [shift]

theorem lineField_of_lt {line : Nat} (fits : line < UInt32.size) :
    ∃ field, lineField line = some field ∧ field.toNat = line := by
  refine ⟨UInt32.ofNat line, ?_, UInt32.toNat_ofNat_of_lt' fits⟩
  rw [lineField, if_pos fits]

/-- The comment of a record opens where the text of the records before it ends. -/
theorem write_take_isPrefix {rs : List Record} {i : Nat} (bound : i < rs.length) :
    write (rs.take i) ++ "/**".toList <+: write rs := by
  have opens (record : Record) : "/**".toList <+: writeRecord record := by
    unfold writeRecord writeComment
    rw [List.append_assoc, List.append_assoc]
    exact List.IsPrefix.trans (by decide) (List.prefix_append "/**\n".toList _)
  obtain ⟨after, first⟩ := opens rs[i]
  refine ⟨after ++ write (rs.drop (i + 1)), ?_⟩
  have cut : write rs = write (rs.take i) ++ (writeRecord rs[i] ++ write (rs.drop (i + 1))) := by
    rw [write, write, write, ← List.flatMap_cons, ← List.flatMap_append, List.getElem_cons_drop,
      List.take_append_drop]
  rw [cut, ← first]
  simp only [List.append_assoc]

/-- Reading a header inverts writing it: the records come back in order, each from the file and from
the line that its comment opens on, as long as the number of that line fits into the field for it. -/
theorem records_write {rs : List Record} (canonical : ∀ record ∈ rs, Canonical record) (file : String) :
    records file (write rs) =
      (rs.mapIdx fun i record => located file (1 + lineFeeds (write (rs.take i))) record) ∧
    ∀ i < rs.length, write (rs.take i) ++ "/**".toList <+: write rs ∧
      (1 + lineFeeds (write (rs.take i)) < UInt32.size →
        ∃ line, lineField (1 + lineFeeds (write (rs.take i))) = some line ∧
          line.toNat = 1 + lineFeeds (write (rs.take i))) := by
  refine ⟨?_, fun i bound => ⟨write_take_isPrefix bound, lineField_of_lt⟩⟩
  have read := filterMap_record?_numberBlocks canonical file 0
  rw [records, blocks, comments_write canonical]
  exact read

/-- A header of one record of each kind, with texts that run over several lines. -/
def sampleRecords : List Record :=
  [{ name := "cf_make_sprite"
     category := some "sprite"
     brief := some "Loads a sprite."
     remarks := some "The file is kept open.\n\n  - mail to a@b\n* see @ below"
     exampleCode := some "if (ok)\n    draw();"
     exampleBrief := none
     related := ["cf_draw", "*fast*"]
     source := none
     details := .function ⟨some "CF_Sprite cf_make_sprite(const char* path)",
       [⟨"path", "Where it is,\non disk."⟩, ⟨"flags", ""⟩], some "The sprite."⟩ },
   { Record.ofDetails "CF_Sprite" (.struct [⟨"const char* name", "The name /* or\nnothing."⟩]) with
     brief := some "A sprite." },
   Record.ofDetails "CF_Direction" (.enum [⟨"FORWARD", "1 << 0", "Plays on."⟩, ⟨"BACK", "", ""⟩])]

theorem sampleRecords_canonical : ∀ record ∈ sampleRecords, Canonical record := by
  have function : PortableSignature "CF_Sprite cf_make_sprite(const char* path)".toList := by
    refine ⟨by decide, by decide, by decide, by decide, ?_, by decide, by decide, by decide⟩
    intro mark known before after whole
    have absent : ∀ mark ∈ exportMacros,
        ¬mark <:+: "CF_Sprite cf_make_sprite(const char* path)".toList := by decide
    exact absurd ⟨before, after, whole.symm⟩ (absent mark known)
  have path : PortableParameter ⟨"path", "Where it is,\non disk."⟩ :=
    ⟨by decide, List.all_eq_true.mp (by decide), by decide⟩
  have flags : PortableParameter ⟨"flags", ""⟩ :=
    ⟨by decide, List.all_eq_true.mp (by decide), by decide⟩
  have draw : PortableName "cf_draw".toList :=
    ⟨by decide, by simp [isBlank], by decide, 'c', by decide, by decide⟩
  have fast : PortableName "*fast*".toList :=
    ⟨by decide, by simp [isBlank], by decide, 'f', by decide, by decide⟩
  have name : PortableMember ⟨"const char* name", "The name /* or\nnothing."⟩ :=
    ⟨by decide, by decide, by simp, by decide, by decide, by decide, by decide⟩
  have forward : PortableEntry ⟨"FORWARD", "1 << 0", "Plays on."⟩ :=
    ⟨by decide, List.all_eq_true.mp (by decide), by decide, by decide, by decide, by decide, by decide, by decide⟩
  have back : PortableEntry ⟨"BACK", "", ""⟩ :=
    ⟨by decide, List.all_eq_true.mp (by decide), by decide, by decide, by decide, by decide, by decide, by decide⟩
  simp only [sampleRecords, List.forall_mem_cons]
  refine ⟨?_, ?_, ?_, by simp⟩
  · refine ⟨by decide, by decide, by decide, by decide, by decide, by decide, by decide, ?_, ?_, by decide, ?_⟩
    · simpa using ⟨draw, fast⟩
    · simpa [parametersOf] using ⟨path, flags⟩
    · rintro signature ⟨⟩
      exact function
  · refine ⟨by decide, by decide, by decide, by decide, by decide, by decide, by decide, ?_, ?_, by decide, ?_⟩
    · simp [Record.ofDetails]
    · simp [Record.ofDetails, parametersOf]
    · simpa [Record.ofDetails, PortableCode] using name
  · refine ⟨by decide, by decide, by decide, by decide, by decide, by decide, by decide, ?_, ?_, by decide, ?_⟩
    · simp [Record.ofDetails]
    · simp [Record.ofDetails, parametersOf]
    · simpa [Record.ofDetails, PortableCode] using ⟨forward, back⟩

theorem records_write_sampleRecords : (∀ record ∈ sampleRecords, Canonical record) ∧
    records "sprite.h" (write sampleRecords) =
      List.zipWith (located "sprite.h") [1, 18, 25] sampleRecords := by
  refine ⟨sampleRecords_canonical, ?_⟩
  rw [(records_write sampleRecords_canonical "sprite.h").1]
  decide +kernel

end ApiAtlas.Header
