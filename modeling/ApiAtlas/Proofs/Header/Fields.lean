import ApiAtlas.Proofs.Header.Comment

/-! # Fields of a written record

A canonical record is written with tags that a comment carries, and every field of the record is read
back from them: texts, parameters, related names, and the name under the tag of the record's kind.
-/

namespace ApiAtlas.Header

open Text

theorem trimEnd_returnless {line : List Char} (trimmed : trimEnd line = line) :
    line.getLast? ≠ some '\r' := by
  intro ends
  have blank : isBlank '\r' = false := trimEnd_eq_self_iff.mp trimmed '\r' ends
  exact absurd blank (by decide)

theorem Portable.first_trimEnd {value first : List Char} {more : List (List Char)}
    (portable : Portable value) (split : valueLines value = first :: more) : trimEnd first = first :=
  portable.first_line first (by simp [split])

/-- The first line of a portable text has no blanks around it. -/
theorem Portable.first_trim {value first : List Char} {more : List (List Char)}
    (portable : Portable value) (split : valueLines value = first :: more) : trim first = first := by
  apply trim_eq_self
  · intro c starts
    apply head_of_trim_eq_self portable.trimmed
    have joined : value = joinLines (first :: more) := by
      rw [← split, joinLines_valueLines]
    rw [joined]
    cases more with
    | nil => simpa using starts
    | cons next rest =>
      rw [joinLines_cons_cons, List.head?_append, Option.mem_def.mp starts]
      rfl
  · exact trimEnd_eq_self_iff.mp (portable.first_trimEnd split)

/-- A portable text that goes on after its first line has something on that line. -/
theorem Portable.first_ne_nil {value first next : List Char} {rest : List (List Char)}
    (portable : Portable value) (split : valueLines value = first :: next :: rest) : first ≠ [] := by
  rintro rfl
  have joined : value = '\n' :: joinLines (next :: rest) := by
    rw [← joinLines_valueLines value, split, joinLines_cons_cons, List.nil_append]
  have blank := head_of_trim_eq_self portable.trimmed '\n' (by simp [joined])
  exact absurd blank (by decide)

theorem Portable.carried {value : List Char} (portable : Portable value) : Carried value := by
  obtain ⟨first, more, split⟩ := List.exists_cons_of_ne_nil (splitBy_ne_nil value)
  have continued := portable.continued
  rw [valueLines, split, List.tail_cons] at continued
  refine ⟨portable.unclosed, ?_, ?_, ?_⟩
  · rw [valueLines, split, List.forall_mem_cons]
    exact ⟨trimEnd_returnless (portable.first_trimEnd split), fun line member => (continued line member).2⟩
  · rintro - line starts
    obtain rfl : first = line := by simpa [valueLines, split] using starts
    exact portable.first_trim split
  · rw [valueLines, split, List.tail_cons]
    exact fun line member => (continued line member).1

theorem trim_named_text {name text : List Char} (named : name ≠ []) (word : ∀ c ∈ name, isWord c = true)
    (filled : text ≠ []) (trimmed : trimEnd text = text) :
    trim (name ++ ' ' :: text) = name ++ ' ' :: text := by
  apply trim_eq_self
  · intro c starts
    rw [List.head?_append_of_ne_nil _ named] at starts
    exact not_isBlank_of_isWord (word c (List.mem_of_mem_head? starts))
  · intro c ends
    apply trimEnd_eq_self_iff.mp trimmed
    rwa [List.getLast?_append_of_ne_nil _ (by simp), List.getLast?_cons_of_ne_nil filled] at ends

/-- A parameter's name and description come back as one value. -/
theorem PortableParameter.carried {parameter : Parameter} (portable : PortableParameter parameter) :
    Carried (parameter.name.toList ++ ' ' :: parameter.description.toList) := by
  obtain ⟨first, more, split⟩ :=
    List.exists_cons_of_ne_nil (splitBy_ne_nil parameter.description.toList)
  have whole : valueLines (parameter.name.toList ++ ' ' :: parameter.description.toList) =
      (parameter.name.toList ++ ' ' :: first) :: more := by
    have free : '\n' ∉ parameter.name.toList ++ [' '] := by
      simpa using not_mem_of_word portable.word (show isWord '\n' = false by decide)
    simpa using valueLines_append_of_free free split
  have inner := portable.description.carried
  refine ⟨?_, ?_, ?_, ?_⟩
  · rw [infix_append_cons_iff (by decide)]
    rintro (inside | inside)
    · exact not_mem_of_word portable.word (show isWord '*' = false by decide) (inside.subset (by simp))
    · exact inner.unclosed inside
  · have ends := inner.returnless
    rw [valueLines, split, List.forall_mem_cons] at ends
    rw [whole, List.forall_mem_cons]
    exact ⟨returnless_after_space ends.1 _, ends.2⟩
  · intro continues line starts
    obtain rfl : parameter.name.toList ++ ' ' :: first = line := by simpa [whole] using starts
    obtain ⟨next, rest, rfl⟩ := List.exists_cons_of_ne_nil (by simpa [whole] using continues)
    exact trim_named_text (by simpa using portable.named) portable.word
      (portable.description.first_ne_nil split) (portable.description.first_trimEnd split)
  · have plain := inner.continued
    rw [valueLines, split, List.tail_cons] at plain
    rw [whole]
    exact plain

theorem PortableParameter.parameter?_eq {parameter : Parameter} (portable : PortableParameter parameter) :
    parameter? (trim (parameter.name.toList ++ ' ' :: parameter.description.toList)) = some parameter := by
  have named : parameter.name.toList ≠ [] := by simpa using portable.named
  obtain ⟨name, description⟩ := parameter
  rcases eq_or_ne description "" with rfl | filled
  · have run := @takeWhile_run Char isWord name.toList [] portable.word (by simp)
    have stop := @dropWhile_run Char isWord name.toList [] portable.word (by simp)
    rw [List.append_nil] at run stop
    have short : trim (name.toList ++ ' ' :: "".toList) = name.toList := by
      rw [String.toList_empty, trim_append_of_blank (by decide)]
      exact trim_of_free fun c member => not_isBlank_of_isWord (portable.word c member)
    simp only [short, parameter?, run, stop]
    simpa using named
  · have trimmed := portable.description.trimmed
    have ends : trimEnd description.toList = description.toList :=
      trimEnd_eq_self_iff.mpr (getLast_of_trim_eq_self trimmed)
    have stops : ∀ c ∈ (' ' :: description.toList).head?, isWord c = false := by
      rintro c ⟨⟩
      decide
    rw [trim_named_text named portable.word (by simpa using filled) ends]
    simp only [parameter?, takeWhile_run portable.word stops, dropWhile_run portable.word stops, trimmed]
    simpa using ⟨portable.named, show isBlank ' ' = true by decide⟩

theorem unclosed_intercalate {names : List (List Char)}
    (unclosed : ∀ name ∈ names, ¬['*', '/'] <:+: name) : ¬['*', '/'] <:+: [' '].intercalate names := by
  induction names with
  | nil => simp [List.intercalate]
  | cons name rest ih =>
    rw [List.forall_mem_cons] at unclosed
    cases rest with
    | nil => simpa [List.intercalate] using unclosed.1
    | cons next more =>
      rw [List.intercalate_cons_cons, List.append_assoc, List.singleton_append,
        infix_append_cons_iff (by decide), not_or]
      exact ⟨unclosed.1, ih unclosed.2⟩

/-- The names of related records come back as one value. -/
theorem carried_intercalate {names : List (List Char)} (portable : ∀ name ∈ names, PortableName name) :
    Carried ([' '].intercalate names) := by
  have free : ∀ name ∈ names, ∀ c ∈ name, isBlank c = false := fun name known => (portable name known).unbroken
  have single : valueLines ([' '].intercalate names) = [[' '].intercalate names] := by
    apply splitBy_of_free
    intro c member
    apply beq_false_of_ne
    rintro rfl
    exact not_mem_intercalate free (by decide) (by decide) member
  refine ⟨?_, ?_, ?_, ?_⟩
  · exact unclosed_intercalate fun name known => (portable name known).unclosed
  · intro line member ends
    obtain rfl : line = [' '].intercalate names := by simpa [single] using member
    exact not_mem_intercalate free (by decide) (by decide) (List.mem_of_getLast? ends)
  · simp [single]
  · simp [single]

theorem carried_fieldTag {name : String} {field : Option String} (named : IsTagName name)
    (portable : PortableField field) :
    ∀ tag ∈ fieldTag name field, tag.Carried := by
  intro tag member
  obtain ⟨value, present, rfl⟩ := List.mem_map.mp member
  exact ⟨named, (portable value (Option.mem_toList.mp present)).2.carried⟩

theorem carried_detailTags {details : Details}
    (parameters : ∀ parameter ∈ parametersOf details, PortableParameter parameter)
    (description : PortableField (returnOf details)) : ∀ tag ∈ detailTags details, tag.Carried := by
  intro tag member
  rcases List.mem_append.mp member with member | member
  · obtain ⟨parameter, known, rfl⟩ := List.mem_map.mp member
    exact ⟨show IsTagName "param" by decide, (parameters parameter known).carried⟩
  · exact carried_fieldTag (by decide) description tag member

theorem carried_relatedTag {related : List String} (portable : ∀ name ∈ related, PortableName name.toList) :
    ∀ tag ∈ relatedTag related, tag.Carried := by
  intro tag member
  rw [relatedTag] at member
  split at member
  · simp at member
  · obtain rfl := List.mem_singleton.mp member
    refine ⟨show IsTagName "related" by decide, carried_intercalate ?_⟩
    simpa using portable

/-- All tags of a canonical record come back. -/
theorem Canonical.carried {record : Record} (canonical : Canonical record) :
    ∀ tag ∈ recordTags record, tag.Carried := by
  rw [recordTags, List.forall_mem_cons]
  constructor
  · refine ⟨?_, canonical.name.carried⟩
    show IsTagName record.kind.label
    cases record.kind <;> decide
  · simp only [List.mem_append, or_imp, forall_and]
    exact ⟨⟨⟨⟨⟨⟨carried_fieldTag (by decide) canonical.category,
      carried_fieldTag (by decide) canonical.brief⟩,
      carried_fieldTag (by decide) canonical.remarks⟩,
      carried_fieldTag (by decide) canonical.exampleCode⟩,
      carried_fieldTag (by decide) canonical.exampleBrief⟩,
      carried_detailTags canonical.parameters canonical.returnDescription⟩, carried_relatedTag canonical.related⟩

theorem valuesOf_append (name : String) (front back : List Tag) :
    valuesOf name (front ++ back) = valuesOf name front ++ valuesOf name back := by
  simp [valuesOf]

/-- Tags of one name have values for that name only. -/
theorem valuesOf_settled {name other : String} {ts : List Tag} (uniform : ∀ tag ∈ ts, tag.name = other) :
    valuesOf name (ts.map Tag.settled) =
      if other = name then ts.map (fun tag => trim tag.value) else [] := by
  split
  · rename_i same
    have kept : (ts.map Tag.settled).filter (fun tag => tag.name == name) = ts.map Tag.settled := by
      simpa [Tag.settled, same] using uniform
    rw [valuesOf, kept, List.map_map]
    rfl
  · rename_i different
    have none : (ts.map Tag.settled).filter (fun tag => tag.name == name) = [] := by
      rw [List.filter_eq_nil_iff]
      intro settled member
      obtain ⟨tag, known, rfl⟩ := List.mem_map.mp member
      simpa [Tag.settled, uniform tag known] using different
    rw [valuesOf, none, List.map_nil]

theorem valuesOf_fieldTag {name other : String} {field : Option String} (portable : PortableField field) :
    valuesOf name ((fieldTag other field).map Tag.settled) =
      if other = name then field.toList.map String.toList else [] := by
  have uniform : ∀ tag ∈ fieldTag other field, tag.name = other := by
    intro tag member
    obtain ⟨value, -, rfl⟩ := List.mem_map.mp member
    rfl
  rw [valuesOf_settled uniform, fieldTag, List.map_map]
  congr 1
  apply List.map_congr_left
  intro value present
  exact (portable value (Option.mem_toList.mp present)).2.trimmed

theorem valuesOf_relatedTag (name : String) (related : List String) :
    valuesOf name ((relatedTag related).map Tag.settled) =
      if "related" = name then (relatedTag related).map (fun tag => trim tag.value) else [] := by
  apply valuesOf_settled
  intro tag member
  rw [relatedTag] at member
  split at member
  · simp at member
  · rw [List.mem_singleton.mp member]

theorem words_relatedTag {related : List String} (portable : ∀ name ∈ related, PortableName name.toList) :
    ((relatedTag related).map fun tag => trim tag.value).flatMap words = related.map String.toList := by
  have proper : ∀ piece ∈ related.map String.toList, piece ≠ [] ∧ ∀ c ∈ piece, isBlank c = false := by
    intro piece member
    obtain ⟨text, known, rfl⟩ := List.mem_map.mp member
    exact ⟨(portable text known).filled, (portable text known).unbroken⟩
  rw [relatedTag]
  split
  · rename_i empty
    simp [empty]
  · simp [trim_intercalate_words proper, words_intercalate proper]

theorem valuesOf_detailTags {name : String} {details : Details} (portable : PortableField (returnOf details)) :
    valuesOf name ((detailTags details).map Tag.settled) =
      (if "param" = name then (parametersOf details).map (fun parameter => trim (parameterTag parameter).value)
        else []) ++
      if "return" = name then (returnOf details).toList.map String.toList else [] := by
  have uniform : ∀ tag ∈ (parametersOf details).map parameterTag, tag.name = "param" := by
    intro tag member
    obtain ⟨parameter, -, rfl⟩ := List.mem_map.mp member
    rfl
  rw [detailTags, List.map_append, valuesOf_append, valuesOf_settled uniform, valuesOf_fieldTag portable,
    List.map_map]
  rfl

/-- The values of every tag of a canonical record. -/
theorem Canonical.valuesOf_recordTags {record : Record} (canonical : Canonical record) (name : String) :
    valuesOf name ((recordTags record).map Tag.settled) =
      (if record.kind.label = name then [record.name.toList] else []) ++
        ((if "category" = name then record.category.toList.map String.toList else []) ++
        (if "brief" = name then record.brief.toList.map String.toList else []) ++
        (if "remarks" = name then record.remarks.toList.map String.toList else []) ++
        (if "example" = name then record.exampleCode.toList.map String.toList else []) ++
        (if "example_brief" = name then record.exampleBrief.toList.map String.toList else []) ++
        ((if "param" = name then (parametersOf record.details).map
            (fun parameter => trim (parameterTag parameter).value) else []) ++
          if "return" = name then (returnOf record.details).toList.map String.toList else []) ++
        if "related" = name then (relatedTag record.related).map (fun tag => trim tag.value) else []) := by
  have first : valuesOf name ([⟨record.kind.label, record.name.toList⟩].map Tag.settled) =
      if record.kind.label = name then [record.name.toList] else [] := by
    have uniform : ∀ tag ∈ [(⟨record.kind.label, record.name.toList⟩ : Tag)],
        tag.name = record.kind.label := by simp
    rw [valuesOf_settled uniform, List.map_singleton, canonical.name.trimmed]
  rw [recordTags, ← List.singleton_append, List.map_append, valuesOf_append, first]
  simp only [List.map_append, valuesOf_append, valuesOf_fieldTag canonical.category,
    valuesOf_fieldTag canonical.brief, valuesOf_fieldTag canonical.remarks,
    valuesOf_fieldTag canonical.exampleCode, valuesOf_fieldTag canonical.exampleBrief,
    valuesOf_detailTags canonical.returnDescription, valuesOf_relatedTag]

/-- A field that is written once is read back. -/
theorem value?_of_valuesOf {name : String} {ts : List Tag} {field : Option String}
    (portable : PortableField field) (values : valuesOf name ts = field.toList.map String.toList) :
    value? name ts = field := by
  cases field with
  | none => simp [value?, values]
  | some value =>
    have filled : value ≠ "" := (portable value rfl).1
    simp [value?, values, filled]

/-- The fields that all kinds share are read back. -/
theorem Canonical.shared_fields {record : Record} (canonical : Canonical record) :
    value? "category" ((recordTags record).map Tag.settled) = record.category ∧
    value? "brief" ((recordTags record).map Tag.settled) = record.brief ∧
    value? "remarks" ((recordTags record).map Tag.settled) = record.remarks ∧
    value? "example" ((recordTags record).map Tag.settled) = record.exampleCode ∧
    value? "example_brief" ((recordTags record).map Tag.settled) = record.exampleBrief := by
  refine ⟨value?_of_valuesOf canonical.category ?_, value?_of_valuesOf canonical.brief ?_,
    value?_of_valuesOf canonical.remarks ?_, value?_of_valuesOf canonical.exampleCode ?_,
    value?_of_valuesOf canonical.exampleBrief ?_⟩
  all_goals
    rw [canonical.valuesOf_recordTags]
    cases record.kind <;> simp [RecordKind.label]

/-- The tag of a record's own kind has the record's name, and no other kind has a tag. -/
theorem Canonical.value?_label {record : Record} (canonical : Canonical record) (kind : RecordKind) :
    value? kind.label ((recordTags record).map Tag.settled) =
      if record.kind = kind then some record.name else none := by
  have values : valuesOf kind.label ((recordTags record).map Tag.settled) =
      if record.kind = kind then [record.name.toList] else [] := by
    rw [canonical.valuesOf_recordTags]
    cases record.kind <;> cases kind <;> simp [RecordKind.label]
  rw [value?, values]
  split
  · simp [canonical.named]
  · rfl

theorem Canonical.value?_return {record : Record} (canonical : Canonical record) :
    value? "return" ((recordTags record).map Tag.settled) = returnOf record.details := by
  apply value?_of_valuesOf canonical.returnDescription
  rw [canonical.valuesOf_recordTags]
  cases record.kind <;> simp [RecordKind.label]

theorem Canonical.parameters_eq {record : Record} (canonical : Canonical record) :
    Header.parameters ((recordTags record).map Tag.settled) = parametersOf record.details := by
  have values : valuesOf "param" ((recordTags record).map Tag.settled) =
      (parametersOf record.details).map fun parameter => trim (parameterTag parameter).value := by
    rw [canonical.valuesOf_recordTags]
    cases record.kind <;> simp [RecordKind.label]
  have back : ∀ parameter ∈ parametersOf record.details,
      parameter? (trim (parameterTag parameter).value) = some parameter :=
    fun parameter known => (canonical.parameters parameter known).parameter?_eq
  rw [Header.parameters, values, List.filterMap_map]
  simp only [Function.comp_def]
  rw [List.filterMap_congr back, List.filterMap_some]

theorem Canonical.relatedNames_eq {record : Record} (canonical : Canonical record) :
    relatedNames ((recordTags record).map Tag.settled) = record.related := by
  have values : valuesOf "related" ((recordTags record).map Tag.settled) =
      (relatedTag record.related).map fun tag => trim tag.value := by
    rw [canonical.valuesOf_recordTags]
    cases record.kind <;> simp [RecordKind.label]
  have proper : ∀ name ∈ record.related, isCommentMark name.toList = false := by
    intro name known
    obtain ⟨c, inside, slash, star⟩ := (canonical.related name known).proper
    rw [isCommentMark, List.all_eq_false]
    exact ⟨c, inside, by simp [slash, star]⟩
  have back : ∀ name ∈ record.related,
      (if isCommentMark name.toList then none else some (String.ofList name.toList)) = some name := by
    intro name known
    simp [proper name known]
  rw [relatedNames, values, words_relatedTag canonical.related, List.filterMap_map]
  simp only [Function.comp_def]
  rw [List.filterMap_congr back, List.filterMap_some]

end ApiAtlas.Header
