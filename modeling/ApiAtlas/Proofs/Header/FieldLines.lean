import ApiAtlas.Header.Reader
import ApiAtlas.Proofs.Header.NormalForm
import ApiAtlas.Proofs.Text.CompleteLines
import ApiAtlas.Proofs.Text.Scan

/-! # Fields on one line

What a record takes from its block, field by field, and which fields can have a line feed in them. Names of parameters
and entries are words, a declaration stays on its line, and a signature is brought onto one. The value of a tag goes
over as many lines as were written for it, blank ones at its ends apart.
-/

namespace ApiAtlas.Header

open Text

section Items

variable {α : Type}

theorem exists_of_afterSlash {item : Pattern α} {s : List Char} {found : α × List Char}
    (here : afterSlash item s = some found) : ∃ rest, item rest = some found := by
  unfold afterSlash at here
  split at here
  · exact ⟨_, here⟩
  · simp at here

/-- An item that is found behind a description is an item on its own. -/
theorem exists_of_describedItem {item : Pattern α} {s text after : List Char} {value : α}
    (found : describedItem item s = some ((text, value), after)) : ∃ rest, item rest = some (value, after) := by
  induction s generalizing text with
  | nil => simp [describedItem] at found
  | cons c rest ih =>
    rw [describedItem] at found
    split at found
    · rename_i other tail here
      split_ifs at here
      obtain ⟨rfl, rfl, rfl⟩ : [] = text ∧ other = value ∧ tail = after := by simpa [and_assoc] using found
      exact exists_of_afterSlash here
    · obtain ⟨⟨⟨front, other⟩, tail⟩, later, shape⟩ := Option.map_eq_some_iff.mp found
      obtain ⟨-, rfl, rfl⟩ : c :: front = text ∧ other = value ∧ tail = after := by simpa [and_assoc] using shape
      exact ih later

theorem exists_of_mem_items {keyword s description : List Char} {item : Pattern α} {value : α}
    (member : (description, value) ∈ findAll (itemPattern keyword item) s) :
    ∃ rest after, item rest = some (value, after) := by
  obtain ⟨text, after, applies⟩ := exists_of_mem_findAll member
  unfold itemPattern at applies
  split at applies
  · obtain ⟨⟨⟨front, other⟩, tail⟩, found, shape⟩ := Option.map_eq_some_iff.mp applies
    obtain ⟨-, rfl, rfl⟩ : trim front = description ∧ other = value ∧ tail = after := by
      simpa [and_assoc] using shape
    obtain ⟨rest, here⟩ := exists_of_describedItem found
    exact ⟨rest, tail, here⟩
  · simp at applies

end Items

theorem feedless_of_word {name : List Char} (word : ∀ c ∈ name, isWord c = true) : '\n' ∉ name := by
  intro inside
  exact absurd (word '\n' inside) (by decide)

theorem feedless_of_mem_parameters {tags : List Tag} {parameter : Parameter} (member : parameter ∈ parameters tags) :
    '\n' ∉ parameter.name.toList := by
  obtain ⟨value, -, read⟩ := List.mem_filterMap.mp member
  have named : parameter.name = String.ofList (value.takeWhile isWord) := by
    simp only [parameter?] at read
    split_ifs at read
    split at read
    · exact (congrArg Parameter.name (Option.some.inj read)).symm
    · split_ifs at read
      exact (congrArg Parameter.name (Option.some.inj read)).symm
  rw [named, String.toList_ofList]
  exact feedless_of_word fun c => List.mem_takeWhile_imp

theorem feedless_of_declarationItem {s declaration after : List Char}
    (found : declarationItem s = some (declaration, after)) : '\n' ∉ declaration := by
  simp only [declarationItem] at found
  split_ifs at found
  · obtain ⟨rfl, -⟩ : _ = declaration ∧ _ := by simpa using found
    intro inside
    have stays := List.mem_takeWhile_imp inside
    exact absurd stays (by decide)
  · obtain ⟨rfl, -⟩ : [] = declaration ∧ _ := by simpa using found
    simp

theorem feedless_of_mem_members {code : List Char} {member : Member} (known : member ∈ members code) :
    '\n' ∉ member.declaration.toList := by
  obtain ⟨⟨description, declaration⟩, listed, tidied⟩ := List.mem_filterMap.mp known
  obtain ⟨rest, after, found⟩ := exists_of_mem_items listed
  simp only [member?] at tidied
  split_ifs at tidied
  have tidy : member.declaration = String.ofList (trimEnd (dropEndWhile (· == ';') (trim declaration))) :=
    (congrArg Member.declaration (Option.some.inj tidied)).symm
  rw [tidy, String.toList_ofList]
  intro inside
  obtain ⟨gone, whole, -⟩ := exists_append_dropEndWhile (· == ';') (trim declaration)
  have kept : '\n' ∈ trim declaration := by
    rw [whole]
    exact List.mem_append_left _ ((trimEnd_isPrefix _).subset inside)
  exact feedless_of_declarationItem found (mem_of_mem_trim kept)

theorem word_of_entryItem {s name value after : List Char} (found : entryItem s = some ((name, value), after)) :
    ∀ c ∈ name, isWord c = true := by
  obtain ⟨opening, -, found⟩ := Option.bind_eq_some_iff.mp found
  obtain ⟨inside, -, found⟩ := Option.bind_eq_some_iff.mp found
  obtain ⟨-, -, found⟩ := Option.bind_eq_some_iff.mp found
  obtain ⟨rest, -, found⟩ := Option.bind_eq_some_iff.mp found
  obtain ⟨⟨written, tail⟩, -, shape⟩ := Option.bind_eq_some_iff.mp found
  obtain ⟨⟨rfl, -⟩, -⟩ : (_ = name ∧ _) ∧ _ := by simpa using shape
  exact fun c => List.mem_takeWhile_imp

theorem feedless_of_mem_entries {code : List Char} {entry : EnumEntry} (known : entry ∈ entries code) :
    '\n' ∉ entry.name.toList := by
  obtain ⟨⟨description, name, value⟩, listed, rfl⟩ := List.mem_map.mp known
  obtain ⟨rest, after, found⟩ := exists_of_mem_items listed
  rw [String.toList_ofList]
  exact feedless_of_word (word_of_entryItem found)

/-- A signature stands on one line. -/
theorem feedless_of_signature? {code : List Char} {signature : String} (found : signature? code = some signature) :
    '\n' ∉ signature.toList := by
  rw [(toList_of_signature? found).1]
  intro inside
  obtain ⟨before, after, split⟩ := List.append_of_mem inside
  have space := (singleSpaced_tidyDeclaration _ before '\n' after split (by decide)).1
  exact absurd space (by decide)

section TagLines

theorem mem_of_mem_stripClosing {line : List Char} {c : Char} (member : c ∈ stripClosing line) : c ∈ line := by
  unfold stripClosing at member
  split at member
  · rename_i rest ending
    have inside : c ∈ rest :=
      (List.dropWhile_sublist _).subset ((List.dropWhile_sublist _).subset (List.mem_reverse.mp member))
    have tail : c ∈ line.reverse.dropWhile isBlank := by rw [ending]; simp [inside]
    exact List.mem_reverse.mp ((List.dropWhile_sublist _).subset tail)
  · exact member

theorem dropSlash_isSuffix (s : List Char) : dropSlash s <:+ s := by
  unfold dropSlash
  split
  · exact List.suffix_cons _ _
  · exact List.suffix_rfl

theorem dropBlank_isSuffix (s : List Char) : dropBlank s <:+ s := by
  unfold dropBlank
  split
  · exact List.suffix_rfl
  · split
    · exact List.suffix_cons _ _
    · exact List.suffix_rfl

theorem stripMargin_isSuffix (line : List Char) : stripMargin line <:+ line := by
  unfold stripMargin
  split
  · rename_i rest starts
    have bare : '*' :: rest <:+ line := by
      rw [← starts]
      exact (dropSlash_isSuffix _).trans (List.dropWhile_suffix isBlank)
    exact (dropBlank_isSuffix _).trans
      ((List.dropWhile_suffix _).trans ((List.suffix_cons _ _).trans bare))
  · exact List.suffix_rfl

/-- The text of a comment line is a part of the line. -/
theorem mem_of_mem_commentText {line : List Char} {c : Char} (member : c ∈ commentText line) : c ∈ line :=
  mem_of_mem_stripClosing ((stripMargin_isSuffix _).subset member)

theorem mem_of_tagStart? {line name first : List Char} {c : Char} (started : tagStart? line = some (name, first))
    (member : c ∈ first) : c ∈ line := by
  unfold tagStart? at started
  split at started
  · rename_i rest starts
    simp only [Option.ite_none_left_eq_some, Option.some.injEq, Prod.mk.injEq] at started
    rw [← started.2.2] at member
    have inside : c ∈ rest := (List.dropWhile_sublist _).subset (mem_of_mem_trim member)
    have tail : c ∈ trimStart line := by rw [starts]; simp [inside]
    exact (List.dropWhile_sublist _).subset tail
  · simp at started

/-- Groups are made of the items they are cut from. -/
theorem mem_of_groupBy {α β : Type} {announces : α → Option β} {items : List α} :
    (∀ item ∈ (groupBy announces items).1, item ∈ items) ∧
      ∀ group ∈ (groupBy announces items).2,
        (∃ item ∈ items, announces item = some group.1) ∧ ∀ item ∈ group.2, item ∈ items := by
  induction items with
  | nil => simp [groupBy]
  | cons item rest ih =>
    obtain ⟨front, groups⟩ := ih
    have later : ∀ group ∈ (groupBy announces rest).2,
        (∃ other ∈ item :: rest, announces other = some group.1) ∧ ∀ other ∈ group.2, other ∈ item :: rest := by
      intro group member
      obtain ⟨⟨head, inside, announced⟩, more⟩ := groups group member
      exact ⟨⟨head, List.mem_cons_of_mem _ inside, announced⟩,
        fun other known => List.mem_cons_of_mem _ (more other known)⟩
    cases announced : announces item with
    | some head =>
      rw [groupBy_cons_of_eq_some announced, List.forall_mem_cons]
      exact ⟨by simp,
        ⟨⟨item, by simp, announced⟩, fun other known => List.mem_cons_of_mem _ (front other known)⟩, later⟩
    | none =>
      rw [groupBy_cons_of_eq_none announced, List.forall_mem_cons]
      exact ⟨⟨by simp, fun other known => List.mem_cons_of_mem _ (front other known)⟩, later⟩

/-- The lines that the value of a tag was written on: those of the last tag with the name, without comment marks. -/
def tagLines (name : String) (comment : List Char) : List (List Char) :=
  (((groupBy tagStart? ((lines comment).map commentText)).2.filter fun group =>
    String.ofList group.1.1 == name).getLast?).elim [] fun group => group.1.2 :: group.2

theorem feedless_of_mem_tagLines {name : String} {comment line : List Char} (member : line ∈ tagLines name comment) :
    '\n' ∉ line := by
  have plain : ∀ line ∈ (lines comment).map commentText, '\n' ∉ line := by
    intro line known inside
    obtain ⟨raw, listed, rfl⟩ := List.mem_map.mp known
    exact feedless_of_mem_lines listed (mem_of_mem_commentText inside)
  unfold tagLines at member
  generalize found : ((groupBy tagStart? ((lines comment).map commentText)).2.filter fun group =>
    String.ofList group.1.1 == name).getLast? = last at member
  cases last with
  | none => simp at member
  | some group =>
    have known := (List.mem_filter.mp (List.mem_of_getLast? found)).1
    obtain ⟨⟨head, listed, started⟩, more⟩ := mem_of_groupBy.2 group known
    rcases List.mem_cons.mp member with rfl | later
    · exact fun inside => plain head listed (mem_of_tagStart? started inside)
    · exact plain line (more line later)

/-- The value of a tag as a text, empty if there is none. -/
def shownValue (name : String) (tags : List Tag) : List Char :=
  (value? name tags).elim [] String.toList

theorem shownValue_eq (name : String) (tags : List Tag) :
    shownValue name tags = ((valuesOf name tags).getLast?).getD [] := by
  rw [shownValue, value?]
  cases (valuesOf name tags).getLast? with
  | none => rfl
  | some value => cases value <;> simp [Option.filter]

/-- A value is what its lines say. -/
theorem shownValue_tags (name : String) (comment : List Char) :
    shownValue name (tags comment) = trim (joinLines (tagLines name comment)) := by
  rw [shownValue_eq, valuesOf, tags, List.filter_map, List.map_map, List.getLast?_map, tagLines]
  simp only [Function.comp_def]
  cases ((groupBy tagStart? ((lines comment).map commentText)).2.filter fun group =>
    String.ofList group.1.1 == name).getLast? <;> rfl

/-- A value goes over several lines exactly if more than one of those it was written on says something. -/
theorem feedless_shownValue_iff (name : String) (comment : List Char) :
    '\n' ∉ shownValue name (tags comment) ↔ (filledLines (tagLines name comment)).length ≤ 1 := by
  rw [shownValue_tags]
  exact feedless_trim_joinLines_iff fun line => feedless_of_mem_tagLines

end TagLines

/-- What a record takes from the comment and from the code of its block. -/
structure Block.Documents (block : Block) (record : Record) : Prop where
  name : value? record.kind.label (tags block.comment) = some record.name
  category : record.category = value? "category" (tags block.comment)
  brief : record.brief = value? "brief" (tags block.comment)
  details : record.details =
      .function ⟨signature? (trim block.code), parameters (tags block.comment), value? "return" (tags block.comment)⟩ ∨
    record.details = .struct (members (trim block.code)) ∨ record.details = .enum (entries (trim block.code))

theorem subject?_cases {tags : List Tag} {code : List Char} {name : String} {details : Details}
    (documented : subject? tags code = some (name, details)) :
    value? details.kind.label tags = some name ∧
      (details = .function ⟨signature? code, parameters tags, value? "return" tags⟩ ∨
        details = .struct (members code) ∨ details = .enum (entries code)) := by
  unfold subject? at documented
  split at documented
  · rename_i function
    cases documented
    exact ⟨function, .inl rfl⟩
  · split at documented
    · rename_i structure_
      cases documented
      exact ⟨structure_, .inr (.inl rfl)⟩
    · obtain ⟨other, enumeration, shape⟩ := Option.map_eq_some_iff.mp documented
      cases shape
      exact ⟨enumeration, .inr (.inr rfl)⟩

theorem Block.documents_of_record? {block : Block} {file : String} {record : Record}
    (read : block.record? file = some record) : block.Documents record := by
  obtain ⟨⟨name, details⟩, documented, rfl⟩ := Option.map_eq_some_iff.mp read
  obtain ⟨named, taken⟩ := subject?_cases documented
  exact ⟨named, rfl, rfl, taken⟩

namespace Block.Documents

variable {block : Block} {record : Record} (documents : block.Documents record)

include documents

theorem toList_name : record.name.toList = shownValue record.kind.label (tags block.comment) := by
  rw [shownValue, documents.name]
  rfl

theorem toList_briefText : record.briefText.toList = shownValue "brief" (tags block.comment) := by
  rw [shownValue, ← documents.brief, Record.briefText]
  cases record.brief <;> rfl

theorem details_ne_topic (topic : TopicDetails) : record.details ≠ .topic topic := by
  rcases documents.details with details | details | details <;> rw [details] <;> nofun

theorem isTopic_eq_false : record.isTopic = false := by
  rw [Record.isTopic, Record.kind]
  rcases documents.details with details | details | details <;> rw [details] <;> rfl

end Block.Documents

theorem exists_documents {file : String} {s : List Char} {record : Record} (member : record ∈ records file s) :
    ∃ block ∈ blocks s, block.Documents record := by
  obtain ⟨block, known, read⟩ := List.mem_filterMap.mp member
  exact ⟨block, known, Block.documents_of_record? read⟩

end ApiAtlas.Header
