import ApiAtlas.Guide.Reader
import ApiAtlas.Proofs.Names
import ApiAtlas.Proofs.Text.Scan
import ApiAtlas.Proofs.Text.Trim
import Mathlib.Data.List.TakeWhile
import Mathlib.Data.Option.Basic

/-! # Links of written guides

A guide is written as plain text with links in it. Plain text has no opening bracket, so a link can begin only where
one was written, and the label of a link has no bracket at all, so the link ends where it was written. Both searches
for links, the one for reference pages and the one for guides, go through the same text; each passes over the links
of the other kind as over plain text.
-/

namespace ApiAtlas.Guide

open Text Names

/-- Where a link leads: to a page of a directory next to the guides, or to a guide in the same directory. -/
inductive Destination where
  | page (directory name : List Char)
  | sibling (name : List Char)

/-- A part of a guide. The text of a link may stand in backticks. -/
inductive Part where
  | plain (text : List Char)
  | link (quoted : Bool) (text : List Char) (destination : Destination)

/-- A destination with the parenthesis that closes it. -/
def Destination.write : Destination → List Char
  | page directory name => '.' :: '.' :: '/' :: (directory ++ '/' :: (name ++ ".md)".toList))
  | sibling name => '.' :: '/' :: (name ++ ".md)".toList)

/-- The text of a link as it stands between the brackets. -/
def label (quoted : Bool) (text : List Char) : List Char :=
  if quoted then "`".toList ++ text ++ "`".toList else text

def Part.write : Part → List Char
  | plain text => text
  | link quoted text destination => '[' :: (label quoted text ++ ']' :: '(' :: destination.write)

/-- The text of a guide. -/
def writeParts (parts : List Part) : List Char :=
  parts.flatMap Part.write

/-- A word as file names have it. -/
structure IsWordText (word : List Char) : Prop where
  filled : word ≠ []
  all : ∀ c ∈ word, isWord c = true

instance (word : List Char) : Decidable (IsWordText word) :=
  decidable_of_iff (word ≠ [] ∧ word.all isWord = true)
    ⟨fun proper => ⟨proper.1, List.all_eq_true.mp proper.2⟩,
      fun proper => ⟨proper.filled, List.all_eq_true.mpr proper.all⟩⟩

def Destination.Proper : Destination → Prop
  | page directory name => IsWordText directory ∧ IsWordText name
  | sibling name => IsWordText name

instance : DecidablePred Destination.Proper
  | .page _ _ => inferInstanceAs (Decidable (_ ∧ _))
  | .sibling name => inferInstanceAs (Decidable (IsWordText name))

/-- What stands between the brackets of a link: something, and no bracket. -/
structure IsLabel (text : List Char) : Prop where
  filled : text ≠ []
  unopened : '[' ∉ text
  unclosed : ']' ∉ text

instance (text : List Char) : Decidable (IsLabel text) :=
  decidable_of_iff (text ≠ [] ∧ '[' ∉ text ∧ ']' ∉ text)
    ⟨fun proper => ⟨proper.1, proper.2.1, proper.2.2⟩, fun proper => ⟨proper.filled, proper.unopened, proper.unclosed⟩⟩

/-- Plain text opens no bracket. -/
def Part.Proper : Part → Prop
  | plain text => '[' ∉ text
  | link _ text destination => IsLabel text ∧ destination.Proper

instance : DecidablePred Part.Proper
  | .plain text => inferInstanceAs (Decidable ('[' ∉ text))
  | .link _ _ _ => inferInstanceAs (Decidable (_ ∧ _))

/-- Where the links of a guide lead. -/
def destinations (parts : List Part) : List Destination :=
  parts.filterMap fun
    | .plain _ => none
    | .link _ _ destination => some destination

/-- The page that a link leads to, seen as a reference page. -/
def Destination.reference? : Destination → Option (List Char)
  | page _ name => some name
  | sibling _ => none

/-- The page that a link leads to, seen as a guide: one in the same directory, or one in the directory of guides. -/
def Destination.guide? : Destination → Option (List Char)
  | page directory name => if directory = "topics".toList then some name else none
  | sibling name => some name

section Targets

variable {word rest : List Char}

theorem stops_at {c : Char} (other : isWord c = false) (s : List Char) :
    ∀ d ∈ (c :: s).head?, isWord d = false := by
  simpa using other

theorem IsWordText.takeWhile_eq (proper : IsWordText word) (stops : ∀ c ∈ rest.head?, isWord c = false) :
    (word ++ rest).takeWhile isWord = word :=
  takeWhile_run proper.all stops

theorem IsWordText.dropWhile_eq (proper : IsWordText word) (stops : ∀ c ∈ rest.head?, isWord c = false) :
    (word ++ rest).dropWhile isWord = rest :=
  dropWhile_run proper.all stops

theorem IsWordText.not_mem (proper : IsWordText word) {c : Char} (other : isWord c = false) : c ∉ word := by
  intro member
  rw [proper.all c member] at other
  contradiction

/-- A page is a word, the file extension and a closing parenthesis. -/
theorem page_eq_some_iff {s after : List Char} :
    page s = some (word, after) ↔ IsWordText word ∧ s = word ++ ".md)".toList ++ after := by
  unfold page
  constructor
  · intro read
    dsimp only at read
    split_ifs at read with nothing
    obtain ⟨_, closed, same⟩ := Option.map_eq_some_iff.mp read
    obtain ⟨rfl, rfl⟩ := Prod.mk.inj same
    rw [afterStart?_eq_some_iff] at closed
    refine ⟨⟨by simpa using nothing, fun c => List.mem_takeWhile_imp⟩, ?_⟩
    rw [List.append_assoc, ← closed, List.takeWhile_append_dropWhile]
  · rintro ⟨proper, rfl⟩
    have stops : ∀ c ∈ (".md)".toList ++ after).head?, isWord c = false := stops_at (c := '.') (by decide) _
    have closed : afterStart? ".md)".toList (".md)".toList ++ after) = some after := afterStart?_eq_some_iff.mpr rfl
    rw [List.append_assoc, proper.takeWhile_eq stops, proper.dropWhile_eq stops, closed]
    simp [proper.filled]

theorem page_write (proper : IsWordText word) (rest : List Char) :
    page (word ++ ".md)".toList ++ rest) = some (word, rest) :=
  page_eq_some_iff.mpr ⟨proper, rfl⟩

variable {directory name : List Char} {destination : Destination}

/-- The name of a directory can be told from the text that follows it. -/
theorem IsWordText.eq_of_append (proper : IsWordText word) (also : IsWordText directory) {more : List Char}
    (same : word ++ '/' :: rest = directory ++ '/' :: more) : word = directory := by
  have stops (s : List Char) := stops_at (c := '/') (by decide) s
  calc word
    _ = (word ++ '/' :: rest).takeWhile isWord := (proper.takeWhile_eq (stops rest)).symm
    _ = (directory ++ '/' :: more).takeWhile isWord := by rw [same]
    _ = directory := also.takeWhile_eq (stops more)

theorem isWordText_topics : IsWordText "topics".toList := by decide

theorem write_page_append (directory name rest : List Char) :
    (Destination.page directory name).write ++ rest =
      "../".toList ++ (directory ++ '/' :: (name ++ ".md)".toList ++ rest)) := by
  simp [Destination.write]

theorem write_sibling_append (name rest : List Char) :
    (Destination.sibling name).write ++ rest = "./".toList ++ (name ++ ".md)".toList ++ rest) := by
  simp [Destination.write]

/-- The search for reference pages reads the pages and nothing else. -/
theorem referenceTarget_write (proper : destination.Proper) (rest : List Char) :
    referenceTarget (destination.write ++ rest) = destination.reference?.map fun name => (name, rest) := by
  cases destination with
  | page directory name =>
    have filled : directory.isEmpty = false := by simp [proper.1.filled]
    have stops := stops_at (c := '/') (by decide) (name ++ ".md)".toList ++ rest)
    have up := afterStart?_eq_some_iff.mpr (write_page_append directory name rest)
    have down : afterStart? "/".toList ('/' :: (name ++ ".md)".toList ++ rest)) =
        some (name ++ ".md)".toList ++ rest) := afterStart?_eq_some_iff.mpr rfl
    simp only [referenceTarget, up, Option.bind_eq_bind, Option.bind_some, proper.1.takeWhile_eq stops,
      proper.1.dropWhile_eq stops, filled, down, page_write proper.2]
    rfl
  | sibling name =>
    have here : afterStart? "../".toList ((Destination.sibling name).write ++ rest) = none := by
      simp [Destination.write, afterStart?]
    rw [referenceTarget, here]
    rfl

/-- The search for guides reads what stands in the same directory and in the directory of guides. -/
theorem guideTarget_write (proper : destination.Proper) (rest : List Char) :
    guideTarget (destination.write ++ rest) = destination.guide?.map fun name => (name, rest) := by
  cases destination with
  | page directory name =>
    have above : afterStart? "./".toList ((Destination.page directory name).write ++ rest) = none := by
      simp [Destination.write, afterStart?]
    rw [guideTarget, above, Destination.guide?]
    split_ifs with guides
    · have found : afterStart? "../topics/".toList ((Destination.page directory name).write ++ rest) =
          some (name ++ ".md)".toList ++ rest) := by
        rw [afterStart?_eq_some_iff, write_page_append, guides]
        rfl
      rw [found]
      exact page_write proper.2 rest
    · have elsewhere : afterStart? "../topics/".toList ((Destination.page directory name).write ++ rest) = none := by
        rw [Option.eq_none_iff_forall_ne_some]
        intro after found
        rw [afterStart?_eq_some_iff, write_page_append] at found
        have same : "../".toList ++ (directory ++ '/' :: (name ++ ".md)".toList ++ rest)) =
            "../".toList ++ ("topics".toList ++ '/' :: after) := found
        apply guides
        exact proper.1.eq_of_append isWordText_topics (List.append_cancel_left same)
      rw [elsewhere]
      rfl
  | sibling name =>
    have here := afterStart?_eq_some_iff.mpr (write_sibling_append name rest)
    rw [guideTarget, here]
    exact page_write proper rest

theorem Destination.Proper.not_mem_write (proper : destination.Proper) : '[' ∉ destination.write := by
  have other : isWord '[' = false := by decide
  cases destination with
  | page directory name => simp [Destination.write, proper.1.not_mem other, proper.2.not_mem other]
  | sibling name => simp [Destination.write, IsWordText.not_mem proper other]

end Targets

section Search

variable {target : Pattern (List Char)} {page? : Destination → Option (List Char)}

/-- A link begins with a text in brackets, which ends at the first closing one, and an opening parenthesis. -/
theorem linkStart_eq_some_iff {s text rest : List Char} :
    linkStart s = some (text, rest) ↔ text ≠ [] ∧ ']' ∉ text ∧ s = '[' :: (text ++ ']' :: '(' :: rest) := by
  constructor
  · intro read
    unfold linkStart at read
    split at read
    · split at read
      · rename_i shown target cut
        split_ifs at read with nothing
        obtain ⟨rfl, rfl⟩ := Prod.mk.inj (Option.some.inj read)
        obtain ⟨rfl, unclosed⟩ := splitOnce?_eq_some_iff.mp cut
        exact ⟨by simpa using nothing, unclosed, rfl⟩
      · contradiction
    · contradiction
  · rintro ⟨filled, unclosed, rfl⟩
    have cut : splitOnce? ']' (text ++ ']' :: '(' :: rest) = some (text, '(' :: rest) :=
      splitOnce?_eq_some_iff.mpr ⟨rfl, unclosed⟩
    simp [linkStart, cut, filled]

theorem link_eq_none {c : Char} (other : c ≠ '[') (s : List Char) : link target (c :: s) = none := by
  have closed : linkStart (c :: s) = none := by
    rw [Option.eq_none_iff_forall_ne_some]
    rintro ⟨text, rest⟩ read
    obtain ⟨-, -, same⟩ := linkStart_eq_some_iff.mp read
    exact other (List.cons.inj same).1
  rw [link, closed]
  rfl

theorem isLabel_label {text : List Char} (proper : IsLabel text) (quoted : Bool) : IsLabel (label quoted text) := by
  cases quoted with
  | false => exact proper
  | true => exact ⟨by simp [label], by simp [label, proper.unopened], by simp [label, proper.unclosed]⟩

theorem link_append {text : List Char} (proper : IsLabel text) (rest : List Char) :
    link target ('[' :: (text ++ ']' :: '(' :: rest)) =
      (target rest).map fun (value, after) => ((text, value), after) := by
  have start : linkStart ('[' :: (text ++ ']' :: '(' :: rest)) = some (text, rest) :=
    linkStart_eq_some_iff.mpr ⟨proper.filled, proper.unclosed, rfl⟩
  simp only [link, start, Option.bind_eq_bind, Option.bind_some]
  cases target rest <;> rfl

/-- A search passes over plain text, and takes from a written link what the target reads, if it reads anything. -/
theorem linkedPages_append {part : Part} (proper : part.Proper)
    (reads : ∀ destination : Destination, destination.Proper → ∀ rest,
      target (destination.write ++ rest) = (page? destination).map fun name => (name, rest))
    (rest : List Char) :
    linkedPages target (part.write ++ rest) = (destinations [part]).filterMap page? ++ linkedPages target rest := by
  cases part with
  | plain text =>
    have passed : ∀ c ∈ text, ∀ s, link target (c :: s) = none := fun c member =>
      link_eq_none (ne_of_mem_of_not_mem member proper)
    rw [linkedPages, Part.write, findAll_append passed, linkedPages]
    rfl
  | link quoted text destination =>
    obtain ⟨shown, leads⟩ := proper
    have isLabel := isLabel_label shown quoted
    have written : (Part.link quoted text destination).write ++ rest =
        '[' :: (label quoted text ++ ']' :: '(' :: (destination.write ++ rest)) := by
      simp [Part.write]
    have read := @link_append target _ isLabel (destination.write ++ rest)
    rw [reads destination leads] at read
    rw [linkedPages, written]
    cases found : page? destination with
    | some name =>
      rw [found] at read
      have left : rest <:+ label quoted text ++ ']' :: '(' :: (destination.write ++ rest) :=
        ⟨label quoted text ++ ']' :: '(' :: destination.write, by simp⟩
      rw [findAll_cons_of_eq_some read left]
      simp [destinations, found, linkedPages]
    | none =>
      rw [found] at read
      have passed : ∀ c ∈ label quoted text ++ ']' :: '(' :: destination.write, ∀ s,
          link target (c :: s) = none := by
        intro c member
        apply link_eq_none
        rintro rfl
        simp [isLabel.unopened, leads.not_mem_write] at member
      have skipped := findAll_append passed rest
      rw [List.append_assoc, List.cons_append, List.cons_append] at skipped
      rw [findAll_cons_of_eq_none read, skipped]
      simp [destinations, found, linkedPages]

theorem linkedPages_writeParts {parts : List Part} (proper : ∀ part ∈ parts, part.Proper)
    (reads : ∀ destination : Destination, destination.Proper → ∀ rest,
      target (destination.write ++ rest) = (page? destination).map fun name => (name, rest)) :
    linkedPages target (writeParts parts) = (destinations parts).filterMap page? := by
  induction parts with
  | nil => rfl
  | cons part rest ih =>
    rw [List.forall_mem_cons] at proper
    have split : destinations (part :: rest) = destinations [part] ++ destinations rest := by
      rw [destinations, ← List.singleton_append, List.filterMap_append, destinations, destinations]
    rw [writeParts, List.flatMap_cons, linkedPages_append proper.1 reads, ← writeParts, ih proper.2, split,
      List.filterMap_append]

end Search

/-- A name that begins with a capital letter. -/
def IsCapitalized (name : List Char) : Prop :=
  ∃ c ∈ name.head?, 'A' ≤ c ∧ c ≤ 'Z'

instance : DecidablePred IsCapitalized := fun name =>
  decidable_of_iff (name.head?.any (fun c => 'A' ≤ c ∧ c ≤ 'Z') = true)
    (by simp [IsCapitalized, Option.any_eq_true])

theorem isFunctionName_iff (name : List Char) : isFunctionName name = true ↔ "cf_".toList <+: name :=
  List.isPrefixOf_iff_prefix

/-- No function has a name that begins with a capital letter. -/
theorem IsCapitalized.not_isFunctionName {name : List Char} (capital : IsCapitalized name) :
    isFunctionName name = false := by
  rw [Bool.eq_false_iff, ne_eq, isFunctionName_iff]
  rintro ⟨rest, rfl⟩
  obtain ⟨c, first, -, below⟩ := capital
  obtain rfl : 'c' = c := by simpa using first
  revert below
  decide

theorem isTypeName_iff (name : List Char) : isTypeName name = true ↔ IsCapitalized name := by
  have upper (c : Char) : c.isUpper = true ↔ 'A' ≤ c ∧ c ≤ 'Z' := decide_eq_true_iff
  have head : name.head?.any Char.isUpper = true ↔ IsCapitalized name := by
    simp only [Option.any_eq_true, IsCapitalized, upper, Option.mem_def]
  rw [isTypeName, Bool.and_eq_true, head]
  constructor
  · exact And.right
  · intro capital
    rw [capital.not_isFunctionName]
    exact ⟨rfl, capital⟩

/-- The reference pages that a guide links to, in order and with repetitions. -/
def referenceNames (parts : List Part) : List (List Char) :=
  (destinations parts).filterMap Destination.reference?

/-- The guides that a guide links to, in order and with repetitions. -/
def guideNames (parts : List Part) : List (List Char) :=
  (destinations parts).filterMap Destination.guide?

/-- The references of a guide are what its links say, each once and where it is first linked. -/
structure ExtractsLinks (parts : List Part) (topic : TopicDetails) : Prop where
  functions : ListsFirst (((referenceNames parts).filter ("cf_".toList <+: ·)).map String.ofList)
    topic.functionReferences
  structs : ListsFirst (((referenceNames parts).filter (IsCapitalized ·)).map String.ofList) topic.structReferences
  guides : ListsFirst ((guideNames parts).map String.ofList) topic.topicReferences
  disjoint : ∀ name ∈ topic.functionReferences, name ∉ topic.structReferences
  enums : topic.enumReferences = []

theorem listsFirst_distinctNames {keep : List Char → Bool} {property : List Char → Prop} [DecidablePred property]
    (same : ∀ name, keep name = true ↔ property name) (pages : List (List Char)) :
    ListsFirst ((pages.filter (property ·)).map String.ofList) (distinctNames (pages.filter keep)) := by
  have kept : pages.filter keep = pages.filter (property ·) := by
    apply List.filter_congr
    intro name _
    rw [Bool.eq_iff_iff, same, decide_eq_true_eq]
  rw [kept]
  exact listsFirst_firstOccurrences _

/-- A page cannot be both a function and a struct, since its name begins with one letter. -/
theorem disjoint_of_listsFirst {pages : List (List Char)} {functions structs : List String}
    (first : ListsFirst ((pages.filter ("cf_".toList <+: ·)).map String.ofList) functions)
    (second : ListsFirst ((pages.filter (IsCapitalized ·)).map String.ofList) structs) :
    ∀ name ∈ functions, name ∉ structs := by
  intro name function struct
  obtain ⟨page, small, rfl⟩ := List.mem_map.mp ((first.mem_iff name).mp function)
  obtain ⟨other, capital, same⟩ := List.mem_map.mp ((second.mem_iff _).mp struct)
  obtain rfl := String.ofList_injective same
  have isFunction := (isFunctionName_iff _).mpr (of_decide_eq_true (List.mem_filter.mp small).2)
  have isStruct : IsCapitalized other := of_decide_eq_true (List.mem_filter.mp capital).2
  rw [isStruct.not_isFunctionName] at isFunction
  contradiction

/-- The references of a written guide are exactly what its links say, whatever plain text stands around them. -/
theorem record_extracts_links {parts : List Part} (proper : ∀ part ∈ parts, part.Proper) (name : String) :
    ∃ topic, (record name (String.ofList (writeParts parts))).details = .topic topic ∧ ExtractsLinks parts topic := by
  have references : linkedPages referenceTarget (writeParts parts) = referenceNames parts :=
    linkedPages_writeParts proper fun _ leads => referenceTarget_write leads
  have guides : linkedPages guideTarget (writeParts parts) = guideNames parts :=
    linkedPages_writeParts proper fun _ leads => guideTarget_write leads
  have functions := listsFirst_distinctNames isFunctionName_iff (referenceNames parts)
  have structs := listsFirst_distinctNames isTypeName_iff (referenceNames parts)
  refine ⟨_, rfl, ?_⟩
  simp only [details, String.toList_ofList, references, guides]
  exact {
    functions := functions
    structs := structs
    guides := listsFirst_firstOccurrences _
    disjoint := disjoint_of_listsFirst functions structs
    enums := rfl }

/-- Links of all kinds, one right after the other, with brackets, parentheses and backticks around them. -/
def sampleParts : List Part :=
  let play := Destination.page "audio".toList "cf_play".toList
  [.plain "](../a/cf_no.md)\n".toList, .link true "play".toList play, .link false "a`b".toList (.sibling "drawing".toList),
    .plain "(`]".toList, .link false "App".toList (.page "app".toList "CF_App".toList), .link false "again".toList play,
    .link true "Draw".toList (.page "topics".toList "drawing".toList),
    .link false "Ünits".toList (.page "topics".toList "CF_Ünits".toList)]

theorem record_extracts_links_sampleParts : (∀ part ∈ sampleParts, part.Proper) ∧
    ∃ topic, (record "audio" (String.ofList (writeParts sampleParts))).details = .topic topic ∧
      ExtractsLinks sampleParts topic ∧ topic.functionReferences = ["cf_play"] ∧
      topic.structReferences = ["CF_App", "CF_Ünits"] ∧ topic.topicReferences = ["drawing", "CF_Ünits"] := by
  have proper : ∀ part ∈ sampleParts, part.Proper := by decide +kernel
  obtain ⟨topic, shown, extracts⟩ := record_extracts_links proper "audio"
  obtain rfl := Details.topic.inj shown
  refine ⟨proper, _, shown, extracts, ?_⟩
  simp only [details, String.toList_ofList]
  decide +kernel

end ApiAtlas.Guide
