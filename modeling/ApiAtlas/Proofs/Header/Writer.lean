import ApiAtlas.Header.Reader
import Mathlib.Data.List.Infix

/-! # Writing headers

The documented form of a header, written from records: for every record a documentation comment with
one group of lines for each field that is present, and after it the code that carries the signature,
the members or the entries. `Canonical` says which records the form can carry; every clause excludes
texts that the form itself gives another meaning, and nothing else is asked of a text.
-/

namespace ApiAtlas.Header

open Text

/-- A value in a comment: its lines after the first one stand behind a new margin. -/
def writeValue (value : List Char) : List Char :=
  replaceChar '\n' "\n * ".toList value

/-- A tag with its value. -/
def writeTag (tag : Tag) : List Char :=
  " * @".toList ++ tag.name.toList ++ ' ' :: writeValue tag.value ++ ['\n']

/-- A documentation comment with the given tags. -/
def writeComment (tags : List Tag) : List Char :=
  "/**\n".toList ++ tags.flatMap writeTag ++ " */".toList

/-- The tag of a field, if the field is present. -/
def fieldTag (name : String) (field : Option String) : List Tag :=
  field.toList.map fun value => ⟨name, value.toList⟩

/-- The parameters of a function. -/
def parametersOf : Details → List Parameter
  | .function function => function.parameters
  | _ => []

/-- The description of what a function returns. -/
def returnOf : Details → Option String
  | .function function => function.returnDescription
  | _ => none

/-- The tag of a parameter: its name, a space and its description. -/
def parameterTag (parameter : Parameter) : Tag :=
  ⟨"param", parameter.name.toList ++ ' ' :: parameter.description.toList⟩

/-- The tags of what is particular to a kind. -/
def detailTags (details : Details) : List Tag :=
  (parametersOf details).map parameterTag ++ fieldTag "return" (returnOf details)

/-- The tag of the related names, if there are any. -/
def relatedTag (related : List String) : List Tag :=
  if related = [] then [] else [⟨"related", [' '].intercalate (related.map String.toList)⟩]

/-- The tags of a record, in the order in which they are written. -/
def recordTags (record : Record) : List Tag :=
  ⟨record.kind.label, record.name.toList⟩ ::
    (fieldTag "category" record.category ++ fieldTag "brief" record.brief ++
      fieldTag "remarks" record.remarks ++ fieldTag "example" record.exampleCode ++
      fieldTag "example_brief" record.exampleBrief ++ detailTags record.details ++
      relatedTag record.related)

/-- A member of a struct with its comment, without the line feed after it. -/
def writeMember (member : Member) : List Char :=
  "/* @member ".toList ++ member.description.toList ++ " */\n".toList ++
    member.declaration.toList ++ ";".toList

/-- An entry of an enum with its comment, without the line feed after it. -/
def writeEntry (entry : EnumEntry) : List Char :=
  "/* @entry ".toList ++ entry.description.toList ++ " */ \\\nCF_ENUM(".toList ++
    entry.name.toList ++ ", ".toList ++ entry.value.toList ++ ") \\".toList

/-- The lines of code that carry the details of a record. -/
def codeLines : Details → List (List Char)
  | .function function => function.signature.toList.map fun signature => signature.toList ++ ";".toList
  | .struct members => members.map writeMember
  | .enum entries => entries.map writeEntry
  | .topic _ => []

/-- The code of a record. -/
def writeCode (details : Details) : List Char :=
  (codeLines details).flatMap (· ++ ['\n'])

/-- A record in a header: its comment on lines of its own, then its code. -/
def writeRecord (record : Record) : List Char :=
  writeComment (recordTags record) ++ '\n' :: writeCode record.details

/-- A header of records. -/
def write (records : List Record) : List Char :=
  records.flatMap writeRecord

/-- The lines of a value, without carriage returns being part of the line ends. -/
def valueLines (value : List Char) : List (List Char) :=
  splitBy (· == '\n') value

/-- A line that reads as the beginning of a tag: an at sign and a word character, after blanks. -/
def StartsTag (line : List Char) : Prop :=
  (trimStart line).head? = some '@' ∧ (trimStart line)[1]?.any isWord = true

instance (line : List Char) : Decidable (StartsTag line) :=
  inferInstanceAs (Decidable (_ ∧ _))

/-- A text that a comment can carry: it has no blanks around it and does not close the comment, its
first line has no blanks at its end, and no later line begins a tag or ends in a carriage return. -/
structure Portable (value : List Char) : Prop where
  trimmed : trim value = value
  unclosed : ¬['*', '/'] <:+: value
  first_line : ∀ line ∈ (valueLines value).head?, trimEnd line = line
  continued : ∀ line ∈ (valueLines value).tail, ¬StartsTag line ∧ line.getLast? ≠ some '\r'

instance (value : List Char) : Decidable (Portable value) :=
  decidable_of_iff (trim value = value ∧ ¬['*', '/'] <:+: value ∧
    (∀ line ∈ (valueLines value).head?, trimEnd line = line) ∧
    ∀ line ∈ (valueLines value).tail, ¬StartsTag line ∧ line.getLast? ≠ some '\r')
    ⟨fun ⟨trimmed, unclosed, first, continued⟩ => ⟨trimmed, unclosed, first, continued⟩,
      fun portable => ⟨portable.trimmed, portable.unclosed, portable.first_line, portable.continued⟩⟩

/-- A field that is absent, or that has a portable text which is not empty. -/
def PortableField (field : Option String) : Prop :=
  ∀ value ∈ field, value ≠ "" ∧ Portable value.toList

instance (field : Option String) : Decidable (PortableField field) :=
  inferInstanceAs (Decidable (∀ value ∈ field, _))

/-- A name that can stand among related names. -/
structure PortableName (name : List Char) : Prop where
  filled : name ≠ []
  unbroken : ∀ c ∈ name, isBlank c = false
  unclosed : ¬['*', '/'] <:+: name
  proper : ∃ c ∈ name, c ≠ '/' ∧ c ≠ '*'

/-- A parameter with a name that is one word. -/
structure PortableParameter (parameter : Parameter) : Prop where
  named : parameter.name ≠ ""
  word : ∀ c ∈ parameter.name.toList, isWord c = true
  description : Portable parameter.description.toList

/-- A text in which an export macro stands at most as a part of a longer word. -/
def Unmarked (text : List Char) : Prop :=
  ∀ mark ∈ exportMacros, ∀ before after, text = before ++ mark ++ after →
    (∃ c ∈ before.getLast?, isWord c = true) ∨ ∃ c ∈ after.head?, isWord c = true

/-- A declaration on one line: words with single spaces between them, without a brace, without a
semicolon at its end, without export macros as whole words and without the opening of a comment of
documentation; it does not begin a definition. -/
structure PortableSignature (signature : List Char) : Prop where
  filled : signature ≠ []
  spaced : [' '].intercalate (words signature) = signature
  unbraced : '{' ∉ signature
  open_ended : signature.getLast? ≠ some ';'
  unmarked : Unmarked signature
  undefined : ¬"#define".toList <+: signature
  untyped : ¬"typedef struct".toList <+: signature ∧ ¬"typedef enum".toList <+: signature
  undocumented : ¬['/', '*', '*'] <:+: signature

/-- A description in a comment of its own: it has no blanks around it, does not close the comment and
does not open one of documentation. -/
structure PortableDescription (description : List Char) : Prop where
  trimmed : trim description = description
  unclosed : ¬['*', '/'] <:+: description
  undocumented : ¬['/', '*', '*'] <:+: description

/-- A member whose declaration stands on one line, without a slash and without a semicolon at its
end. -/
structure PortableMember (member : Member) : Prop where
  declared : member.declaration ≠ ""
  trimmed : trim member.declaration.toList = member.declaration.toList
  one_line : ∀ c ∈ member.declaration.toList, c ≠ '/' ∧ c ≠ '\n'
  open_ended : member.declaration.toList.getLast? ≠ some ';'
  description : PortableDescription member.description.toList

/-- An entry with a name that is one word and a value without a closing parenthesis. -/
structure PortableEntry (entry : EnumEntry) : Prop where
  named : entry.name ≠ ""
  word : ∀ c ∈ entry.name.toList, isWord c = true
  trimmed : trim entry.value.toList = entry.value.toList
  unclosed : ')' ∉ entry.value.toList
  undocumented : ¬['/', '*', '*'] <:+: entry.value.toList
  description : PortableDescription entry.description.toList

/-- Code that a header can carry. A guide has no place in a header. -/
def PortableCode : Details → Prop
  | .function function => ∀ signature ∈ function.signature, PortableSignature signature.toList
  | .struct members => ∀ member ∈ members, PortableMember member
  | .enum entries => ∀ entry ∈ entries, PortableEntry entry
  | .topic _ => False

/-- A record that a header can carry. -/
structure Canonical (record : Record) : Prop where
  named : record.name ≠ ""
  name : Portable record.name.toList
  category : PortableField record.category
  brief : PortableField record.brief
  remarks : PortableField record.remarks
  exampleCode : PortableField record.exampleCode
  exampleBrief : PortableField record.exampleBrief
  related : ∀ name ∈ record.related, PortableName name.toList
  parameters : ∀ parameter ∈ parametersOf record.details, PortableParameter parameter
  returnDescription : PortableField (returnOf record.details)
  code : PortableCode record.details

end ApiAtlas.Header
