/-! # Documentation records

A record is one documented unit: a function, a struct, an enum, or a topic guide. All records share
the fields of `Record`; what is particular to a kind is its `Details`. The kind of a record is read
off its details, so the two cannot disagree.
-/

namespace ApiAtlas

/-- The four kinds of records. -/
inductive RecordKind where
  | function
  | struct
  | enum
  | topic
deriving DecidableEq, Repr, Inhabited

namespace RecordKind

/-- All kinds, in the order of counts and listings. -/
def all : List RecordKind := [function, struct, enum, topic]

/-- The name of a kind, as users write and read it. -/
def label : RecordKind → String
  | function => "function"
  | struct => "struct"
  | enum => "enum"
  | topic => "topic"

/-- The name of a kind in counts. -/
def plural : RecordKind → String
  | function => "functions"
  | struct => "structs"
  | enum => "enums"
  | topic => "topics"

/-- The kind with a given name. -/
def ofLabel? (text : String) : Option RecordKind :=
  all.find? fun kind => kind.label == text

@[simp]
theorem mem_all (kind : RecordKind) : kind ∈ all := by
  cases kind <;> simp [all]

@[simp]
theorem ofLabel?_label (kind : RecordKind) : ofLabel? kind.label = some kind := by
  cases kind <;> decide

end RecordKind

/-- Where a record was declared: a file and, if it is known, the line, counted from one. -/
structure SourceLocation where
  file : String
  line : Option UInt32
deriving DecidableEq, Repr, Inhabited

/-- A documented parameter of a function. -/
structure Parameter where
  name : String
  description : String
deriving DecidableEq, Repr, Inhabited

/-- A documented member of a struct. The declaration has no semicolon at its end. -/
structure Member where
  declaration : String
  description : String
deriving DecidableEq, Repr, Inhabited

/-- A documented value of an enum, with the literal as written. -/
structure EnumEntry where
  name : String
  value : String
  description : String
deriving DecidableEq, Repr, Inhabited

/-- A part of a topic guide under a heading of level two. -/
structure GuideSection where
  title : String
  body : String
deriving DecidableEq, Repr, Inhabited

/-- What is particular to a function. -/
structure FunctionDetails where
  signature : Option String
  parameters : List Parameter
  returnDescription : Option String
deriving DecidableEq, Repr, Inhabited

/-- What is particular to a topic guide. A guide without a reading order comes after all that
have one. -/
structure TopicDetails where
  content : String
  sections : List GuideSection
  functionReferences : List String
  structReferences : List String
  enumReferences : List String
  topicReferences : List String
  readingOrder : Option UInt32
deriving DecidableEq, Repr, Inhabited

/-- The names of functions, structs and enums that a guide mentions, in this order. -/
def TopicDetails.apiReferences (topic : TopicDetails) : List String :=
  topic.functionReferences ++ topic.structReferences ++ topic.enumReferences

/-- What is particular to the kind of a record. -/
inductive Details where
  | function (function : FunctionDetails)
  | struct (members : List Member)
  | enum (entries : List EnumEntry)
  | topic (topic : TopicDetails)
deriving DecidableEq, Repr, Inhabited

/-- The kind that details belong to. -/
def Details.kind : Details → RecordKind
  | .function _ => .function
  | .struct _ => .struct
  | .enum _ => .enum
  | .topic _ => .topic

/-- One documented unit. Its name is its key among records of all kinds. -/
structure Record where
  name : String
  category : Option String
  brief : Option String
  remarks : Option String
  exampleCode : Option String
  exampleBrief : Option String
  related : List String
  source : Option SourceLocation
  details : Details
deriving DecidableEq, Repr, Inhabited

namespace Record

/-- A record of which only the name and the details are known. -/
def ofDetails (name : String) (details : Details) : Record where
  name := name
  category := none
  brief := none
  remarks := none
  exampleCode := none
  exampleBrief := none
  related := []
  source := none
  details := details

/-- The kind of a record. -/
def kind (record : Record) : RecordKind := record.details.kind

/-- The category a record is filed under. An empty category is none. -/
def categoryName? (record : Record) : Option String :=
  record.category.filter (· ≠ "")

/-- The brief description, empty if there is none. -/
def briefText (record : Record) : String := record.brief.getD ""

/-- The signature of a function that has one. -/
def signature? (record : Record) : Option String :=
  match record.details with
  | .function function => function.signature
  | _ => none

/-- The guide of a topic record. -/
def topic? (record : Record) : Option TopicDetails :=
  match record.details with
  | .topic topic => some topic
  | _ => none

/-- The members of a struct. -/
def members? (record : Record) : Option (List Member) :=
  match record.details with
  | .struct members => some members
  | _ => none

/-- Whether a record is a topic guide. -/
def isTopic (record : Record) : Bool := record.kind == .topic

/-- The position of a guide in the reading path. -/
def readingOrder? (record : Record) : Option UInt32 :=
  record.topic?.bind TopicDetails.readingOrder

end Record

end ApiAtlas
