import ApiAtlas.Record
import ApiAtlas.Search.Keyword

/-! # Matching and scoring

A record matches a search text if some keyword occurs in its name, brief, remarks or category. Its
score is the sum over all keywords of what each one earns: the best tier that the name reaches, and
fixed amounts for the other fields it occurs in. Scores have 32 bits, so a sum that is too large for
them starts over from zero.
-/

namespace ApiAtlas.Search

open Text

/-- What a keyword earns by equalling the name. -/
def exactNameScore : UInt32 := 1000

/-- What a keyword earns by beginning the name. -/
def nameStartScore : UInt32 := 500

/-- What a keyword earns by ending the name. -/
def nameEndScore : UInt32 := 400

/-- What a keyword earns by occurring elsewhere in the name. -/
def nameInsideScore : UInt32 := 100

/-- What a keyword earns by occurring in the brief. -/
def briefScore : UInt32 := 50

/-- What a keyword earns by occurring in the category. -/
def categoryScore : UInt32 := 30

/-- What a keyword earns by occurring in the remarks. -/
def remarksScore : UInt32 := 10

/-- What a keyword earns from a lower-case name: only the best tier counts. -/
def nameScore (name keyword : List Char) : UInt32 :=
  if name = keyword then exactNameScore
  else if keyword.isPrefixOf name then nameStartScore
  else if keyword.isSuffixOf name then nameEndScore
  else if occursIn keyword name then nameInsideScore
  else 0

/-- What a keyword earns from a field. -/
def fieldScore (keyword : List Char) (field : Option String) (score : UInt32) : UInt32 :=
  if fieldContains keyword field then score else 0

/-- What a keyword earns from a record. -/
def keywordScore (record : Record) (keyword : List Char) : UInt32 :=
  nameScore (lowercase record.name.toList) keyword +
    fieldScore keyword record.brief briefScore +
    fieldScore keyword record.category categoryScore +
    fieldScore keyword record.remarks remarksScore

/-- The score of a record for a search text. -/
def score (text : String) (record : Record) : UInt32 :=
  (keywords text).foldl (fun total keyword => total + keywordScore record keyword) 0

/-- Whether a keyword occurs in a record. -/
def keywordOccurs (record : Record) (keyword : List Char) : Bool :=
  containsLower keyword record.name || fieldContains keyword record.brief ||
    fieldContains keyword record.remarks || fieldContains keyword record.category

/-- Whether a record matches a search text. A text without keywords matches everything. -/
def isMatch (text : String) (record : Record) : Bool :=
  let words := keywords text
  words.isEmpty || words.any (keywordOccurs record)

end ApiAtlas.Search
