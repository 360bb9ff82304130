import ApiAtlas.Header.Item
import ApiAtlas.Header.Block
import ApiAtlas.Header.Signature
import ApiAtlas.Header.Tag

/-! # Records of a header

Each documentation block whose comment names a function, a struct or an enum gives one record. If a
comment names several, a function goes before a struct and a struct before an enum.
-/

namespace ApiAtlas.Header

open Text

/-- The line of a block, as long as it fits into the field for it. -/
def lineField (line : Nat) : Option UInt32 :=
  if line < UInt32.size then some (UInt32.ofNat line) else none

/-- The name and the details of what a comment documents. -/
def subject? (tags : List Tag) (code : List Char) : Option (String × Details) :=
  match value? "function" tags with
  | some name =>
    some (name, .function ⟨signature? code, parameters tags, value? "return" tags⟩)
  | none =>
    match value? "struct" tags with
    | some name => some (name, .struct (members code))
    | none => (value? "enum" tags).map fun name => (name, .enum (entries code))

/-- The record of a block. -/
def Block.record? (file : String) (block : Block) : Option Record :=
  let tags := tags block.comment
  (subject? tags (trim block.code)).map fun (name, details) =>
    { name := name
      category := value? "category" tags
      brief := value? "brief" tags
      remarks := value? "remarks" tags
      exampleCode := value? "example" tags
      exampleBrief := value? "example_brief" tags
      related := relatedNames tags
      source := some ⟨file, lineField block.line⟩
      details := details }

/-- The records of a header's text, in the order of their blocks. -/
def records (file : String) (s : List Char) : List Record :=
  (blocks s).filterMap (Block.record? file)

end ApiAtlas.Header
