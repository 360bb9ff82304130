import ApiAtlas.Tool.Basic
import ApiAtlas.Tool.Listing

/-! # Answering questions

A question is answered from the catalog that is published at the moment. As long as none is, no
question can be answered.
-/

namespace ApiAtlas

/-- Why a call of a tool has no answer. -/
inductive CallError where
  | badArguments (error : DecodeError)
  | unavailable
deriving Repr

/-- The wording of an error that keeps a question from being answered. -/
def CallError.message : CallError → String
  | badArguments error => error.message
  | unavailable => "Index not available"

/-- The answer to a question. -/
def Question.answer (catalog : Catalog) : Question → String
  | .search query kind filter limit => Render.searchAnswer catalog query kind filter limit
  | .details name => Render.detailsAnswer catalog name
  | .category filter kind =>
    match Render.givenFilter? filter with
    | some name => Render.categoryAnswer catalog name kind
    | none => Render.categoriesAnswer catalog
  | .related name => Render.relatedAnswer catalog name
  | .typeUsage typeName direction => Render.typeUsageAnswer catalog typeName direction
  | .members query limit => Render.membersAnswer catalog query (limit.getD defaultLimit)
  | .topics filter ordered =>
    Render.topicsAnswer catalog (Render.givenFilter? filter) (ordered.getD false)
  | .topic name => Render.topicAnswer catalog name

/-- Call a tool: its arguments are read first, and then the catalog is asked. -/
def Tool.call (tool : Tool) (published : Option Catalog) (arguments : Json) :
    Except CallError String := do
  let question ← (tool.question arguments).mapError .badArguments
  match published with
  | some catalog => return question.answer catalog
  | none => .error .unavailable

end ApiAtlas
