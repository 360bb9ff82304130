import ApiAtlas.Request.Form

/-! # The tools

Each tool answers one kind of question about the catalog. A tool has a name, a description for its
users, and a form for its arguments; arguments that fit the form make a question.
-/

namespace ApiAtlas

/-- A question about the catalog. -/
inductive Question where
  | search (query : String) (kind : Option RecordKind) (category : Option String)
      (limit : Option Nat)
  | details (name : String)
  | category (category : Option String) (kind : Option RecordKind)
  | related (name : String)
  | typeUsage (typeName : String) (direction : Direction)
  | members (query : String) (limit : Option Nat)
  | topics (category : Option String) (ordered : Option Bool)
  | topic (name : String)
deriving DecidableEq, Repr

/-- A tool with the form of its arguments. -/
structure Tool where
  name : String
  description : String
  form : Form
  ask : Form.Values form.fields → Question

namespace Tool

/-- The filter by kind. -/
def kindField : Field := ⟨"type", "Optional: filter by item type", .optionalKind⟩

/-- Search for items. -/
def search : Tool where
  name := "cf_search"
  description := "Search Cute Framework documentation for functions, structs, enums and topic guides. Matches names, briefs, remarks and categories; exact and prefix name matches rank first."
  form := ⟨"SearchRequest",
    [⟨"query", "Search query (matches name, description, remarks and category)", .text⟩, kindField,
      ⟨"category", "Optional: filter by exact category (e.g., 'app', 'sprite', 'graphics')", .optionalText⟩,
      ⟨"limit", "Maximum number of results to return (default: 20)", .optionalLimit⟩]⟩
  ask := fun (query, kind, category, limit, _) => .search query kind category limit

/-- Show an item. -/
def details : Tool where
  name := "cf_get_details"
  description := "Get complete documentation for a Cute Framework item by exact name: signature, parameters, members or enum entries, remarks, example, related items and the topic guides that mention it."
  form := ⟨"GetDetailsRequest",
    [⟨"name", "Exact name of the item (e.g., 'cf_make_app', 'CF_Sprite', 'CF_PlayDirection')", .text⟩]⟩
  ask := fun (name, _) => .details name

/-- List the categories, or the items of one. -/
def category : Tool where
  name := "cf_list_category"
  description := "List documentation categories with item counts, or every item in one category (optionally filtered by type)."
  form := ⟨"ListCategoryRequest",
    [⟨"category", "Category name (e.g., 'app', 'sprite', 'graphics'). Leave empty to list all categories.", .optionalText⟩,
      kindField]⟩
  ask := fun (category, kind, _) => .category category kind

/-- Show the relations of an item. -/
def related : Tool where
  name := "cf_find_related"
  description := "Find items related to a Cute Framework item in both directions: the items it lists as related and the items that list it."
  form := ⟨"FindRelatedRequest",
    [⟨"name", "Name of the item to find relations for (e.g., 'CF_Sprite', 'cf_make_sprite')", .text⟩]⟩
  ask := fun (name, _) => .related name

/-- List the functions that use a type. -/
def typeUsage : Tool where
  name := "cf_parameter_search"
  description := "Find functions that take a type as a parameter or return it. Useful for discovering how to create or consume a type."
  form := ⟨"ParameterSearchRequest",
    [⟨"type", "Type name to search for (e.g., 'CF_Sprite', 'const char*', 'int')", .text⟩,
      ⟨"direction", "Search direction: 'input' for parameters, 'output' for return types, 'both' for either (default: both)", .direction⟩]⟩
  ask := fun (typeName, direction, _) => .typeUsage typeName direction

/-- List the structs with certain members. -/
def members : Tool where
  name := "cf_member_search"
  description := "Find structs whose member declarations match a name or type."
  form := ⟨"MemberSearchRequest",
    [⟨"query", "Member name or type to search for (e.g., 'x', 'position', 'float', 'CF_V2')", .text⟩,
      ⟨"limit", "Maximum number of structs to return (default: 20)", .optionalLimit⟩]⟩
  ask := fun (query, limit, _) => .members query limit

/-- List the guides. -/
def topics : Tool where
  name := "cf_list_topics"
  description := "List Cute Framework topic guides, optionally filtered by category or in recommended reading order."
  form := ⟨"ListTopicsRequest",
    [⟨"category", "Optional: filter topics by category (e.g., 'graphics', 'audio', 'getting-started')", .optionalText⟩,
      ⟨"ordered", "If true, return topics in recommended reading order (default: false)", .optionalFlag⟩]⟩
  ask := fun (category, ordered, _) => .topics category ordered

/-- Show a guide. -/
def topic : Tool where
  name := "cf_get_topic"
  description := "Read the full content of a Cute Framework topic guide, including its sections and the API items it references."
  form := ⟨"GetTopicRequest",
    [⟨"name", "Topic name (e.g., 'audio', 'collision', 'getting_started')", .text⟩]⟩
  ask := fun (name, _) => .topic name

/-- All tools, by name. -/
def all : List Tool :=
  [related, details, topic, category, topics, members, typeUsage, search]

/-- The tool with a name. -/
def find? (name : String) : Option Tool :=
  all.find? fun tool => tool.name == name

/-- The question that arguments ask. -/
def question (tool : Tool) (arguments : Json) : Except DecodeError Question :=
  (tool.form.read arguments).map tool.ask

end Tool

end ApiAtlas
