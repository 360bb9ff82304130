import ApiAtlas.Record
import ApiAtlas.Text.Blank
import ApiAtlas.Text.Find
import ApiAtlas.Text.Scan
import ApiAtlas.Text.Word

/-! # Members and entries

Inside a struct or an enum every documented item is announced by a short comment: an at sign, a
keyword, blanks and a description. The item itself follows the comment. The description ends at the
first closing mark that an item follows.
-/

namespace ApiAtlas.Header

open Text

variable {α : Type}

/-- The text after the keyword of an item comment, beginning with a blank. -/
def keywordStart? (keyword : List Char) : List Char → Option (List Char)
  | '/' :: '*' :: rest =>
    match afterStart? ('@' :: keyword) (trimStart rest) with
    | some (c :: after) => if isBlank c then some (c :: after) else none
    | _ => none
  | _ => none

/-- The item that follows a closing slash. -/
def afterSlash (item : Pattern α) : Pattern α
  | '/' :: rest => item rest
  | _ => none

/-- The text up to the first closing mark that is followed by an item, and the item. -/
def describedItem (item : Pattern α) : Pattern (List Char × α)
  | [] => none
  | c :: rest =>
    match if c = '*' then afterSlash item rest else none with
    | some (value, after) => some (([], value), after)
    | none =>
      (describedItem item rest).map fun ((text, value), after) => ((c :: text, value), after)

/-- An item comment with its trimmed description and the item after it. -/
def itemPattern (keyword : List Char) (item : Pattern α) : Pattern (List Char × α) := fun s =>
  match keywordStart? keyword s with
  | some rest =>
    (describedItem item rest).map fun ((text, value), after) => ((trim text, value), after)
  | none => none

/-- A declaration stays on its line and has no slash. -/
def inDeclaration (c : Char) : Bool :=
  c != '/' && c != '\n'

/-- The declaration after an item comment: what stands on the next line that is not blank. Blanks
that are not all line feeds are a declaration too, an empty one. -/
def declarationItem : Pattern (List Char) := fun s =>
  let text := trimStart s
  let declaration := text.takeWhile inDeclaration
  if !declaration.isEmpty then some (declaration, text.dropWhile inDeclaration)
  else if (s.takeWhile isBlank).any (· != '\n') then some ([], text)
  else none

/-- Skip blanks, then at most one line continuation, then blanks. -/
def skipContinuation (s : List Char) : List Char :=
  match trimStart s with
  | '\\' :: rest => trimStart rest
  | rest => rest

/-- The name and the value of an entry: `CF_ENUM(NAME, VALUE)`, where the value ends at the first
closing parenthesis. -/
def entryItem : Pattern (List Char × List Char) := fun s => do
  let opening ← afterStart? "CF_ENUM".toList (skipContinuation s)
  let inside ← afterStart? ['('] (trimStart opening)
  let name := (trimStart inside).takeWhile isWord
  guard (!name.isEmpty)
  let value ← afterStart? [','] (trimStart ((trimStart inside).dropWhile isWord))
  let (written, after) ← splitOnce? ')' value
  return ((name, trim written), after)

/-- The member that a description and a declaration make. A declaration of nothing makes none. -/
def member? (description declaration : List Char) : Option Member :=
  let tidy := trimEnd (dropEndWhile (· == ';') (trim declaration))
  if tidy.isEmpty then none else some ⟨String.ofList tidy, String.ofList description⟩

/-- The documented members in the body of a struct. -/
def members (code : List Char) : List Member :=
  (findAll (itemPattern "member".toList declarationItem) code).filterMap
    fun (description, declaration) => member? description declaration

/-- The documented entries in the definition of an enum. -/
def entries (code : List Char) : List EnumEntry :=
  (findAll (itemPattern "entry".toList entryItem) code).map
    fun (description, name, value) =>
      ⟨String.ofList name, String.ofList value, String.ofList description⟩

end ApiAtlas.Header
