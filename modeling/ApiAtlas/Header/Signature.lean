import ApiAtlas.Text.Find
import ApiAtlas.Text.Lines
import ApiAtlas.Text.Word

/-! # Function signatures

The declaration of a function is the first run of lines of the code a block owns, up to the line
that has a semicolon or an opening brace. The signature is that declaration on one line, without
export macros, cut at the brace and freed of semicolons at its end.
-/

namespace ApiAtlas.Header

open Text

/-- The macros that mark exported functions. -/
def exportMacros : List (List Char) :=
  ["CF_API".toList, "CF_CALL".toList, "CF_INLINE".toList]

/-- A line that begins the definition of a named struct or enum. -/
def isTypeDefinition (line : List Char) : Bool :=
  match afterStart? "typedef".toList line with
  | some (c :: rest) =>
    isBlank c && (let word := trimStart rest
      "struct".toList.isPrefixOf word || "enum".toList.isPrefixOf word)
  | _ => false

/-- A line that no function declaration can start or contain. -/
def endsDeclaration (line : List Char) : Bool :=
  isTypeDefinition line || "#define".toList.isPrefixOf line

/-- A line with a semicolon or an opening brace. -/
def closesDeclaration (line : List Char) : Bool :=
  line.contains ';' || line.contains '{'

/-- The lines of a declaration that has already begun, or begins with the next line. -/
def declarationLines : List (List Char) → List (List Char)
  | [] => []
  | line :: rest =>
    if isBlankText line || endsDeclaration line then []
    else if closesDeclaration line then [line]
    else line :: declarationLines rest

/-- A text without export macros. `inWord` says that a word character stands before the text, and
`skip` characters of it are already dealt with. A macro goes together with the blanks after it. -/
def dropMacrosFrom (inWord : Bool) : Nat → List Char → List Char
  | _, [] => []
  | skip + 1, c :: rest => dropMacrosFrom (isWord c) skip rest
  | 0, c :: rest =>
    let word := (c :: rest).takeWhile isWord
    if !inWord && exportMacros.contains word then
      let blanks := ((c :: rest).dropWhile isWord).takeWhile isBlank
      dropMacrosFrom (isWord c) (word.length + blanks.length - 1) rest
    else c :: dropMacrosFrom (isWord c) 0 rest

/-- A text without the export macros that stand in it as whole words. -/
def dropMacros (s : List Char) : List Char :=
  dropMacrosFrom false 0 s

/-- The text before the first opening brace. -/
def beforeBrace (s : List Char) : List Char :=
  s.takeWhile (· != '{')

/-- The words of a text with single spaces between them. -/
def collapse (s : List Char) : List Char :=
  [' '].intercalate (words s)

/-- A declaration as a signature. -/
def tidyDeclaration (declaration : List Char) : List Char :=
  trimEnd (dropEndWhile (· == ';') (collapse (beforeBrace (dropMacros declaration))))

/-- The signature that the code after a block declares. -/
def signature? (code : List Char) : Option String :=
  let declaration := joinLines (declarationLines ((lines code).dropWhile isBlankText))
  let signature := tidyDeclaration declaration
  if signature.isEmpty then none else some (String.ofList signature)

end ApiAtlas.Header
