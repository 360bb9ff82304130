import ApiAtlas.Json.Basic

/-! # Writing Json

The compact form puts everything on one line; the indented form gives every item and field a line
of its own, two spaces deeper than its container.
-/

namespace ApiAtlas.Json

/-- Four hexadecimal digits. -/
def hex4 (n : Nat) : String :=
  let digits := Nat.toDigits 16 n
  String.ofList (List.replicate (4 - digits.length) '0' ++ digits)

/-- A character of a Json string. -/
def escapeChar (c : Char) : String :=
  if c = '"' then "\\\""
  else if c = '\\' then "\\\\"
  else if c = '\n' then "\\n"
  else if c = '\r' then "\\r"
  else if c = '\t' then "\\t"
  else if c.toNat = 8 then "\\b"
  else if c.toNat = 12 then "\\f"
  else if c.toNat < 32 then "\\u" ++ hex4 c.toNat
  else c.toString

/-- A Json string with its quotes. -/
def escape (s : String) : String :=
  s.foldl (fun text c => text ++ escapeChar c) "\"" ++ "\""

mutual

/-- A value on one line. -/
def compact : Json → String
  | null => "null"
  | bool value => if value then "true" else "false"
  | int value => toString value
  | decimal value => value.text
  | str value => escape value
  | arr items => "[" ++ compactItems items ++ "]"
  | obj fields => "\x7b" ++ compactFields fields ++ "\x7d"

/-- Items with commas between them. -/
def compactItems : List Json → String
  | [] => ""
  | [item] => compact item
  | item :: items => compact item ++ "," ++ compactItems items

/-- Fields with commas between them. -/
def compactFields : List (String × Json) → String
  | [] => ""
  | [(key, value)] => escape key ++ ":" ++ compact value
  | (key, value) :: fields => escape key ++ ":" ++ compact value ++ "," ++ compactFields fields

end

/-- The blanks at the beginning of a line. -/
def indentation (depth : Nat) : String :=
  String.ofList (List.replicate (2 * depth) ' ')

mutual

/-- A value over several lines, in a container of the given depth. -/
def indented (depth : Nat) : Json → String
  | arr [] => "[]"
  | arr (item :: items) =>
    "[\n" ++ indentedItems (depth + 1) (item :: items) ++ "\n" ++ indentation depth ++ "]"
  | obj [] => "\x7b\x7d"
  | obj (field :: fields) =>
    "\x7b\n" ++ indentedFields (depth + 1) (field :: fields) ++ "\n" ++ indentation depth ++ "\x7d"
  | value => compact value

/-- Items, one to a line. -/
def indentedItems (depth : Nat) : List Json → String
  | [] => ""
  | [item] => indentation depth ++ indented depth item
  | item :: items =>
    indentation depth ++ indented depth item ++ ",\n" ++ indentedItems depth items

/-- Fields, one to a line. -/
def indentedFields (depth : Nat) : List (String × Json) → String
  | [] => ""
  | [(key, value)] => indentation depth ++ escape key ++ ": " ++ indented depth value
  | (key, value) :: fields =>
    indentation depth ++ escape key ++ ": " ++ indented depth value ++ ",\n" ++
      indentedFields depth fields

end

/-- A value over several lines. -/
def pretty (value : Json) : String :=
  indented 0 value

end ApiAtlas.Json
