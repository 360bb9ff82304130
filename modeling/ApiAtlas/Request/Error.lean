import ApiAtlas.Json.Basic
import ApiAtlas.Text.Quoted

/-! # Why a request cannot be read

The causes for which the arguments of a request are refused, and the wording of each.
-/

namespace ApiAtlas

/-- How an error message calls a value. -/
def Json.describe : Json → String
  | .null => "null"
  | .bool value => "boolean `" ++ (if value then "true" else "false") ++ "`"
  | .int value => "integer `" ++ toString value ++ "`"
  | .decimal value => "floating point `" ++ value.text ++ "`"
  | .str value => "string " ++ Text.quoted value
  | .arr _ => "sequence"
  | .obj _ => "map"

/-- Why a value cannot be read: a field is missing, the value has another type than expected, the
right type but a wrong value, a name that is not among the known ones, or too few or too many
items. -/
inductive DecodeError where
  | missingField (name : String)
  | invalidType (found : Json) (expected : String)
  | invalidValue (found : Json) (expected : String)
  | unknownVariant (name : String) (known : List String)
  | invalidLength (length : Nat) (expected : String)
deriving Repr, Inhabited

namespace DecodeError

/-- A name between backquotes. -/
def ticked (name : String) : String := "`" ++ name ++ "`"

/-- The names that would have been known. -/
def alternatives : List String → String
  | [] => "there are no variants"
  | [name] => "expected " ++ ticked name
  | [first, second] => "expected " ++ ticked first ++ " or " ++ ticked second
  | names => "expected one of " ++ ", ".intercalate (names.map ticked)

/-- The wording of an error. -/
def message : DecodeError → String
  | missingField name => "missing field " ++ ticked name
  | invalidType found expected => "invalid type: " ++ found.describe ++ ", expected " ++ expected
  | invalidValue found expected => "invalid value: " ++ found.describe ++ ", expected " ++ expected
  | unknownVariant name known => "unknown variant " ++ ticked name ++ ", " ++ alternatives known
  | invalidLength length expected =>
    "invalid length " ++ toString length ++ ", expected " ++ expected

end DecodeError

end ApiAtlas
