import ApiAtlas.Json.Decimal

/-! # Json values

The tree of a Json text. Integers that fit into 64 bits, with or without sign, are exact; every
other number is a `Decimal`. The fields of an object are kept in the order of their keys.
-/

namespace ApiAtlas

/-- A Json value. -/
inductive Json where
  | null
  | bool (value : Bool)
  | int (value : Int)
  | decimal (value : Decimal)
  | str (value : String)
  | arr (items : List Json)
  | obj (fields : List (String × Json))
deriving Inhabited, Repr

namespace Json

/-- The value of a field. -/
def lookup? (key : String) : List (String × Json) → Option Json
  | [] => none
  | (k, value) :: rest => if k = key then some value else lookup? key rest

/-- The value of a field of an object. -/
def get? (key : String) : Json → Option Json
  | obj fields => lookup? key fields
  | _ => none

/-- A text. -/
def str? : Json → Option String
  | str value => some value
  | _ => none

/-- A truth value. -/
def bool? : Json → Option Bool
  | bool value => some value
  | _ => none

/-- The items of an array. -/
def arr? : Json → Option (List Json)
  | arr items => some items
  | _ => none

/-- The text of a field. -/
def strField? (key : String) (value : Json) : Option String :=
  (value.get? key).bind str?

/-- Put a field into its place by key; an equal key is replaced. -/
def insertField (key : String) (value : Json) : List (String × Json) → List (String × Json)
  | [] => [(key, value)]
  | (k, old) :: rest =>
    if key < k then (key, value) :: (k, old) :: rest
    else if key = k then (key, value) :: rest
    else (k, old) :: insertField key value rest

/-- An object with fields in the order of their keys; of equal keys the last counts. -/
def ofFields (fields : List (String × Json)) : Json :=
  obj (fields.foldl (fun sorted (key, value) => insertField key value sorted) [])

/-- A text, or null. -/
def ofOption (toJson : α → Json) : Option α → Json
  | some value => toJson value
  | none => null

/-- A natural number. -/
def nat (n : Nat) : Json := int n

/-- An array of texts. -/
def strs (items : List String) : Json := arr (items.map str)

end Json

end ApiAtlas
