import ApiAtlas.Text.Casing

/-! # Lower case

The full lower-case mapping of a text. A capital sigma becomes a final sigma where a cased letter
stands before it and none after it, looking past characters that do not end a word.
-/

namespace ApiAtlas.Text

/-- Whether the first character that is not passed over is cased. -/
def meetsCased (s : List Char) : Bool :=
  match s.dropWhile isCaseIgnorable with
  | [] => false
  | c :: _ => isCased c

/-- The lower-case sigma between `before`, which is read backwards, and `after`. -/
def lowerSigma (before after : List Char) : Char :=
  if meetsCased before && !meetsCased after then 'ς' else 'σ'

/-- Lower a text that follows the reversed text `before`. -/
def lowercaseAfter (before : List Char) : List Char → List Char
  | [] => []
  | c :: rest =>
    (if c = 'Σ' then [lowerSigma before rest] else lowerChar c) ++ lowercaseAfter (c :: before) rest

/-- The lower-case form of a text. -/
def lowercase (s : List Char) : List Char :=
  lowercaseAfter [] s

end ApiAtlas.Text
