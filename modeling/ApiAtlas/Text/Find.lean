/-! # Finding texts in texts

Plain searches: whether and where a text occurs in another, and the cut at the first occurrence of
a character.
-/

namespace ApiAtlas.Text

/-- Whether `needle` occurs in a text as a contiguous part. -/
def occursIn (needle : List Char) : List Char → Bool
  | [] => needle.isEmpty
  | c :: rest => needle.isPrefixOf (c :: rest) || occursIn needle rest

theorem occursIn_eq_true_iff {needle s : List Char} : occursIn needle s = true ↔ needle <:+: s := by
  induction s with
  | nil => simp [occursIn]
  | cons c rest ih => simp [occursIn, ih, List.infix_cons_iff]

/-- The text after `start`, if the text begins with it. -/
def afterStart? (start s : List Char) : Option (List Char) :=
  if start.isPrefixOf s then some (s.drop start.length) else none

theorem afterStart?_eq_some_iff {start s rest : List Char} :
    afterStart? start s = some rest ↔ s = start ++ rest := by
  constructor
  · intro found
    unfold afterStart? at found
    split at found
    · rename_i begins
      obtain ⟨tail, rfl⟩ := List.isPrefixOf_iff_prefix.1 begins
      simpa using found
    · simp at found
  · rintro rfl
    simp [afterStart?]

/-- The text before `finish`, if the text ends with it. -/
def beforeEnd? (finish s : List Char) : Option (List Char) :=
  if finish.isSuffixOf s then some (s.take (s.length - finish.length)) else none

/-- What stands before and after the first `sep`. -/
def splitOnce? (sep : Char) : List Char → Option (List Char × List Char)
  | [] => none
  | c :: rest =>
    if c = sep then some ([], rest)
    else (splitOnce? sep rest).map fun (before, after) => (c :: before, after)

theorem splitOnce?_eq_some_iff {sep : Char} {s before after : List Char} :
    splitOnce? sep s = some (before, after) ↔ s = before ++ sep :: after ∧ sep ∉ before := by
  induction s generalizing before with
  | nil => simp [splitOnce?]
  | cons c rest ih =>
    by_cases same : c = sep
    · subst same
      cases before with
      | nil => simp [splitOnce?]
      | cons d ds =>
        simp only [splitOnce?, if_true, Option.some.injEq, Prod.mk.injEq, List.cons_append,
          List.cons.injEq, List.mem_cons, not_or]
        constructor
        · rintro ⟨h, -⟩
          exact absurd h (by simp)
        · rintro ⟨⟨rfl, -⟩, h, -⟩
          exact absurd rfl h
    · cases before with
      | nil => simp [splitOnce?, same]
      | cons d ds =>
        simp only [splitOnce?, same, if_false, Option.map_eq_some_iff, Prod.exists,
          Prod.mk.injEq, List.cons.injEq, List.cons_append, List.mem_cons, not_or]
        constructor
        · rintro ⟨b, a, found, ⟨rfl, rfl⟩, rfl⟩
          obtain ⟨rfl, free⟩ := ih.1 found
          exact ⟨⟨rfl, rfl⟩, fun h => same h.symm, free⟩
        · rintro ⟨⟨rfl, rfl⟩, -, free⟩
          exact ⟨ds, after, ih.2 ⟨rfl, free⟩, ⟨rfl, rfl⟩, rfl⟩

/-- Every `old` replaced by `new`. -/
def replaceChar (old : Char) (new : List Char) (s : List Char) : List Char :=
  s.flatMap fun c => if c = old then new else [c]

end ApiAtlas.Text
