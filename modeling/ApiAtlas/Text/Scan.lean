/-! # Scanning a text for patterns

A pattern looks at the beginning of a text and answers with a value and the rest of the text. A
scan tries it at every position from left to right; where it applies, the characters it used are
passed over, so occurrences never overlap. What a scan yields is the text cut into plain
characters and occurrences.
-/

namespace ApiAtlas.Text

variable {α : Type}

/-- A pattern at the beginning of a text: its value and the rest. -/
abbrev Pattern (α : Type) := List Char → Option (α × List Char)

/-- Cut a text into plain characters and occurrences of a pattern. The first `skip` characters
belong to an occurrence that was already reported. -/
def scanFrom (pattern : Pattern α) : Nat → List Char → List (Char ⊕ α)
  | _, [] => []
  | skip + 1, _ :: rest => scanFrom pattern skip rest
  | 0, c :: rest =>
    match pattern (c :: rest) with
    | some (value, after) => .inr value :: scanFrom pattern (rest.length - after.length) rest
    | none => .inl c :: scanFrom pattern 0 rest

/-- The plain characters and the occurrences of a pattern, from left to right. -/
def scan (pattern : Pattern α) (s : List Char) : List (Char ⊕ α) :=
  scanFrom pattern 0 s

/-- The values of all occurrences of a pattern. -/
def findAll (pattern : Pattern α) (s : List Char) : List α :=
  (scan pattern s).filterMap Sum.getRight?

/-- The text with every occurrence of a pattern replaced by the pattern's value. -/
def replaceAll (pattern : Pattern (List Char)) (s : List Char) : List Char :=
  (scan pattern s).flatMap fun
    | .inl c => [c]
    | .inr replacement => replacement

theorem scanFrom_eq_drop (pattern : Pattern α) (skip : Nat) (s : List Char) :
    scanFrom pattern skip s = scan pattern (s.drop skip) := by
  induction s generalizing skip with
  | nil => simp [scan, scanFrom]
  | cons c rest ih =>
    cases skip with
    | zero => rfl
    | succ n => simpa [scanFrom] using ih n

@[simp]
theorem scan_nil (pattern : Pattern α) : scan pattern [] = [] := rfl

theorem scan_cons_of_eq_none {pattern : Pattern α} {c : Char} {rest : List Char}
    (fails : pattern (c :: rest) = none) :
    scan pattern (c :: rest) = .inl c :: scan pattern rest := by
  simp [scan, scanFrom, fails]

/-- After an occurrence the scan goes on with what the occurrence left. -/
theorem scan_cons_of_eq_some {pattern : Pattern α} {c : Char} {rest after : List Char} {value : α}
    (applies : pattern (c :: rest) = some (value, after)) (left : after <:+ rest) :
    scan pattern (c :: rest) = .inr value :: scan pattern after := by
  obtain ⟨used, rfl⟩ := left
  have step : scan pattern (c :: (used ++ after)) =
      .inr value :: scanFrom pattern ((used ++ after).length - after.length) (used ++ after) := by
    simp only [scan, scanFrom, applies]
  rw [step, scanFrom_eq_drop]
  simp

end ApiAtlas.Text
