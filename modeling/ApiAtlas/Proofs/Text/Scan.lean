import ApiAtlas.Text.Scan
import ApiAtlas.Proofs.Text.Pieces

/-! # Scans of written texts

Where a pattern does not apply a scan takes single characters, and where it applies the scan goes on
after the occurrence. A text of lines that a pattern reads one by one gives one value for each line.
-/

namespace ApiAtlas.Text

variable {α β : Type} {pattern : Pattern α}

/-- Where a pattern does not apply, a scan takes one character after the other. -/
theorem scan_append {front rest : List Char}
    (fails : ∀ c tail, c :: tail <:+ front → pattern (c :: (tail ++ rest)) = none) :
    scan pattern (front ++ rest) = front.map .inl ++ scan pattern rest := by
  induction front with
  | nil => rfl
  | cons c tail ih =>
    rw [List.cons_append, scan_cons_of_eq_none (fails c tail List.suffix_rfl),
      ih fun d more later => fails d more (later.trans (List.suffix_cons c tail))]
    rfl

/-- Where a pattern does not apply, nothing is found. -/
theorem findAll_append_of_eq_none {front rest : List Char}
    (fails : ∀ c tail, c :: tail <:+ front → pattern (c :: (tail ++ rest)) = none) :
    findAll pattern (front ++ rest) = findAll pattern rest := by
  rw [findAll, scan_append fails, List.filterMap_append, findAll]
  simp

theorem findAll_append {front : List Char} (fails : ∀ c ∈ front, ∀ s, pattern (c :: s) = none)
    (rest : List Char) : findAll pattern (front ++ rest) = findAll pattern rest := by
  apply findAll_append_of_eq_none
  intro c tail later
  exact fails c (later.subset (by simp)) (tail ++ rest)

theorem findAll_cons_of_eq_some {c : Char} {rest after : List Char} {value : α}
    (applies : pattern (c :: rest) = some (value, after)) (left : after <:+ rest) :
    findAll pattern (c :: rest) = value :: findAll pattern after := by
  rw [findAll, scan_cons_of_eq_some applies left, findAll]
  rfl

theorem findAll_cons_of_eq_none {c : Char} {rest : List Char} (fails : pattern (c :: rest) = none) :
    findAll pattern (c :: rest) = findAll pattern rest := by
  rw [findAll, scan_cons_of_eq_none fails, findAll]
  rfl

theorem exists_of_inr_mem_scanFrom {skip : Nat} {s : List Char} {value : α}
    (member : .inr value ∈ scanFrom pattern skip s) : ∃ text after, pattern text = some (value, after) := by
  fun_induction scanFrom pattern skip s with
  | case1 => simp at member
  | case2 skip c rest ih => exact ih member
  | case3 c rest found after applies ih =>
    rcases List.mem_cons.mp member with here | later
    · cases here
      exact ⟨c :: rest, after, applies⟩
    · exact ih later
  | case4 c rest fails ih => exact ih (by simpa using member)

/-- Everything that is found is a value of the pattern. -/
theorem exists_of_mem_findAll {s : List Char} {value : α} (member : value ∈ findAll pattern s) :
    ∃ text after, pattern text = some (value, after) := by
  obtain ⟨item, listed, shape⟩ := List.mem_filterMap.mp member
  rw [Sum.getRight?_eq_some_iff.mp shape] at listed
  exact exists_of_inr_mem_scanFrom listed

theorem replaceAll_cons_of_eq_some {pattern : Pattern (List Char)} {c : Char} {rest after value : List Char}
    (applies : pattern (c :: rest) = some (value, after)) (left : after <:+ rest) :
    replaceAll pattern (c :: rest) = value ++ replaceAll pattern after := by
  rw [replaceAll, scan_cons_of_eq_some applies left, List.flatMap_cons, ← replaceAll]

theorem replaceAll_cons_of_eq_none {pattern : Pattern (List Char)} {c : Char} {rest : List Char}
    (fails : pattern (c :: rest) = none) : replaceAll pattern (c :: rest) = c :: replaceAll pattern rest := by
  rw [replaceAll, scan_cons_of_eq_none fails, List.flatMap_cons, ← replaceAll]
  rfl

/-- If a pattern finds a written item before every line feed, it finds the items of joined lines. -/
theorem findAll_joinLines {written : β → List Char} {value : β → α} {items : List β}
    (found : ∀ item ∈ items, ∀ tail, (∀ c ∈ tail.head?, c = '\n') →
      findAll pattern (written item ++ tail) = value item :: findAll pattern tail)
    (passes : ∀ s, pattern ('\n' :: s) = none) :
    findAll pattern (joinLines (items.map written)) = items.map value := by
  induction items with
  | nil => rfl
  | cons item rest ih =>
    rw [List.forall_mem_cons] at found
    have tail := ih found.2
    cases rest with
    | nil =>
      have last := found.1 [] (by simp)
      rw [List.append_nil] at last
      rw [List.map_singleton, joinLines_singleton, last]
      rfl
    | cons next more =>
      have feed : findAll pattern ('\n' :: joinLines ((next :: more).map written)) =
          findAll pattern (joinLines ((next :: more).map written)) :=
        @findAll_append _ _ ['\n'] (by simpa using passes) _
      have first := found.1 ('\n' :: joinLines ((next :: more).map written)) (by simp)
      rw [feed, tail] at first
      rw [List.map_cons, List.map_cons, joinLines_cons_cons]
      exact first

end ApiAtlas.Text
