import ApiAtlas.Proofs.Text.Trim
import ApiAtlas.Text.Find

/-! # Balanced parentheses

A text is balanced if every parenthesis that closes has one that opens before it, and none stays open. Such a text has
as many parentheses of the one kind as of the other, so it has both or neither. A reader that looks for the end of a
group and takes the first parenthesis that closes anything gets all of a balanced text exactly if the text has none.
-/

namespace ApiAtlas.Text

variable {s : List Char}

/-- How many groups are open after a text, if `depth` of them are open before it. There is no answer if a parenthesis
closes a group that is not there. -/
def openGroups : Nat → List Char → Option Nat
  | depth, [] => some depth
  | depth, '(' :: rest => openGroups (depth + 1) rest
  | 0, ')' :: _ => none
  | depth + 1, ')' :: rest => openGroups depth rest
  | depth, _ :: rest => openGroups depth rest

/-- Every group that opens in a text closes in it, and no other one does. -/
def Balanced (s : List Char) : Prop :=
  openGroups 0 s = some 0

instance (s : List Char) : Decidable (Balanced s) :=
  inferInstanceAs (Decidable (_ = _))

theorem count_of_openGroups {depth left : Nat} (counted : openGroups depth s = some left) :
    left + s.count ')' = depth + s.count '(' := by
  fun_induction openGroups depth s with
  | case1 depth => simpa [eq_comm] using counted
  | case2 depth rest ih =>
    rw [List.count_cons_self, List.count_cons_of_ne (by decide), ih counted]
    omega
  | case3 => contradiction
  | case4 depth rest ih =>
    rw [List.count_cons_self, List.count_cons_of_ne (by decide), ← Nat.add_assoc, ih counted]
    omega
  | case5 depth c rest opens stuck closes ih =>
    have other : c ≠ ')' := by
      rintro rfl
      cases depth with
      | zero => exact stuck rfl rfl
      | succ outer => exact closes outer rfl rfl
    rw [List.count_cons_of_ne other, List.count_cons_of_ne opens, ih counted]

/-- A balanced text has parentheses of both kinds or of none. -/
theorem Balanced.mem_iff (balanced : Balanced s) : ')' ∈ s ↔ '(' ∈ s := by
  have same := count_of_openGroups balanced
  rw [← List.count_pos_iff, ← List.count_pos_iff]
  omega

/-- A text up to its first closing parenthesis. -/
def toFirstClosing (s : List Char) : List Char :=
  s.takeWhile (· != ')')

/-- What is left of a text and of a parenthesis after it, behind the first closing parenthesis. -/
def pastFirstClosing (s rest : List Char) : List Char :=
  (s.dropWhile (· != ')') ++ ')' :: rest).tail

theorem splitOnce?_closing (s rest : List Char) :
    splitOnce? ')' (s ++ ')' :: rest) = some (toFirstClosing s, pastFirstClosing s rest) := by
  have stops : ∃ more, s.dropWhile (· != ')') ++ ')' :: rest = ')' :: more := by
    cases left : s.dropWhile (· != ')') with
    | nil => exact ⟨rest, rfl⟩
    | cons c more =>
      have closes := head?_dropWhile (· != ')') s c (by rw [left]; rfl)
      exact ⟨more ++ ')' :: rest, by simpa using closes⟩
  obtain ⟨more, shape⟩ := stops
  rw [splitOnce?_eq_some_iff, pastFirstClosing, shape, List.tail_cons, ← shape, toFirstClosing, ← List.append_assoc,
    List.takeWhile_append_dropWhile]
  refine ⟨rfl, ?_⟩
  intro member
  simpa using List.mem_takeWhile_imp member

theorem pastFirstClosing_append (s rest more : List Char) :
    pastFirstClosing s (rest ++ more) = pastFirstClosing s rest ++ more := by
  rw [pastFirstClosing, pastFirstClosing, ← List.cons_append, ← List.append_assoc,
    List.tail_append_of_ne_nil (by simp)]

theorem pastFirstClosing_isSuffix (s rest : List Char) : pastFirstClosing s rest <:+ s ++ ')' :: rest := by
  obtain ⟨front, split⟩ := List.dropWhile_suffix (l := s) (· != ')')
  refine (List.tail_suffix _).trans ⟨front, ?_⟩
  rw [← List.append_assoc, split]

theorem toFirstClosing_eq_self_iff : toFirstClosing s = s ↔ ')' ∉ s := by
  rw [toFirstClosing, List.takeWhile_eq_self_iff]
  refine ⟨?_, bne_of_not_mem⟩
  intro passed member
  simpa using passed ')' member

/-- A balanced text stops at its first closing parenthesis unless it has no parentheses at all. -/
theorem Balanced.toFirstClosing_eq_self_iff (balanced : Balanced s) : toFirstClosing s = s ↔ '(' ∉ s := by
  rw [Text.toFirstClosing_eq_self_iff, balanced.mem_iff]

end ApiAtlas.Text
