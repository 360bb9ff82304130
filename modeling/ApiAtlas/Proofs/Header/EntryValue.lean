import ApiAtlas.Proofs.Header.Item

/-! # Values of entries

The value of an entry is an expression, and an expression may have parentheses of its own. A written enum gives every
entry back with its name and its description. The value comes back up to the first parenthesis that closes anything,
and that is all of it exactly if the expression has no parentheses.
-/

namespace ApiAtlas.Header

open Text

variable {entry : EnumEntry} {es : List EnumEntry}

/-- An entry with an expression for its value: the name is one word, the parentheses of the value are balanced, and the
value opens no comment. -/
structure ExpressionEntry (entry : EnumEntry) : Prop where
  named : entry.name ≠ ""
  word : ∀ c ∈ entry.name.toList, isWord c = true
  trimmed : trim entry.value.toList = entry.value.toList
  balanced : Balanced entry.value.toList
  unopened : ¬['/', '*'] <:+: entry.value.toList
  description : PortableDescription entry.description.toList

/-- An entry with the beginning of its value, up to the first parenthesis that closes anything. -/
def cutValue (entry : EnumEntry) : EnumEntry :=
  { entry with value := String.ofList (trim (toFirstClosing entry.value.toList)) }

theorem ExpressionEntry.findAll_eq (expression : ExpressionEntry entry) (tail : List Char) :
    findAll (itemPattern "entry".toList entryItem) (writeEntry entry ++ tail) =
      (entry.description.toList, entry.name.toList, trim (toFirstClosing entry.value.toList)) ::
        findAll (itemPattern "entry".toList entryItem) tail := by
  apply findAll_writeEntry expression.named expression.word expression.description
  exact fun opened => expression.unopened (opened.trans (List.dropWhile_suffix _).isInfix)

theorem entries_writeEntry_append (expression : ExpressionEntry entry) (tail : List Char) :
    entries (writeEntry entry ++ '\n' :: tail) = cutValue entry :: entries tail := by
  have feed : findAll (itemPattern "entry".toList entryItem) ('\n' :: tail) =
      findAll (itemPattern "entry".toList entryItem) tail :=
    findAll_cons_of_eq_none (itemPattern_of_ne (by decide) tail)
  rw [entries, expression.findAll_eq, feed, List.map_cons, ← entries]
  simp [cutValue]

/-- A written enum has one entry for each of its own, in their order. -/
theorem entries_writeCode (expressions : ∀ entry ∈ es, ExpressionEntry entry) :
    entries (writeCode (.enum es)) = es.map cutValue := by
  induction es with
  | nil => rfl
  | cons entry rest ih =>
    rw [List.forall_mem_cons] at expressions
    have written : writeCode (.enum (entry :: rest)) = writeEntry entry ++ '\n' :: writeCode (.enum rest) := by
      simp [writeCode, codeLines]
    rw [written, entries_writeEntry_append expressions.1, ih expressions.2, List.map_cons]

theorem ExpressionEntry.cutValue_eq_self_iff (expression : ExpressionEntry entry) :
    cutValue entry = entry ↔ '(' ∉ entry.value.toList := by
  rw [← expression.balanced.toFirstClosing_eq_self_iff]
  constructor
  · intro same
    have kept : trim (toFirstClosing entry.value.toList) = entry.value.toList := by
      have values := congrArg (fun e => e.value.toList) same
      simpa [cutValue] using values
    -- Nothing is lost by the trimming, so the beginning is as long as the value.
    have long : entry.value.toList.length ≤ (toFirstClosing entry.value.toList).length := by
      conv_lhs => rw [← kept]
      exact (trimEnd_isPrefix _).length_le.trans (List.dropWhile_suffix _).length_le
    exact (List.takeWhile_prefix _).eq_of_length_le long
  · intro whole
    rw [cutValue, whole, expression.trimmed, String.ofList_toList]

/-- The entries of a written enum are found with their names and descriptions, and with their values up to the first
parenthesis that closes anything. They are the entries that were written exactly if no value has parentheses. -/
theorem entry_values_kept_iff (expressions : ∀ entry ∈ es, ExpressionEntry entry) :
    entries (writeCode (.enum es)) = es.map cutValue ∧
    (entries (writeCode (.enum es)) = es ↔ ∀ entry ∈ es, '(' ∉ entry.value.toList) := by
  refine ⟨entries_writeCode expressions, ?_⟩
  have same : es.map cutValue = es ↔ ∀ entry ∈ es, cutValue entry = entry := by
    simpa using List.map_inj_left (l := es) (f := cutValue) (g := id)
  rw [entries_writeCode expressions, same]
  exact forall₂_congr fun entry member => (expressions entry member).cutValue_eq_self_iff

/-- A shift, and a macro call in a larger expression. -/
def sampleFlags : List EnumEntry :=
  [⟨"CF_FLAG_A", "1 << 0", "First bit."⟩, ⟨"CF_FLAG_B", "CF_BIT(1, 2) | (4)", "Two bits."⟩]

theorem sampleFlags_expressions : ∀ entry ∈ sampleFlags, ExpressionEntry entry := by
  have shift : ExpressionEntry ⟨"CF_FLAG_A", "1 << 0", "First bit."⟩ :=
    ⟨by decide, List.all_eq_true.mp (by decide), by decide, by decide, by decide, by decide, by decide, by decide⟩
  have call : ExpressionEntry ⟨"CF_FLAG_B", "CF_BIT(1, 2) | (4)", "Two bits."⟩ :=
    ⟨by decide, List.all_eq_true.mp (by decide), by decide, by decide, by decide, by decide, by decide, by decide⟩
  simpa [sampleFlags] using ⟨shift, call⟩

theorem entry_values_kept_iff_sampleFlags :
    (∀ entry ∈ sampleFlags, ExpressionEntry entry) ∧
      entries (writeCode (.enum sampleFlags)) =
        [⟨"CF_FLAG_A", "1 << 0", "First bit."⟩, ⟨"CF_FLAG_B", "CF_BIT(1, 2", "Two bits."⟩] ∧
      entries (writeCode (.enum sampleFlags)) ≠ sampleFlags ∧
      entries (writeCode (.enum (sampleFlags.take 1))) = sampleFlags.take 1 := by
  have first_only : ∀ entry ∈ sampleFlags.take 1, ExpressionEntry entry :=
    fun entry member => sampleFlags_expressions entry (List.mem_of_mem_take member)
  obtain ⟨cut, kept⟩ := entry_values_kept_iff sampleFlags_expressions
  refine ⟨sampleFlags_expressions, ?_, ?_, (entry_values_kept_iff first_only).2.mpr ?_⟩
  · rw [cut]
    decide +kernel
  · rw [ne_eq, kept]
    decide +kernel
  · decide +kernel

/-- A shift in parentheses loses the one that closes it. -/
theorem parenthesised_value_cut :
    ExpressionEntry ⟨"CF_FLAG_C", "(1 << 3)", "Third bit."⟩ ∧ '\n' ∉ "(1 << 3)".toList ∧
      ¬['*', '/'] <:+: "(1 << 3)".toList ∧ ¬['/', '*'] <:+: "Third bit.".toList ∧
      writeCode (.enum [⟨"CF_FLAG_C", "(1 << 3)", "Third bit."⟩]) =
        "/* @entry Third bit. */ \\\nCF_ENUM(CF_FLAG_C, (1 << 3)) \\\n".toList ∧
      entries (writeCode (.enum [⟨"CF_FLAG_C", "(1 << 3)", "Third bit."⟩])) =
        [⟨"CF_FLAG_C", "(1 << 3", "Third bit."⟩] :=
  ⟨⟨by decide, List.all_eq_true.mp (by decide), by decide, by decide, by decide, by decide, by decide, by decide⟩,
    by decide, by decide, by decide, by decide, by decide +kernel⟩

end ApiAtlas.Header
