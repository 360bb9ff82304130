import ApiAtlas.Lookup.TypeUsage
import ApiAtlas.Proofs.Catalog.Refinement
import ApiAtlas.Proofs.Text.Parentheses
import ApiAtlas.Proofs.Text.SigmaContext

/-! # The types that a function takes and returns

A return type is the text before the first place where the name of the function is declared. The search for the name
goes on behind each occurrence that it finds, so occurrences that overlap an earlier one are passed over. That never
hides a declaration: the letter before it is a blank or a star, and neither of them stands in a name.

A parameter list is meant to be the text between the parenthesis that opens it and the one that closes it. What is
searched ends at the first parenthesis that closes anything, so all that follows the first group inside the list is
left out. The two agree exactly if no parameter has a group.
-/

namespace ApiAtlas

open Text

namespace Signature

section Occurrences

variable {needle before text : List Char} {skip : Nat} {pair : List Char × List Char}

/-- An occurrence is reported with what stands before and after it. -/
theorem exists_of_mem_occurrencesFrom (member : pair ∈ occurrencesFrom needle before skip text) :
    ∃ front, pair.1 = before.reverse ++ front ∧ text = front ++ needle ++ pair.2 := by
  induction text generalizing before skip with
  | nil =>
    simp only [occurrencesFrom] at member
    split_ifs at member with empty
    · obtain rfl := List.mem_singleton.mp member
      have nothing : needle = [] := by simpa using (Bool.and_eq_true_iff.mp empty).2
      exact ⟨[], by simp, by simp [nothing]⟩
    · simp at member
  | cons c rest ih =>
    have further {more : Nat} (later : pair ∈ occurrencesFrom needle (c :: before) more rest) :
        ∃ front, pair.1 = before.reverse ++ front ∧ c :: rest = front ++ needle ++ pair.2 := by
      obtain ⟨front, place, split⟩ := ih later
      exact ⟨c :: front, by simp [place], by simp [split]⟩
    cases skip with
    | succ more => exact further member
    | zero =>
      simp only [occurrencesFrom] at member
      split_ifs at member with starts
      · rcases List.mem_cons.mp member with rfl | later
        · obtain ⟨after, whole⟩ := List.isPrefixOf_iff_prefix.mp starts
          exact ⟨[], by simp, by simp [← whole]⟩
        · exact further later
      · exact further member

/-- Occurrences are reported from left to right. -/
theorem pairwise_occurrencesFrom : (occurrencesFrom needle before skip text).Pairwise
    fun left right => left.1.length < right.1.length := by
  induction text generalizing before skip with
  | nil =>
    simp only [occurrencesFrom]
    split_ifs <;> simp
  | cons c rest ih =>
    cases skip with
    | succ more => exact ih
    | zero =>
      simp only [occurrencesFrom]
      split_ifs
      · refine .cons ?_ ih
        intro other later
        obtain ⟨front, place, -⟩ := exists_of_mem_occurrencesFrom later
        simp only [place, List.length_append, List.length_reverse, List.length_cons]
        omega
      · exact ih

/-- An occurrence behind a letter from outside the text is reported. What is passed over begins inside an occurrence
that is reported, so the letter before it belongs to the text. -/
theorem mem_occurrencesFrom {front after : List Char} (filled : needle ≠ [])
    (apart : ∀ c ∈ (before.reverse ++ front).getLast?, c ∉ needle) (inside : ∀ c ∈ text.take skip, c ∈ needle)
    (reached : 0 < skip → ∃ c ∈ before.head?, c ∈ needle) (split : text = front ++ needle ++ after) :
    (before.reverse ++ front, after) ∈ occurrencesFrom needle before skip text := by
  induction text generalizing before skip front with
  | nil => simp [filled] at split
  | cons c rest ih =>
    have further {more : Nat} {tail : List Char} (moved : front = c :: tail)
        (inside : ∀ d ∈ rest.take more, d ∈ needle) (reached : 0 < more → c ∈ needle) :
        (before.reverse ++ front, after) ∈ occurrencesFrom needle (c :: before) more rest := by
      subst moved
      have shape : before.reverse ++ c :: tail = (c :: before).reverse ++ tail := by simp
      rw [shape] at apart ⊢
      refine ih apart inside ?_ (by simpa using split)
      intro positive
      exact ⟨c, rfl, reached positive⟩
    cases skip with
    | succ more =>
      cases front with
      | nil =>
        obtain ⟨d, last, member⟩ := reached (Nat.succ_pos more)
        exact absurd member (apart d (by simpa using last))
      | cons d tail =>
        obtain ⟨rfl, -⟩ := List.cons.inj split
        rw [List.take_succ_cons, List.forall_mem_cons] at inside
        exact further rfl inside.2 fun _ => inside.1
    | zero =>
      simp only [occurrencesFrom]
      split_ifs with starts
      · cases front with
        | nil => simp [split]
        | cons d tail =>
          obtain ⟨rfl, -⟩ := List.cons.inj split
          obtain ⟨first, others, rfl⟩ := List.exists_cons_of_ne_nil filled
          obtain ⟨more, whole⟩ := List.isPrefixOf_iff_prefix.mp starts
          obtain ⟨rfl, rfl⟩ := List.cons.inj whole
          apply List.mem_cons_of_mem
          apply further rfl
          · simp +contextual
          · exact fun _ => List.mem_cons_self
      · cases front with
        | nil =>
          refine absurd ?_ starts
          rw [List.isPrefixOf_iff_prefix, split]
          simp
        | cons d tail =>
          obtain ⟨rfl, -⟩ := List.cons.inj split
          exact further rfl (by simp) (by simp)

end Occurrences

section ReturnType

variable {name signature before after : List Char}

/-- A name that nothing parts: it is not empty and has neither blanks nor stars. -/
structure Undivided (name : List Char) : Prop where
  filled : name ≠ []
  solid : ∀ c ∈ name, isBlank c = false ∧ c ≠ '*'

/-- A name is declared in a signature between two texts: a blank or a star stands before it, something else before
that, and a parenthesis opens after it, blanks apart. -/
structure DeclaredAt (name signature before after : List Char) : Prop where
  split : signature = before ++ name ++ after
  separated : ∃ c ∈ before.getLast?, isBlank c = true ∨ c = '*'
  opens : ∃ blanks rest, after = blanks ++ '(' :: rest ∧ ∀ c ∈ blanks, isBlank c = true
  typed : ∃ c ∈ before, isBlank c = false

/-- The leftmost place where a name is declared. -/
structure FirstDeclaredAt (name signature before after : List Char) : Prop
    extends DeclaredAt name signature before after where
  first : ∀ {front rest : List Char}, DeclaredAt name signature front rest → before.length ≤ front.length

theorem head?_trimStart_eq_some_iff {c : Char} (letter : isBlank c = false) {s : List Char} :
    (trimStart s).head? = some c ↔ ∃ blanks rest, s = blanks ++ c :: rest ∧ ∀ d ∈ blanks, isBlank d = true := by
  constructor
  · intro first
    obtain ⟨rest, shape⟩ := List.head?_eq_some_iff.mp first
    refine ⟨s.takeWhile isBlank, rest, ?_, fun d => List.mem_takeWhile_imp⟩
    rw [← shape, trimStart, List.takeWhile_append_dropWhile]
  · rintro ⟨blanks, rest, rfl, blank⟩
    rw [trimStart, dropWhile_run blank (by simpa using letter)]
    rfl

/-- What makes an occurrence of a name its declaration. -/
theorem returnTypeAt?_eq_some_iff {type : List Char} (split : signature = before ++ name ++ after) :
    returnTypeAt? before after = some type ↔ DeclaredAt name signature before after ∧ type = trimEnd before := by
  have separated : (before.getLast?.any fun c => isBlank c || c == '*') = true ↔
      ∃ c ∈ before.getLast?, isBlank c = true ∨ c = '*' := by
    simp [Option.any_eq_true]
  have opens : ((trimStart after).head? == some '(') = true ↔
      ∃ blanks rest, after = blanks ++ '(' :: rest ∧ ∀ c ∈ blanks, isBlank c = true := by
    rw [beq_iff_eq, head?_trimStart_eq_some_iff (by decide)]
  have typed : (!(trimEnd before).isEmpty) = true ↔ ∃ c ∈ before, isBlank c = false := by
    rw [Bool.not_eq_true', List.isEmpty_eq_false_iff, ne_eq, trimEnd_eq_nil_iff, Bool.not_eq_true, isBlankText,
      List.all_eq_false]
    simp
  simp only [returnTypeAt?, Option.ite_none_right_eq_some, Bool.and_eq_true, separated, opens, typed,
    Option.some.injEq]
  constructor
  · rintro ⟨⟨⟨parted, list⟩, text⟩, rfl⟩
    exact ⟨⟨split, parted, list, text⟩, rfl⟩
  · rintro ⟨⟨-, parted, list, text⟩, rfl⟩
    exact ⟨⟨⟨parted, list⟩, text⟩, rfl⟩

/-- No declaration is passed over. -/
theorem DeclaredAt.mem_occurrences (undivided : Undivided name) (declared : DeclaredAt name signature before after) :
    (before, after) ∈ occurrences name signature := by
  refine mem_occurrencesFrom undivided.filled ?_ (by simp) (by simp) declared.split
  intro c last member
  obtain ⟨d, same, separates⟩ := declared.separated
  obtain rfl : c = d := Option.some.inj (last.symm.trans same)
  obtain ⟨letter, other⟩ := undivided.solid c member
  rw [letter] at separates
  exact separates.elim (by simp) other

theorem DeclaredAt.isSome_returnType? (undivided : Undivided name)
    (declared : DeclaredAt name signature before after) : (returnType? name signature).isSome = true := by
  rw [returnType?, List.findSome?_isSome_iff]
  refine ⟨(before, after), declared.mem_occurrences undivided, Option.isSome_iff_exists.mpr ⟨trimEnd before, ?_⟩⟩
  exact (returnTypeAt?_eq_some_iff declared.split).mpr ⟨declared, rfl⟩

/-- A return type stands before the first declaration: the occurrences before it declare nothing, and those after it
stand further to the right. -/
theorem exists_firstDeclaredAt (undivided : Undivided name) {type : List Char}
    (answer : returnType? name signature = some type) :
    ∃ before after, FirstDeclaredAt name signature before after ∧ type = trimEnd before := by
  obtain ⟨earlier, ⟨before, after⟩, later, shape, here, silent⟩ := List.findSome?_eq_some_iff.mp answer
  have listed : (before, after) ∈ occurrences name signature := by simp [shape]
  have ordered : (occurrences name signature).Pairwise fun left right => left.1.length < right.1.length :=
    pairwise_occurrencesFrom
  obtain ⟨front, place, whole⟩ := exists_of_mem_occurrencesFrom listed
  obtain rfl : before = front := place
  obtain ⟨declared, same⟩ := (returnTypeAt?_eq_some_iff whole).mp here
  refine ⟨before, after, ⟨declared, ?_⟩, same⟩
  intro front rest other
  have member := other.mem_occurrences undivided
  rw [shape] at member ordered
  rcases List.mem_append.mp member with before_it | after_it
  · have reported := (returnTypeAt?_eq_some_iff other.split).mpr ⟨other, rfl⟩
    have nothing : returnTypeAt? front rest = none := silent _ before_it
    rw [nothing] at reported
    contradiction
  · rcases List.mem_cons.mp after_it with same | after_it
    · rw [(Prod.mk.inj same).1]
    · exact (List.rel_of_pairwise_cons (List.pairwise_append.mp ordered).2.1 after_it).le

theorem FirstDeclaredAt.unique {front rest : List Char} (first : FirstDeclaredAt name signature before after)
    (other : FirstDeclaredAt name signature front rest) : before = front := by
  have same : before ++ (name ++ after) = front ++ (name ++ rest) := by
    rw [← List.append_assoc, ← List.append_assoc, ← first.split, ← other.split]
  exact List.append_inj_left same
    (Nat.le_antisymm (first.first other.toDeclaredAt) (other.first first.toDeclaredAt))

/-- The return type is the text before the first declaration of the name. -/
theorem returnType?_eq_some_iff (undivided : Undivided name) {type : List Char} :
    returnType? name signature = some type ↔
      ∃ before after, FirstDeclaredAt name signature before after ∧ type = trimEnd before := by
  refine ⟨exists_firstDeclaredAt undivided, ?_⟩
  rintro ⟨before, after, first, rfl⟩
  obtain ⟨type, answer⟩ := Option.isSome_iff_exists.mp (first.isSome_returnType? undivided)
  obtain ⟨front, rest, other, rfl⟩ := exists_firstDeclaredAt undivided answer
  rw [answer, first.unique other]

theorem isSome_returnType?_iff (undivided : Undivided name) : (returnType? name signature).isSome = true ↔
    ∃ before after, DeclaredAt name signature before after := by
  constructor
  · intro answered
    obtain ⟨type, answer⟩ := Option.isSome_iff_exists.mp answered
    obtain ⟨before, after, first, -⟩ := exists_firstDeclaredAt undivided answer
    exact ⟨before, after, first.toDeclaredAt⟩
  · rintro ⟨before, after, declared⟩
    exact declared.isSome_returnType? undivided

end ReturnType

section ParameterList

variable {signature head parameters : List Char}

/-- A signature with one parenthesised list at its end, whose own groups all close inside it. -/
structure TakesParameters (signature head parameters : List Char) : Prop where
  written : signature = head ++ '(' :: parameters ++ [')']
  first : '(' ∉ head
  balanced : Balanced parameters

/-- What is searched of a parameter list ends at the first parenthesis that closes anything. -/
theorem TakesParameters.parameterList?_eq (takes : TakesParameters signature head parameters) :
    parameterList? signature = some (toFirstClosing parameters) := by
  have opened : splitOnce? '(' signature = some (head, parameters ++ [')']) := by
    rw [splitOnce?_eq_some_iff, takes.written]
    exact ⟨by simp, takes.first⟩
  simp [parameterList?, opened, splitOnce?_closing]

end ParameterList

theorem mentions_eq_true_iff {type : List Char} {part : Option (List Char)} :
    mentions type part = true ↔ ∃ text ∈ part, type <:+: lowercase text := by
  simp [mentions, Option.any_eq_true, occursIn_eq_true_iff]

end Signature

namespace Catalog

open Signature

section Coherent

variable {catalog : Catalog} {added : List Record} (coherent : catalog.Coherent added)

include coherent

theorem Coherent.functionsWith_eq_filter (condition : List Char → List Char → Bool) :
    catalog.functionsWith condition = catalog.records.filter fun record =>
      record.signature?.any fun signature => condition record.name.toList signature.toList := by
  rw [functionsWith, coherent.ofKind_eq_filter, List.filter_filter]
  congr 1
  funext record
  cases details : record.details <;> simp [Record.signature?, Record.kind, Details.kind, details]

theorem Coherent.mem_functionsWith_iff {condition : List Char → List Char → Bool} {record : Record} :
    record ∈ catalog.functionsWith condition ↔ record ∈ catalog.records ∧
      ∃ signature ∈ record.signature?, condition record.name.toList signature.toList = true := by
  rw [coherent.functionsWith_eq_filter, List.mem_filter, Option.any_eq_true]
  simp

theorem Coherent.functionsWith_nodup (condition : List Char → List Char → Bool) :
    ((catalog.functionsWith condition).map Record.name).Nodup := by
  rw [coherent.functionsWith_eq_filter]
  exact coherent.names_nodup.sublist (List.filter_sublist.map _)

theorem Coherent.mem_inputs_iff {direction : Direction} (taken : direction ≠ .output) {typeName : String}
    {record : Record} : record ∈ (catalog.typeUsage typeName direction).inputs ↔ record ∈ catalog.records ∧
      ∃ signature ∈ record.signature?, ∃ text ∈ parameterList? signature.toList,
        lowercase typeName.toList <:+: lowercase text := by
  have included : direction.includesInput = true := by cases direction <;> trivial
  simp only [typeUsage, included, if_true, coherent.mem_functionsWith_iff, mentions_eq_true_iff]

theorem Coherent.mem_outputs_iff {direction : Direction} (returned : direction ≠ .input) {typeName : String}
    {record : Record} : record ∈ (catalog.typeUsage typeName direction).outputs ↔ record ∈ catalog.records ∧
      ∃ signature ∈ record.signature?, ∃ text ∈ returnType? record.name.toList signature.toList,
        lowercase typeName.toList <:+: lowercase text := by
  have included : direction.includesOutput = true := by cases direction <;> trivial
  simp only [typeUsage, included, if_true, coherent.mem_functionsWith_iff, mentions_eq_true_iff]

theorem Coherent.outputs_nodup (typeName : String) (direction : Direction) :
    ((catalog.typeUsage typeName direction).outputs.map Record.name).Nodup := by
  simp only [typeUsage]
  split_ifs
  · exact coherent.functionsWith_nodup _
  · exact List.nodup_nil

end Coherent

/-- For a name without blanks and stars there is a return type exactly if the signature declares the name, and it is
the text before the leftmost declaration. A function of such a name is listed once among those that return a type if
the type occurs in that text, and is not listed otherwise. -/
theorem return_type_at_first_declaration {name : String} (undivided : Undivided name.toList) :
    (∀ signature, (returnType? name.toList signature).isSome = true ↔
      ∃ before after, DeclaredAt name.toList signature before after) ∧
    (∀ signature type, returnType? name.toList signature = some type ↔
      ∃ before after, FirstDeclaredAt name.toList signature before after ∧ type = trimEnd before) ∧
    ∀ (history : List Operation) (typeName : String) (direction : Direction), direction ≠ .input →
      (((run history).typeUsage typeName direction).outputs.map Record.name).count name ≤ 1 ∧
      ∀ record : Record, record.name = name →
        (record ∈ ((run history).typeUsage typeName direction).outputs ↔
          record ∈ (run history).records ∧ ∃ signature ∈ record.signature?, ∃ before after,
            FirstDeclaredAt name.toList signature.toList before after ∧
              lowercase typeName.toList <:+: lowercase (trimEnd before)) := by
  refine ⟨fun signature => isSome_returnType?_iff undivided, fun signature type => returnType?_eq_some_iff undivided, ?_⟩
  intro history typeName direction returned
  have coherent := coherent_run history
  refine ⟨List.nodup_iff_count_le_one.mp (coherent.outputs_nodup typeName direction) name, ?_⟩
  rintro record rfl
  rw [coherent.mem_outputs_iff returned]
  simp only [Option.mem_def, returnType?_eq_some_iff undivided]
  constructor
  · rintro ⟨member, signature, signed, -, ⟨before, after, first, rfl⟩, occurs⟩
    exact ⟨member, signature, signed, before, after, first, occurs⟩
  · rintro ⟨member, signature, signed, before, after, first, occurs⟩
    exact ⟨member, signature, signed, _, ⟨before, after, first, rfl⟩, occurs⟩

/-- A function whose name also stands inside its return type, where its occurrences overlap, and among its
parameters. -/
def sampleNana : Record :=
  .ofDetails "nana" (.function ⟨some "struct nanana *nana (int nana)", [], none⟩)

theorem return_type_at_first_declaration_sampleNana :
    Undivided "nana".toList ∧
      (∃ before after, FirstDeclaredAt "nana".toList "struct nanana *nana (int nana)".toList before after ∧
        "struct nanana *".toList = trimEnd before) ∧
      sampleNana ∈ ((run [.add sampleNana]).typeUsage "NANANA" .output).outputs ∧
      sampleNana ∉ ((run [.add sampleNana]).typeUsage "int" .both).outputs := by
  have undivided : Undivided "nana".toList := ⟨by decide, by simp [isBlank]⟩
  obtain ⟨-, located, listed⟩ := return_type_at_first_declaration undivided
  obtain ⟨before, after, first, same⟩ :=
    (located "struct nanana *nana (int nana)".toList "struct nanana *".toList).mp (by decide +kernel)
  refine ⟨undivided, ⟨before, after, first, same⟩, ?_, ?_⟩
  · rw [(listed [.add sampleNana] "NANANA" .output (by decide)).2 sampleNana rfl]
    refine ⟨by decide +kernel, _, rfl, before, after, first, ?_⟩
    rw [← same]
    decide +kernel
  · rw [(listed [.add sampleNana] "int" .both (by decide)).2 sampleNana rfl]
    rintro ⟨-, _, ⟨⟩, front, rest, other, occurs⟩
    rw [← first.unique other, ← same] at occurs
    exact absurd occurs (by decide +kernel)

/-- A function takes a type if the type occurs in its parameter list up to the first parenthesis that closes anything.
So its whole list is searched for every type exactly if no parameter has parentheses of its own. -/
theorem parameters_searched_iff {history : List Operation} {record : Record} {signature : String}
    {head parameters : List Char} (member : record ∈ (run history).records)
    (signed : record.signature? = some signature) (takes : TakesParameters signature.toList head parameters) :
    (∀ (typeName : String) (direction : Direction), direction ≠ .output →
      (record ∈ ((run history).typeUsage typeName direction).inputs ↔
        lowercase typeName.toList <:+: lowercase (toFirstClosing parameters))) ∧
    ((∀ (typeName : String) (direction : Direction), direction ≠ .output →
      (record ∈ ((run history).typeUsage typeName direction).inputs ↔
        lowercase typeName.toList <:+: lowercase parameters)) ↔ '(' ∉ parameters) := by
  have searched (typeName : String) (direction : Direction) (taken : direction ≠ .output) :
      record ∈ ((run history).typeUsage typeName direction).inputs ↔
        lowercase typeName.toList <:+: lowercase (toFirstClosing parameters) := by
    rw [(coherent_run history).mem_inputs_iff taken]
    simp [member, signed, takes.parameterList?_eq]
  refine ⟨searched, ?_, ?_⟩
  · intro whole
    rw [← takes.balanced.toFirstClosing_eq_self_iff]
    -- The list itself is found in itself, so it cannot be longer than what is searched.
    have inside : lowercase parameters <:+: lowercase (toFirstClosing parameters) := by
      have found := (whole (String.ofList parameters) .input (by decide)).mpr
      rw [searched _ _ (by decide), String.toList_ofList] at found
      exact found List.infix_rfl
    by_contra cut
    have split : toFirstClosing parameters ++ parameters.dropWhile (· != ')') = parameters :=
      List.takeWhile_append_dropWhile
    have left : parameters.dropWhile (· != ')') ≠ [] := by
      intro nothing
      rw [nothing, List.append_nil] at split
      exact cut split
    have longer := length_lowercase_append (toFirstClosing parameters) (parameters.dropWhile (· != ')'))
    have some_left := List.length_pos_iff.mpr (lowercase_ne_nil left)
    have short := inside.length_le
    rw [split] at longer
    omega
  · intro flat typeName direction taken
    rw [searched typeName direction taken, takes.balanced.toFirstClosing_eq_self_iff.mpr flat]

/-- A function that takes a callback before its last parameter. -/
def sampleVisitor : Record :=
  .ofDetails "cf_each" (.function ⟨some "void cf_each(void (*visit)(CF_Item* item), CF_List* list)", [], none⟩)

theorem sampleVisitor_takesParameters :
    TakesParameters "void cf_each(void (*visit)(CF_Item* item), CF_List* list)".toList "void cf_each".toList
      "void (*visit)(CF_Item* item), CF_List* list".toList :=
  ⟨by decide +kernel, by decide, by decide⟩

theorem parameters_searched_iff_sampleVisitor :
    sampleVisitor ∈ (run [.add sampleVisitor]).records ∧
      '(' ∈ "void (*visit)(CF_Item* item), CF_List* list".toList ∧
      sampleVisitor ∈ ((run [.add sampleVisitor]).typeUsage "VISIT" .input).inputs ∧
      ¬∀ (typeName : String) (direction : Direction), direction ≠ .output →
        (sampleVisitor ∈ ((run [.add sampleVisitor]).typeUsage typeName direction).inputs ↔
          lowercase typeName.toList <:+: lowercase "void (*visit)(CF_Item* item), CF_List* list".toList) := by
  have member : sampleVisitor ∈ (run [.add sampleVisitor]).records := by decide +kernel
  obtain ⟨searched, whole⟩ := parameters_searched_iff member rfl sampleVisitor_takesParameters
  have nested : '(' ∈ "void (*visit)(CF_Item* item), CF_List* list".toList := by decide
  exact ⟨member, nested, (searched "VISIT" .input (by decide)).mpr (by decide +kernel),
    fun all => whole.mp all nested⟩

/-- A parameter after a callback is not found: the search ends where the callback's name does. -/
theorem parameter_after_callback_missed :
    sampleVisitor ∈ (run [.add sampleVisitor]).records ∧
      TakesParameters "void cf_each(void (*visit)(CF_Item* item), CF_List* list)".toList "void cf_each".toList
        "void (*visit)(CF_Item* item), CF_List* list".toList ∧
      lowercase "CF_List".toList <:+: lowercase "void (*visit)(CF_Item* item), CF_List* list".toList ∧
      (run [.add sampleVisitor]).typeUsage "CF_List" .input = ⟨[], []⟩ ∧
      (run [.add sampleVisitor]).typeUsage "CF_List" .both = ⟨[], []⟩ :=
  ⟨by decide +kernel, sampleVisitor_takesParameters, by decide +kernel, by decide +kernel, by decide +kernel⟩

end Catalog

end ApiAtlas
