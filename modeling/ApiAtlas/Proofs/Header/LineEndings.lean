import ApiAtlas.Proofs.Header.Seam
import Mathlib.Data.List.Forall2

/-! # Line endings

A text may end its lines with a carriage return and a line feed where another one has a line feed alone. Lines, blocks
and line numbers do not see the difference, so neither do tags and signatures. Only the items of a struct or an enum
are read from the text between the lines; a record keeps everything else.
-/

namespace ApiAtlas.Text

/-- The text with a carriage return before every line feed. -/
def withReturns (s : List Char) : List Char :=
  replaceChar '\n' ['\r', '\n'] s

section WithReturns

variable {s : List Char} {c : Char}

@[simp]
theorem withReturns_nil : withReturns [] = [] := rfl

theorem withReturns_feed (s : List Char) : withReturns ('\n' :: s) = '\r' :: '\n' :: withReturns s :=
  replaceChar_cons_self '\n' ['\r', '\n'] s

theorem withReturns_cons (plain : c ≠ '\n') (s : List Char) : withReturns (c :: s) = c :: withReturns s := by
  simp [withReturns, replaceChar, plain]

theorem withReturns_append (s t : List Char) : withReturns (s ++ t) = withReturns s ++ withReturns t :=
  replaceChar_append '\n' ['\r', '\n'] s t

theorem withReturns_of_free (free : '\n' ∉ s) : withReturns s = s :=
  replaceChar_of_not_mem free ['\r', '\n']

theorem lineFeeds_withReturns (s : List Char) : lineFeeds (withReturns s) = lineFeeds s := by
  induction s with
  | nil => rfl
  | cons c rest ih =>
    unfold lineFeeds at ih ⊢
    by_cases feed : c = '\n'
    · subst feed
      rw [withReturns_feed, List.count_cons_of_ne (by decide), List.count_cons_self, ih, List.count_cons_self]
    · rw [withReturns_cons feed, List.count_cons_of_ne feed, ih, List.count_cons_of_ne feed]

/-- A text begins as before with anything that has no line ending in it. -/
theorem isPrefix_withReturns_iff {needle : List Char} (feedless : '\n' ∉ needle) (returnless : '\r' ∉ needle) :
    needle <+: withReturns s ↔ needle <+: s := by
  induction needle generalizing s with
  | nil => simp
  | cons d more ih =>
    rw [List.mem_cons, not_or] at feedless returnless
    cases s with
    | nil => simp
    | cons c rest =>
      by_cases feed : c = '\n'
      · subst feed
        rw [withReturns_feed, List.cons_prefix_cons, List.cons_prefix_cons]
        exact iff_of_false (fun starts => returnless.1 starts.1.symm) fun starts => feedless.1 starts.1.symm
      · rw [withReturns_cons feed, List.cons_prefix_cons, List.cons_prefix_cons, ih feedless.2 returnless.2]

theorem dropReturn_append_return (line : List Char) : dropReturn (line ++ ['\r']) = line := by
  simp [dropReturn]

/-- The carriage returns are part of the line ends. -/
theorem lines_withReturns (returnless : '\r' ∉ s) : lines (withReturns s) = lines s := by
  -- The induction goes line by line: the text up to the first line feed is taken off.
  induction size : s.length using Nat.strong_induction_on generalizing s with
  | _ n ih =>
    subst size
    by_cases feeds : '\n' ∈ s
    · obtain ⟨line, rest, rfl, free⟩ := List.eq_append_cons_of_mem feeds
      rw [List.mem_append, List.mem_cons, not_or, not_or] at returnless
      have tail := ih rest.length (by simp only [List.length_append, List.length_cons]; omega) returnless.2.2 rfl
      have ended : withReturns (line ++ '\n' :: rest) = line ++ ['\r'] ++ '\n' :: withReturns rest := by
        rw [withReturns_append, withReturns_of_free free, withReturns_feed]
        simp
      have bare : dropReturn line = line :=
        dropReturn_eq_self fun last => returnless.1 (List.mem_of_mem_getLast? last)
      rw [ended, lines_append_feed, lines_append_feed, splitBy_feed_of_free free,
        splitBy_feed_of_free (by simpa using free), tail, List.map_singleton, List.map_singleton,
        dropReturn_append_return, bare]
    · rw [withReturns_of_free feeds]

theorem trimStart_withReturns (s : List Char) : trimStart (withReturns s) = withReturns (trimStart s) := by
  induction s with
  | nil => rfl
  | cons c rest ih =>
    by_cases feed : c = '\n'
    · subst feed
      rw [withReturns_feed, trimStart_cons_of_blank (by decide), trimStart_cons_of_blank (by decide),
        trimStart_cons_of_blank (by decide), ih]
    · cases blank : isBlank c with
      | true => rw [withReturns_cons feed, trimStart_cons_of_blank blank, trimStart_cons_of_blank blank, ih]
      | false =>
        have kept (t : List Char) : trimStart (c :: t) = c :: t := trimStart_eq_self_iff.mpr (by simpa using blank)
        rw [withReturns_cons feed, kept, kept, withReturns_cons feed]

theorem trimEnd_withReturns (s : List Char) : trimEnd (withReturns s) = withReturns (trimEnd s) := by
  induction s using List.reverseRecOn with
  | nil => rfl
  | append_singleton front c ih =>
    rw [withReturns_append]
    by_cases feed : c = '\n'
    · subst feed
      rw [withReturns_feed, withReturns_nil, List.append_cons, trimEnd_append_blank (by decide),
        trimEnd_append_blank (by decide), trimEnd_append_blank (by decide), ih]
    · rw [withReturns_cons feed, withReturns_nil]
      cases blank : isBlank c with
      | true => rw [trimEnd_append_blank blank, trimEnd_append_blank blank, ih]
      | false =>
        have kept (t : List Char) : trimEnd (t ++ [c]) = t ++ [c] := trimEnd_append_cons blank t []
        rw [kept, kept, withReturns_append, withReturns_cons feed, withReturns_nil]

theorem trim_withReturns (s : List Char) : trim (withReturns s) = withReturns (trim s) := by
  rw [trim, trimStart_withReturns, trimEnd_withReturns, trim]

end WithReturns

end ApiAtlas.Text

namespace ApiAtlas.Header

open Text

variable {s : List Char}

theorem closing?_cons {c : Char} {rest : List Char} (other : c = '*' → ¬['/'] <+: rest) :
    closing? (c :: rest) = (closing? rest).map fun (inside, after) => (c :: inside, after) := by
  rw [closing?]
  intro more star starts
  exact other star ⟨more, starts.symm⟩

theorem closing?_withReturns (s : List Char) :
    closing? (withReturns s) = (closing? s).map fun (inside, after) => (withReturns inside, withReturns after) := by
  fun_induction closing? s with
  | case1 => rfl
  | case2 rest =>
    rw [withReturns_cons (by decide), withReturns_cons (by decide)]
    rfl
  | case3 c rest other ih =>
    by_cases feed : c = '\n'
    · subst feed
      rw [withReturns_feed, closing?_cons (by simp), closing?_cons (by simp), ih]
      cases closing? rest <;> simp [withReturns_feed]
    · have closes : c = '*' → ¬['/'] <+: withReturns rest := by
        rw [isPrefix_withReturns_iff (by decide) (by decide)]
        rintro star ⟨more, starts⟩
        exact other more star starts.symm
      rw [withReturns_cons feed, closing?_cons closes, ih]
      cases closing? rest <;> simp [withReturns_cons feed]

theorem commentPattern_withReturns (s : List Char) :
    commentPattern (withReturns s) = (commentPattern s).map (Prod.map withReturns withReturns) := by
  by_cases opened : ['/', '*', '*'] <+: s
  · obtain ⟨body, rfl⟩ := opened
    have shape (t : List Char) : withReturns (['/', '*', '*'] ++ t) = '/' :: '*' :: '*' :: withReturns t := by
      rw [withReturns_append]
      rfl
    rw [shape, commentPattern, closing?_withReturns, List.cons_append, List.cons_append, List.cons_append,
      List.nil_append, commentPattern]
    cases closing? body with
    | none => rfl
    | some result =>
      have whole := shape result.1
      simp only [List.cons_append, List.nil_append] at whole
      simp [whole]
  · rw [commentPattern_eq_none opened, commentPattern_eq_none]
    · rfl
    · rwa [isPrefix_withReturns_iff (by decide) (by decide)]

/-- The same comments are found, each with the code it owns. -/
theorem comments_withReturns (s : List Char) :
    comments (withReturns s) =
      (withReturns (comments s).1, (comments s).2.map (Prod.map withReturns withReturns)) := by
  induction s using comments_induction with
  | nil => rfl
  | comment comment after found ih =>
    have same := commentPattern_withReturns (comment ++ after)
    rw [found, withReturns_append] at same
    rw [withReturns_append, comments_append_of_eq_some same, ih, comments_append_of_eq_some found]
    rfl
  | plain c rest plain ih =>
    have same := commentPattern_withReturns (c :: rest)
    rw [plain] at same
    by_cases feed : c = '\n'
    · subst feed
      rw [withReturns_feed] at same ⊢
      rw [comments_cons_of_eq_none same, comments_cons_of_eq_none (commentPattern_eq_none (by simp)), ih,
        comments_cons_of_eq_none plain, withReturns_feed]
    · rw [withReturns_cons feed] at same ⊢
      rw [comments_cons_of_eq_none same, ih, comments_cons_of_eq_none plain, withReturns_cons feed]

/-- A block with a carriage return before every line feed, on the same line. -/
def Block.withReturns (block : Block) : Block :=
  { block with comment := Text.withReturns block.comment, code := Text.withReturns block.code }

theorem numberBlocks_withReturns (feeds : Nat) (found : List (List Char × List Char)) :
    numberBlocks feeds (found.map (Prod.map withReturns withReturns)) =
      (numberBlocks feeds found).map Block.withReturns := by
  induction found generalizing feeds with
  | nil => rfl
  | cons pair rest ih =>
    obtain ⟨comment, code⟩ := pair
    rw [List.map_cons, Prod.map_apply, numberBlocks, ih, lineFeeds_withReturns, lineFeeds_withReturns, numberBlocks]
    rfl

theorem blocks_withReturns (s : List Char) : blocks (withReturns s) = (blocks s).map Block.withReturns := by
  rw [blocks_eq, comments_withReturns, lineFeeds_withReturns, numberBlocks_withReturns, blocks_eq]

theorem tags_withReturns {comment : List Char} (returnless : '\r' ∉ comment) :
    tags (withReturns comment) = tags comment := by
  rw [tags, lines_withReturns returnless, tags]

theorem signature?_withReturns {code : List Char} (returnless : '\r' ∉ code) :
    signature? (withReturns code) = signature? code := by
  rw [signature?, lines_withReturns returnless, signature?]

/-- Two records are the same, but for the items if they are structs or enums. -/
structure AgreesUpToItems (left right : Record) : Prop where
  name : left.name = right.name
  kind : left.kind = right.kind
  category : left.category = right.category
  brief : left.brief = right.brief
  remarks : left.remarks = right.remarks
  exampleCode : left.exampleCode = right.exampleCode
  exampleBrief : left.exampleBrief = right.exampleBrief
  related : left.related = right.related
  source : left.source = right.source
  function : ∀ function, right.details = .function function → left.details = .function function

/-- What a comment names is the same, and of a function all that is said about it. -/
theorem subject?_withReturns (tags : List Tag) {code : List Char} (returnless : '\r' ∉ code) :
    Option.Rel (fun left right => left.1 = right.1 ∧ left.2.kind = right.2.kind ∧
        ∀ function, right.2 = .function function → left.2 = .function function)
      (subject? tags (withReturns code)) (subject? tags code) := by
  rw [subject?, subject?, signature?_withReturns returnless]
  cases value? "function" tags with
  | some name => exact .some ⟨rfl, rfl, fun _ same => same⟩
  | none =>
    cases value? "struct" tags with
    | some name => exact .some ⟨rfl, rfl, fun _ same => by cases same⟩
    | none =>
      cases value? "enum" tags with
      | some name => exact .some ⟨rfl, rfl, fun _ same => by cases same⟩
      | none => exact .none

theorem Block.record?_withReturns {block : Block} (comment : '\r' ∉ block.comment) (code : '\r' ∉ block.code)
    (file : String) : Option.Rel AgreesUpToItems (block.withReturns.record? file) (block.record? file) := by
  have trimmed : '\r' ∉ trim block.code := fun inside => code (mem_of_mem_trim inside)
  have same := subject?_withReturns (tags block.comment) trimmed
  rw [← trim_withReturns] at same
  simp only [Block.record?, Block.withReturns, tags_withReturns comment]
  generalize subject? (tags block.comment) (trim (Text.withReturns block.code)) = left at same ⊢
  generalize subject? (tags block.comment) (trim block.code) = right at same ⊢
  cases same with
  | none => exact .none
  | some agree =>
    obtain ⟨named, kind, function⟩ := agree
    exact .some ⟨named, kind, rfl, rfl, rfl, rfl, rfl, rfl, rfl, function⟩

/-- A header is read the same with either line ending: as many records in the same order, which agree in all but the
items of structs and enums. -/
theorem records_withReturns (returnless : '\r' ∉ s) (file : String) :
    List.Forall₂ AgreesUpToItems (records file (withReturns s)) (records file s) := by
  have known : List.Forall₂ (fun left right => left = right ∧ right ∈ blocks s) (blocks s) (blocks s) :=
    List.forall₂_same.mpr fun block member => ⟨rfl, member⟩
  rw [records, blocks_withReturns, List.filterMap_map, records]
  refine List.rel_filterMap ?_ known
  rintro block _ ⟨rfl, member⟩
  obtain ⟨before, after, rfl, -⟩ := Block.exists_split member
  simp only [List.mem_append, not_or] at returnless
  exact Block.record?_withReturns returnless.1.1.2 returnless.1.2 file

/-- A header whose tags and whose declaration go on over several lines. -/
def wrappedHeader : List Char :=
  "/**\n * @function cf_f\n * @remarks First.\n *   Second.\n * @param a One,\n *   or two.\n */\nCF_API int\ncf_f(int a);\n\n/**\n * @struct S\n */\nstruct S\n".toList

theorem records_withReturns_wrappedHeader : '\r' ∉ wrappedHeader ∧
    List.Forall₂ AgreesUpToItems (records "f.h" (withReturns wrappedHeader)) (records "f.h" wrappedHeader) ∧
    records "f.h" wrappedHeader =
      [{ Record.ofDetails "cf_f" (.function ⟨some "int cf_f(int a)", [⟨"a", "One,\n  or two."⟩], none⟩) with
          remarks := some "First.\n  Second.", source := some ⟨"f.h", some 1⟩ },
        { Record.ofDetails "S" (.struct []) with source := some ⟨"f.h", some 11⟩ }] := by
  have returnless : '\r' ∉ wrappedHeader := by decide +kernel
  exact ⟨returnless, records_withReturns returnless "f.h", by decide +kernel⟩

-- Members are read from the text itself: blanks that are not all line feeds are an empty declaration.
example : members (withReturns "/* @member A. */\n/* B. */\nint b;".toList) = [] ∧
    members "/* @member A. */\n/* B. */\nint b;".toList = [⟨"int b", "A. */\n/* B."⟩] := by
  decide +kernel

end ApiAtlas.Header
