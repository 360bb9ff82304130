import ApiAtlas.Proofs.Header.Seam

/-! # Where blocks end

A comment ends at the first closing mark after the two characters that open it. The search for the end of a block
begins one character later, behind the second star. So the two agree except on the comment that closes with that very
star, the empty one: a block that opens there goes on to the closing mark of the next comment, and has everything in
between as its own.
-/

namespace ApiAtlas.Header

open Text

variable {front comment rest : List Char}

/-- One comment: a slash and a star open it, and the first closing mark after them ends it. -/
def IsComment (s : List Char) : Prop :=
  ∃ inside, s = "/*".toList ++ inside ++ "*/".toList ∧ ¬"*/".toList <:+: inside

/-- What a block spans is one comment, unless it begins with the empty one. -/
theorem isComment_iff {text : List Char} (unclosed : ¬"*/".toList <:+: text) :
    IsComment ("/**".toList ++ text ++ "*/".toList) ↔ ¬"/**/".toList <+: "/**".toList ++ text ++ "*/".toList := by
  have inside : IsComment ("/**".toList ++ text ++ "*/".toList) ↔ ¬"*/".toList <:+: '*' :: text := by
    constructor
    · rintro ⟨other, shape, closed⟩
      have same : '*' :: text ++ ['*', '/'] = other ++ ['*', '/'] := by simpa using shape
      rwa [List.append_cancel_right same]
    · intro closed
      exact ⟨'*' :: text, rfl, closed⟩
  have empty : "/**/".toList <+: "/**".toList ++ text ++ "*/".toList ↔ ['/'] <+: text := by
    cases text <;> simp [List.cons_prefix_cons]
  rw [inside, empty, List.infix_cons_iff, not_or, and_iff_left unclosed]
  simp [List.cons_prefix_cons]

/-- The blocks of a text that is cut around a block: those before it, the block with the code up to the next one, and
those of the rest. -/
def blocksAround (front comment rest : List Char) : List Block :=
  blocks front ++ ⟨lineFeeds front + 1, comment, (comments rest).1⟩ ::
    (blocks rest).map (Block.moved (lineFeeds (front ++ comment)))

theorem blocks_append_of_eq_some (found : commentPattern (comment ++ rest) = some (comment, rest)) :
    blocks (comment ++ rest) =
      ⟨1, comment, (comments rest).1⟩ :: (blocks rest).map (Block.moved (lineFeeds comment)) := by
  rw [blocks_eq, comments_append_of_eq_some found, numberBlocks, blocks_eq, ← numberBlocks_add]
  simp [lineFeeds, Nat.add_comm]

/-- Behind a text that leaves no comment open, a block goes on to the first closing mark behind its second star. -/
theorem blocks_append_span {text : List Char} (closed : ¬"/**".toList <:+: remainder front)
    (unclosed : ¬"*/".toList <:+: text) (rest : List Char) :
    blocks (front ++ ("/**".toList ++ text ++ "*/".toList) ++ rest) =
      blocksAround front ("/**".toList ++ text ++ "*/".toList) rest := by
  have moves : Block.moved (lineFeeds front) ∘ Block.moved (lineFeeds ("/**".toList ++ text ++ "*/".toList)) =
      Block.moved (lineFeeds (front ++ ("/**".toList ++ text ++ "*/".toList))) := by
    funext block
    rw [lineFeeds_append front, Function.comp_apply, Block.moved, Block.moved, Block.moved, Nat.add_right_comm,
      Nat.add_assoc]
  rw [List.append_assoc, blocks_append closed ⟨text, rest, rfl⟩,
    blocks_append_of_eq_some (commentPattern_append unclosed rest), List.map_cons, List.map_map, moves, Block.moved,
    Nat.add_comm 1, blocksAround]

/-- A comment that opens as a block does closes behind the second star, unless it is the empty one. -/
theorem IsComment.exists_text (complete : IsComment comment) (opened : "/**".toList <+: comment)
    (filled : comment ≠ "/**/".toList) :
    ∃ text, comment = "/**".toList ++ text ++ "*/".toList ∧ ¬"*/".toList <:+: text := by
  obtain ⟨inside, rfl, unclosed⟩ := complete
  cases inside with
  | nil => exact absurd rfl filled
  | cons c text =>
    obtain rfl : '*' = c := by simpa [List.cons_prefix_cons] using opened
    exact ⟨text, rfl, fun closes => unclosed (List.infix_cons closes)⟩

/-- A block stands in its text from an opening to the first closing mark behind the second star, and it is one comment
exactly if it does not begin with the empty one. A comment behind a text that leaves none open is a block of its own
exactly if it is not empty. The block of an empty comment goes on to the next closing mark, whatever stands before
that. -/
theorem block_is_one_comment_iff (s : List Char) :
    (∀ block ∈ blocks s,
      (∃ before after, s = before ++ block.comment ++ block.code ++ after ∧ block.line = lineFeeds before + 1) ∧
      (∃ text, block.comment = "/**".toList ++ text ++ "*/".toList ∧ ¬"*/".toList <:+: text) ∧
      (IsComment block.comment ↔ ¬"/**/".toList <+: block.comment)) ∧
    (¬"/**".toList <:+: remainder s →
      (∀ comment rest, IsComment comment → "/**".toList <+: comment →
        (blocks (s ++ comment ++ rest) = blocksAround s comment rest ↔ comment ≠ "/**/".toList)) ∧
      ∀ absorbed rest, ¬"*/".toList <:+: absorbed →
        blocks (s ++ ("/**/".toList ++ absorbed ++ "*/".toList) ++ rest) =
          blocksAround s ("/**/".toList ++ absorbed ++ "*/".toList) rest) := by
  refine ⟨?_, fun closed => ⟨?_, ?_⟩⟩
  · intro block member
    obtain ⟨text, shape, unclosed⟩ := exists_of_mem_blocks member
    refine ⟨Block.exists_split member, ⟨text, shape, unclosed⟩, ?_⟩
    rw [shape]
    exact isComment_iff unclosed
  · intro comment rest complete opened
    constructor
    · rintro split rfl
      have member : ⟨lineFeeds s + 1, "/**/".toList, (comments rest).1⟩ ∈ blocks (s ++ "/**/".toList ++ rest) := by
        rw [split, blocksAround]
        simp
      obtain ⟨text, shape, -⟩ := exists_of_mem_blocks member
      have long := congrArg List.length shape
      simp at long
    · intro filled
      obtain ⟨text, rfl, unclosed⟩ := complete.exists_text opened filled
      exact blocks_append_span closed unclosed rest
  · intro absorbed rest unclosed
    have unclosed_slash : ¬"*/".toList <:+: '/' :: absorbed := by
      rw [List.infix_cons_iff, not_or]
      exact ⟨by simp [List.cons_prefix_cons], unclosed⟩
    exact blocks_append_span closed unclosed_slash rest

/-- A text with a block that leaves no comment open. -/
def sampleOpening : List Char := "/** @struct S */ s;\n".toList

theorem block_is_one_comment_iff_sampleOpening :
    ¬"/**".toList <:+: remainder sampleOpening ∧ IsComment "/***/".toList ∧
      blocks (sampleOpening ++ "/***/".toList ++ " /** b */".toList) =
        [⟨1, "/** @struct S */".toList, " s;\n".toList⟩, ⟨2, "/***/".toList, [' ']⟩, ⟨2, "/** b */".toList, []⟩] ∧
      blocks (sampleOpening ++ ("/**/".toList ++ " int a; /** b ".toList ++ "*/".toList) ++ " b;".toList) =
        [⟨1, "/** @struct S */".toList, " s;\n".toList⟩, ⟨2, "/**/ int a; /** b */".toList, " b;".toList⟩] := by
  have closed : ¬"/**".toList <:+: remainder sampleOpening := by decide +kernel
  obtain ⟨own, absorbs⟩ := (block_is_one_comment_iff sampleOpening).2 closed
  have complete : IsComment "/***/".toList := ⟨['*'], rfl, by decide⟩
  refine ⟨closed, complete, ?_, ?_⟩
  · rw [(own "/***/".toList " /** b */".toList complete (by decide)).mpr (by decide)]
    decide +kernel
  · rw [absorbs " int a; /** b ".toList " b;".toList (by decide)]
    decide +kernel

/-- An empty comment before a documented function. -/
def sampleEmptyComment : List Char := "/**/\nint cf_a; /** @function cf_f */\nint cf_f(void);\n".toList

/-- The empty comment is complete and so is the one that documents the function, but they are one block with the code
between them, and the function is not found. It is found in what follows the empty comment. -/
theorem empty_comment_absorbs_documentation :
    IsComment "/**/".toList ∧ IsComment "/** @function cf_f */".toList ∧
      (blocks sampleEmptyComment).map Block.comment = ["/**/\nint cf_a; /** @function cf_f */".toList] ∧
      ¬IsComment "/**/\nint cf_a; /** @function cf_f */".toList ∧
      records "test.h" sampleEmptyComment = [] ∧
      (records "test.h" (sampleEmptyComment.drop 4)).map (fun record => (record.name, record.source)) =
        [("cf_f", some ⟨"test.h", some 2⟩)] := by
  have absorbs : ¬IsComment "/**/\nint cf_a; /** @function cf_f */".toList := by
    have unclosed : ¬"*/".toList <:+: "/\nint cf_a; /** @function cf_f ".toList := by decide
    exact fun complete => (isComment_iff unclosed).mp complete (by decide)
  exact ⟨⟨[], rfl, by decide⟩, ⟨"* @function cf_f ".toList, rfl, by decide⟩, by decide +kernel, absorbs,
    by decide +kernel, by decide +kernel⟩

end ApiAtlas.Header
