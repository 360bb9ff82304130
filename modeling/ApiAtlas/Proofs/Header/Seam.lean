import ApiAtlas.Proofs.Header.RoundTrip

/-! # Headers put together

A text that leaves no documentation comment open can be followed by a text that begins with one: the
blocks of the whole are the blocks of the two parts, and only the lines of the second part move. The
comments of a text are followed from left to right; at each step a text is empty, begins with a
documentation comment, or begins with a plain character.
-/

namespace ApiAtlas.Header

open Text

variable {s inside comment after : List Char}

theorem closing?_eq_append (found : closing? s = some (inside, after)) : s = inside ++ after := by
  fun_induction closing? s generalizing inside with
  | case1 => simp at found
  | case2 rest =>
    obtain ⟨rfl, rfl⟩ : ['*', '/'] = inside ∧ rest = after := by simpa using found
    rfl
  | case3 c rest _ ih =>
    obtain ⟨⟨front, back⟩, later, shape⟩ := Option.map_eq_some_iff.mp found
    obtain ⟨rfl, rfl⟩ : c :: front = inside ∧ back = after := by simpa using shape
    rw [ih later, List.cons_append]

/-- A closing mark stays the first one whatever follows. -/
theorem closing?_append_right (found : closing? s = some (inside, after)) (rest : List Char) :
    closing? (s ++ rest) = some (inside, after ++ rest) := by
  fun_induction closing? s generalizing inside with
  | case1 => simp at found
  | case2 tail =>
    obtain ⟨rfl, rfl⟩ : ['*', '/'] = inside ∧ tail = after := by simpa using found
    rfl
  | case3 c tail other ih =>
    obtain ⟨⟨front, back⟩, later, shape⟩ := Option.map_eq_some_iff.mp found
    obtain ⟨rfl, rfl⟩ : c :: front = inside ∧ back = after := by simpa using shape
    rw [List.cons_append, closing?, ih later]
    · rfl
    · intro more star starts
      subst star
      cases tail with
      | nil => simp [closing?] at later
      | cons d others =>
        obtain ⟨rfl, -⟩ : d = '/' ∧ _ := by simpa using starts
        exact other others rfl rfl

/-- A closing mark is looked for from left to right. -/
theorem exists_of_closing?_eq_some (found : closing? s = some (inside, after)) :
    ∃ text, inside = text ++ ['*', '/'] ∧ ¬['*', '/'] <:+: text := by
  fun_induction closing? s generalizing inside with
  | case1 => simp at found
  | case2 rest =>
    obtain ⟨rfl, -⟩ : ['*', '/'] = inside ∧ rest = after := by simpa using found
    exact ⟨[], rfl, by simp⟩
  | case3 c rest other ih =>
    obtain ⟨⟨front, back⟩, later, shape⟩ := Option.map_eq_some_iff.mp found
    obtain ⟨rfl, rfl⟩ : c :: front = inside ∧ back = after := by simpa using shape
    obtain ⟨text, rfl, unclosed⟩ := ih later
    refine ⟨c :: text, rfl, ?_⟩
    rw [List.infix_cons_iff, not_or]
    refine ⟨?_, unclosed⟩
    rintro ⟨more, starts⟩
    obtain ⟨rfl, tail⟩ : '*' = c ∧ '/' :: more = text := by simpa using starts
    refine other (more ++ ['*', '/'] ++ back) rfl ?_
    rw [closing?_eq_append later, ← tail]
    rfl

theorem closing?_eq_none_iff : closing? s = none ↔ ¬['*', '/'] <:+: s := by
  fun_induction closing? s with
  | case1 => simp
  | case2 rest =>
    refine iff_of_false (by simp) (not_not_intro ?_)
    exact ⟨[], rest, rfl⟩
  | case3 c rest other ih =>
    rw [Option.map_eq_none_iff, ih, List.infix_cons_iff, not_or, iff_and_self]
    rintro - ⟨more, starts⟩
    obtain ⟨rfl, tail⟩ : '*' = c ∧ '/' :: more = rest := by simpa using starts
    exact other more rfl tail.symm

/-- What it takes for a text to begin with a documentation comment. -/
theorem commentPattern_eq_some_iff : commentPattern s = some (comment, after) ↔
    ∃ body inside, s = '/' :: '*' :: '*' :: body ∧ closing? body = some (inside, after) ∧
      comment = '/' :: '*' :: '*' :: inside := by
  constructor
  · intro found
    unfold commentPattern at found
    split at found
    · rename_i body
      obtain ⟨⟨inside, back⟩, closed, shape⟩ := Option.map_eq_some_iff.mp found
      obtain ⟨rfl, rfl⟩ : '/' :: '*' :: '*' :: inside = comment ∧ back = after := by simpa using shape
      exact ⟨body, inside, rfl, closed, rfl⟩
    · simp at found
  · rintro ⟨body, inside, rfl, closed, rfl⟩
    rw [commentPattern, closed, Option.map_some]

/-- A documentation comment is cut off the beginning of a text. -/
theorem commentPattern_eq_append (found : commentPattern s = some (comment, after)) :
    s = comment ++ after ∧ comment.head? = some '/' := by
  obtain ⟨body, inside, rfl, closed, rfl⟩ := commentPattern_eq_some_iff.mp found
  rw [closing?_eq_append closed]
  exact ⟨rfl, rfl⟩

theorem commentPattern_append_right (found : commentPattern s = some (comment, after)) (rest : List Char) :
    commentPattern (s ++ rest) = some (comment, after ++ rest) := by
  obtain ⟨body, inside, rfl, closed, rfl⟩ := commentPattern_eq_some_iff.mp found
  exact commentPattern_eq_some_iff.mpr ⟨body ++ rest, inside, rfl, closing?_append_right closed rest, rfl⟩

/-- A text begins with a complete documentation comment. -/
def StartsWithComment (s : List Char) : Prop :=
  ∃ inside rest, s = "/**".toList ++ inside ++ "*/".toList ++ rest

theorem StartsWithComment.commentPattern_isSome (starts : StartsWithComment s) :
    ∃ comment after, commentPattern s = some (comment, after) := by
  obtain ⟨inside, rest, rfl⟩ := starts
  have closes : closing? (inside ++ '*' :: '/' :: rest) ≠ none := by
    rw [ne_eq, closing?_eq_none_iff, not_not]
    exact ⟨inside, rest, by simp⟩
  obtain ⟨⟨front, back⟩, closed⟩ := Option.ne_none_iff_exists'.mp closes
  exact ⟨_, back, commentPattern_eq_some_iff.mpr ⟨_, front, by simp, closed, rfl⟩⟩

/-- A text is empty, begins with a documentation comment, or begins with a plain character. -/
@[elab_as_elim]
theorem comments_induction {motive : List Char → Prop} (nil : motive [])
    (comment : ∀ comment after, commentPattern (comment ++ after) = some (comment, after) →
      motive after → motive (comment ++ after))
    (plain : ∀ c rest, commentPattern (c :: rest) = none → motive rest → motive (c :: rest))
    (s : List Char) : motive s := by
  induction size : s.length using Nat.strongRecOn generalizing s with
  | ind n ih =>
    cases s with
    | nil => exact nil
    | cons c rest =>
      cases found : commentPattern (c :: rest) with
      | none => exact plain c rest found (ih rest.length (by simp [← size]) rest rfl)
      | some result =>
        obtain ⟨first, after⟩ := result
        obtain ⟨whole, slash⟩ := commentPattern_eq_append found
        have shorter : after.length < n := by
          have filled : 0 < first.length := List.length_pos_of_mem (List.mem_of_head? slash)
          rw [← size, whole, List.length_append]
          omega
        rw [whole] at found ⊢
        exact comment first after found (ih after.length shorter after rfl)

theorem comments_nil : comments [] = ([], []) := rfl

theorem comments_append_of_eq_some (found : commentPattern (comment ++ after) = some (comment, after)) :
    comments (comment ++ after) = ([], (comment, (comments after).1) :: (comments after).2) := by
  obtain ⟨rest, rfl⟩ := List.head?_eq_some_iff.mp (commentPattern_eq_append found).2
  have announced : (Sum.inr ('/' :: rest) : Char ⊕ List Char).getRight? = some ('/' :: rest) := rfl
  rw [List.cons_append] at found ⊢
  rw [comments, scan_cons_of_eq_some found (List.suffix_append rest after), groupBy_cons_of_eq_some announced]
  rfl

theorem comments_cons_of_eq_none {c : Char} {rest : List Char} (plain : commentPattern (c :: rest) = none) :
    comments (c :: rest) = (c :: (comments rest).1, (comments rest).2) := by
  rw [comments, scan_cons_of_eq_none plain, groupBy_cons_of_eq_none rfl]
  rfl

/-- Comments with the code they own, as they stand in the text. -/
def joined (found : List (List Char × List Char)) : List Char :=
  found.flatMap fun (comment, code) => comment ++ code

/-- The comments of a text and what stands around them make up the text. -/
theorem comments_join (s : List Char) :
    (comments s).1 ++ joined (comments s).2 = s := by
  induction s using comments_induction with
  | nil => rfl
  | comment comment after found ih =>
    rw [comments_append_of_eq_some found, joined, List.flatMap_cons, ← joined, List.nil_append,
      List.append_assoc, ih]
  | plain c rest plain ih =>
    rw [comments_cons_of_eq_none plain, List.cons_append, ih]

theorem comments_of_unclosed (unclosed : ¬['*', '/'] <:+: s) : comments s = (s, []) := by
  induction s using comments_induction with
  | nil => rfl
  | comment comment after found ih =>
    obtain ⟨body, inside, shape, closed, -⟩ := commentPattern_eq_some_iff.mp found
    have open_ended : ¬['*', '/'] <:+: body := by
      rw [shape] at unclosed
      exact fun later => unclosed (later.trans (List.suffix_append ['/', '*', '*'] body).isInfix)
    rw [closing?_eq_none_iff.mpr open_ended] at closed
    contradiction
  | plain c rest plain ih =>
    rw [comments_cons_of_eq_none plain, ih fun later => unclosed (List.infix_cons later)]

/-- The text after the last documentation comment, or all of it if there is none. -/
def remainder (s : List Char) : List Char :=
  ((comments s).2.getLast?.map Prod.snd).getD (comments s).1

theorem remainder_append_of_eq_some (found : commentPattern (comment ++ after) = some (comment, after)) :
    remainder (comment ++ after) = remainder after := by
  rw [remainder, comments_append_of_eq_some found, remainder, List.getLast?_cons]
  cases (comments after).2.getLast? <;> rfl

theorem remainder_suffix_of_eq_none {c : Char} {rest : List Char} (plain : commentPattern (c :: rest) = none) :
    remainder rest <:+ remainder (c :: rest) := by
  rw [remainder, remainder, comments_cons_of_eq_none plain]
  cases (comments rest).2.getLast? with
  | none => exact List.suffix_cons c _
  | some last => exact List.suffix_rfl

/-- An opening that is never closed stays in the remainder. -/
theorem remainder_of_unclosed {body : List Char} (missing : closing? body = none) :
    remainder ('/' :: '*' :: '*' :: body) = '/' :: '*' :: '*' :: body := by
  have opening : commentPattern ('/' :: '*' :: '*' :: body) = none := by rw [commentPattern, missing]; rfl
  have star (t : List Char) : commentPattern ('*' :: t) = none := commentPattern_eq_none (by simp)
  rw [remainder, comments_cons_of_eq_none opening, comments_cons_of_eq_none (star _),
    comments_cons_of_eq_none (star _), comments_of_unclosed (closing?_eq_none_iff.mp missing)]
  rfl

/-- No documentation comment opens across the seam. -/
theorem commentPattern_append_eq_none {c : Char} {rest t : List Char} (plain : commentPattern (c :: rest) = none)
    (closed : ¬['/', '*', '*'] <:+: remainder (c :: rest)) (starts : StartsWithComment t) :
    commentPattern (c :: (rest ++ t)) = none := by
  apply commentPattern_eq_none
  rintro ⟨more, whole⟩
  obtain ⟨inside, tail, rfl⟩ := starts
  match rest with
  | [] => simp at whole
  | [d] => simp at whole
  | d :: e :: body =>
    obtain ⟨rfl, rfl, rfl, -⟩ : '/' = c ∧ '*' = d ∧ '*' = e ∧ _ := by simpa using whole
    have missing : closing? body = none := Option.map_eq_none_iff.mp plain
    rw [remainder_of_unclosed missing] at closed
    exact closed ⟨[], body, rfl⟩

/-- The comments of a text without an open comment and of a text that begins with one are those of
the two texts, each with the code it had. -/
theorem comments_append {t : List Char} (closed : ¬['/', '*', '*'] <:+: remainder s)
    (starts : StartsWithComment t) :
    comments (s ++ t) = ((comments s).1, (comments s).2 ++ (comments t).2) := by
  induction s using comments_induction with
  | nil =>
    obtain ⟨comment, after, found⟩ := starts.commentPattern_isSome
    obtain ⟨rfl, -⟩ := commentPattern_eq_append found
    rw [List.nil_append, comments_append_of_eq_some found, comments_nil, List.nil_append]
  | comment comment after found ih =>
    rw [remainder_append_of_eq_some found] at closed
    have longer := commentPattern_append_right found t
    rw [List.append_assoc] at longer ⊢
    rw [comments_append_of_eq_some longer, ih closed, comments_append_of_eq_some found, List.cons_append]
  | plain c rest plain ih =>
    have shorter := ih fun opened => closed (opened.trans (remainder_suffix_of_eq_none plain).isInfix)
    rw [List.cons_append, comments_cons_of_eq_none (commentPattern_append_eq_none plain closed starts),
      shorter, comments_cons_of_eq_none plain]

/-- A block some lines further down. -/
def Block.moved (lines : Nat) (block : Block) : Block :=
  { block with line := block.line + lines }

theorem numberBlocks_append (feeds : Nat) (first second : List (List Char × List Char)) :
    numberBlocks feeds (first ++ second) =
      numberBlocks feeds first ++ numberBlocks (feeds + lineFeeds (joined first)) second := by
  induction first generalizing feeds with
  | nil => rfl
  | cons pair rest ih =>
    obtain ⟨comment, code⟩ := pair
    have feedsAfter : feeds + lineFeeds (joined ((comment, code) :: rest)) =
        feeds + lineFeeds comment + lineFeeds code + lineFeeds (joined rest) := by
      rw [joined, List.flatMap_cons, ← joined, lineFeeds_append, lineFeeds_append]
      omega
    rw [List.cons_append, numberBlocks, ih, feedsAfter, numberBlocks, List.cons_append]

theorem numberBlocks_add (feeds lines : Nat) (found : List (List Char × List Char)) :
    numberBlocks (feeds + lines) found = (numberBlocks feeds found).map (Block.moved lines) := by
  induction found generalizing feeds with
  | nil => rfl
  | cons pair rest ih =>
    obtain ⟨comment, code⟩ := pair
    rw [numberBlocks, numberBlocks, List.map_cons, ← ih]
    simp only [Block.moved]
    congr 2 <;> omega

theorem blocks_eq (s : List Char) : blocks s = numberBlocks (lineFeeds (comments s).1) (comments s).2 :=
  rfl

/-- The blocks of two texts put together: those of the first as they were, and those of the second
further down by the lines of the first. -/
theorem blocks_append {t : List Char} (closed : ¬['/', '*', '*'] <:+: remainder s)
    (starts : StartsWithComment t) :
    blocks (s ++ t) = blocks s ++ (blocks t).map (Block.moved (lineFeeds s)) := by
  have nothing : (comments t).1 = [] := by
    obtain ⟨comment, after, found⟩ := starts.commentPattern_isSome
    obtain ⟨rfl, -⟩ := commentPattern_eq_append found
    rw [comments_append_of_eq_some found]
  have feeds : lineFeeds (comments s).1 + lineFeeds (joined (comments s).2) = lineFeeds s := by
    rw [← lineFeeds_append, comments_join]
  rw [blocks_eq, comments_append closed starts, numberBlocks_append, feeds, blocks_eq, blocks_eq, nothing,
    ← numberBlocks_add]
  simp [lineFeeds]

theorem exists_of_mem_numberBlocks {feeds : Nat} {found : List (List Char × List Char)} {block : Block}
    (member : block ∈ numberBlocks feeds found) : ∃ before after,
      found = before ++ (block.comment, block.code) :: after ∧
      block.line = feeds + lineFeeds (joined before) + 1 := by
  induction found generalizing feeds with
  | nil => simp [numberBlocks] at member
  | cons pair rest ih =>
    obtain ⟨comment, code⟩ := pair
    rw [numberBlocks, List.mem_cons] at member
    rcases member with rfl | later
    · exact ⟨[], rest, rfl, rfl⟩
    · obtain ⟨before, after, rfl, line⟩ := ih later
      refine ⟨(comment, code) :: before, after, rfl, ?_⟩
      rw [line, joined, joined, List.flatMap_cons, lineFeeds_append, lineFeeds_append]
      omega

theorem exists_of_mem_comments {pair : List Char × List Char} (member : pair ∈ (comments s).2) :
    ∃ text, pair.1 = "/**".toList ++ text ++ "*/".toList ∧ ¬"*/".toList <:+: text := by
  induction s using comments_induction with
  | nil => simp [comments_nil] at member
  | comment comment after found ih =>
    rw [comments_append_of_eq_some found, List.mem_cons] at member
    rcases member with rfl | later
    · obtain ⟨body, inside, -, closed, shape⟩ := commentPattern_eq_some_iff.mp found
      obtain ⟨text, rfl, unclosed⟩ := exists_of_closing?_eq_some closed
      exact ⟨text, shape, unclosed⟩
    · exact ih later
  | plain c rest plain ih =>
    rw [comments_cons_of_eq_none plain] at member
    exact ih member

/-- A block closes at the first closing mark behind its second star. -/
theorem exists_of_mem_blocks {block : Block} (member : block ∈ blocks s) :
    ∃ text, block.comment = "/**".toList ++ text ++ "*/".toList ∧ ¬"*/".toList <:+: text := by
  rw [blocks_eq] at member
  obtain ⟨before, after, shape, -⟩ := exists_of_mem_numberBlocks member
  have listed : (block.comment, block.code) ∈ (comments s).2 := by rw [shape]; simp
  exact exists_of_mem_comments listed

/-- A block and its code are a part of the text, and the block opens on its line. -/
theorem Block.exists_split {block : Block} (member : block ∈ blocks s) :
    ∃ before after, s = before ++ block.comment ++ block.code ++ after ∧ block.line = lineFeeds before + 1 := by
  rw [blocks_eq] at member
  obtain ⟨before, after, shape, line⟩ := exists_of_mem_numberBlocks member
  refine ⟨(comments s).1 ++ joined before, joined after, ?_, ?_⟩
  · conv_lhs => rw [← comments_join s, shape]
    simp [joined]
  · rw [line, lineFeeds_append]

/-- A block opens on one of the lines of its text. -/
theorem line_le_length_lines {block : Block} (member : block ∈ blocks s) :
    block.line ≤ (lines s).length := by
  obtain ⟨before, after, split, line⟩ := Block.exists_split member
  obtain ⟨text, opening, -⟩ := exists_of_mem_blocks member
  have bound := @lineFeeds_lt_length_lines '/' (by decide) before
    ("**".toList ++ text ++ "*/".toList ++ block.code ++ after)
  have whole : before ++ '/' :: ("**".toList ++ text ++ "*/".toList ++ block.code ++ after) = s := by
    rw [split, opening]
    simp
  rwa [whole, ← Nat.add_one_le_iff, ← line] at bound

/-- A record that was read some lines further down. -/
def movedDown (lines : Nat) (record : Record) : Record :=
  { record with
    source := record.source.map fun place =>
      { place with line := place.line.map (· + UInt32.ofNat lines) } }

theorem lineField_add {line lines : Nat} (fits : line + lines < UInt32.size) :
    lineField (line + lines) = (lineField line).map (· + UInt32.ofNat lines) := by
  rw [lineField, if_pos fits, lineField, if_pos (by omega), Option.map_some, UInt32.ofNat_add]

theorem Block.record?_moved {block : Block} {lines : Nat} (fits : block.line + lines < UInt32.size)
    (file : String) : (block.moved lines).record? file = (block.record? file).map (movedDown lines) := by
  simp only [Block.record?, Block.moved, lineField_add fits, Option.map_map]
  rfl

theorem Block.source_of_record? {block : Block} {file : String} {record : Record}
    (read : block.record? file = some record) : record.source = some ⟨file, lineField block.line⟩ := by
  obtain ⟨subject, -, rfl⟩ := Option.map_eq_some_iff.mp read
  rfl

/-- Reading a header goes part by part: behind a text that leaves no documentation comment open, a text
that begins with one is read as it is read alone, only that its lines are counted on. No block changes
its comment or its code, and no line number overflows while the lines of the whole can be counted. -/
theorem records_append {s t : List Char} (closed : ¬"/**".toList <:+: remainder s)
    (starts : StartsWithComment t) (fits : (lines (s ++ t)).length < UInt32.size) (file : String) :
    records file (s ++ t) = records file s ++ (records file t).map (movedDown (lineFeeds s)) ∧
    blocks (s ++ t) = blocks s ++ (blocks t).map (Block.moved (lineFeeds s)) ∧
    ∀ record ∈ records file t, ∃ line, record.source = some ⟨file, some line⟩ ∧
      (line + UInt32.ofNat (lineFeeds s)).toNat = line.toNat + lineFeeds s := by
  have together := blocks_append closed starts
  have bound : ∀ block ∈ blocks t, block.line + lineFeeds s < UInt32.size := by
    intro block member
    have listed : block.moved (lineFeeds s) ∈ blocks (s ++ t) := by
      rw [together]
      exact List.mem_append_right _ (List.mem_map_of_mem member)
    exact Nat.lt_of_le_of_lt (line_le_length_lines listed) fits
  refine ⟨?_, together, ?_⟩
  · rw [records, together, List.filterMap_append, List.filterMap_map, records, records, List.map_filterMap]
    congr 1
    apply List.filterMap_congr
    intro block member
    exact Block.record?_moved (bound block member) file
  · intro record member
    obtain ⟨block, listed, read⟩ := List.mem_filterMap.mp member
    have room := bound block listed
    obtain ⟨line, field, value⟩ := lineField_of_lt (show block.line < UInt32.size by omega)
    refine ⟨line, by rw [Block.source_of_record? read, field], ?_⟩
    rw [UInt32.toNat_add, UInt32.toNat_ofNat_of_lt' (by omega), value, Nat.mod_eq_of_lt room]

/-- A text with a block and an unfinished plain comment behind it, up to a slash. -/
def sampleFront : List Char := "/** @function cf_f\n */\nint cf_f(void); /* open\n/*/".toList

/-- A text with a nested opening and with a block that documents nothing. -/
def sampleBack : List Char := "/** @enum E /** */\n/** note */\n/**\n@struct S */ s;".toList

theorem records_append_samples : ¬"/**".toList <:+: remainder sampleFront ∧ StartsWithComment sampleBack ∧
    (lines (sampleFront ++ sampleBack)).length < UInt32.size ∧
    records "two.h" (sampleFront ++ sampleBack) =
      records "two.h" sampleFront ++ (records "two.h" sampleBack).map (movedDown 3) ∧
    (records "two.h" (sampleFront ++ sampleBack)).map (fun record => (record.name, record.source)) =
      [("cf_f", some ⟨"two.h", some 1⟩), ("E /**", some ⟨"two.h", some 4⟩), ("S", some ⟨"two.h", some 6⟩)] := by
  have closed : ¬"/**".toList <:+: remainder sampleFront := by decide +kernel
  have starts : StartsWithComment sampleBack :=
    ⟨" @enum E /** ".toList, "\n/** note */\n/**\n@struct S */ s;".toList, by decide +kernel⟩
  have fits : (lines (sampleFront ++ sampleBack)).length < UInt32.size := by decide +kernel
  have together := (records_append closed starts fits "two.h").1
  refine ⟨closed, starts, fits, together, ?_⟩
  rw [together]
  decide +kernel

end ApiAtlas.Header
