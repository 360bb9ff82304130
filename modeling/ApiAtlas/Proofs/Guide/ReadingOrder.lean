import ApiAtlas.Guide.ReadingOrder
import ApiAtlas.Proofs.Guide.Links

/-! # Numbered items and their places

The items of the page that gives the reading order are described by a grammar for one item and by a walk through the
page that takes an item wherever a line begins with one and goes on behind it. The place of a guide is that of its
last item. Two guides cannot share a place, as one item names one guide.
-/

namespace ApiAtlas.Guide

open Text

/-- A line begins with a numbered item for a guide, and the last text follows it: a number, a full stop, a gap and a
link. Neither the gap nor the text of the link has to end on the line where the number stands. -/
inductive IsItem : List Char → List Char → List Char → Prop
  | mk {digits gap text name after : List Char} (number : digits ≠ [] ∧ ∀ c ∈ digits, isDigit c = true)
      (apart : gap ≠ [] ∧ ∀ c ∈ gap, isBlank c = true) (shown : text ≠ [] ∧ ']' ∉ text) (guide : IsWordText name) :
      IsItem (digits ++ '.' :: (gap ++ '[' :: (text ++ ']' :: '(' :: '.' :: '/' :: (name ++ ".md)".toList ++ after))))
        name after

/-- The guides that the numbered items of a text name, from left to right. The flag says whether a line begins with
the text. -/
inductive Numbered : Bool → List Char → List (List Char) → Prop
  | done (start : Bool) : Numbered start [] []
  | item {line name after : List Char} {names : List (List Char)} (here : IsItem line name after)
      (more : Numbered false after names) : Numbered true line (name :: names)
  | skip {start : Bool} {c : Char} {rest : List Char} {names : List (List Char)}
      (plain : start = true → ∀ name after, ¬IsItem (c :: rest) name after)
      (more : Numbered (c == '\n') rest names) : Numbered start (c :: rest) names

theorem orderItem_eq_some_iff {line name after : List Char} :
    orderItem ('\n' :: line) = some (name, after) ↔ IsItem line name after := by
  simp only [orderItem, Option.bind_eq_bind, Option.bind_eq_some_iff]
  constructor
  · rintro ⟨⟨⟩, number, rest, dot, ⟨⟩, apart, ⟨text, target⟩, linked, guide, here, paged⟩
    have digits : line = line.takeWhile isDigit ++ line.dropWhile isDigit := List.takeWhile_append_dropWhile.symm
    have gap : rest = rest.takeWhile isBlank ++ trimStart rest := List.takeWhile_append_dropWhile.symm
    rw [afterStart?_eq_some_iff] at dot here
    obtain ⟨filled, unclosed, cut⟩ := linkStart_eq_some_iff.mp linked
    obtain ⟨word, rfl⟩ := page_eq_some_iff.mp paged
    obtain rfl : target = _ := here
    rw [Option.guard_eq_some'] at number apart
    rw [digits, dot, gap, cut]
    exact ⟨⟨by simpa using number, fun c => List.mem_takeWhile_imp⟩,
      ⟨by simpa using apart, fun c => List.mem_takeWhile_imp⟩, ⟨filled, unclosed⟩, word⟩
  · rintro ⟨number, apart, shown, guide⟩
    rename_i digits gap text
    have dot (s : List Char) : ∀ c ∈ ('.' :: s).head?, isDigit c = false := by
      simp only [List.head?_cons, Option.mem_some_iff, forall_eq']
      decide
    have bracket (s : List Char) : ∀ c ∈ ('[' :: s).head?, isBlank c = false := by
      simp only [List.head?_cons, Option.mem_some_iff, forall_eq']
      decide
    refine ⟨(), (Option.guard_eq_some' ()).mpr ?_,
      gap ++ '[' :: (text ++ ']' :: '(' :: '.' :: '/' :: (name ++ ".md)".toList ++ after)), ?_,
      (), (Option.guard_eq_some' ()).mpr ?_,
      (text, '.' :: '/' :: (name ++ ".md)".toList ++ after)), ?_,
      name ++ ".md)".toList ++ after, ?_, page_eq_some_iff.mpr ⟨guide, rfl⟩⟩
    · rw [takeWhile_run number.2 (dot _)]
      simpa using number.1
    · rw [dropWhile_run number.2 (dot _)]
      exact afterStart?_eq_some_iff.mpr rfl
    · rw [takeWhile_run apart.2 (bracket _)]
      simpa using apart.1
    · rw [trimStart, dropWhile_run apart.2 (bracket _)]
      exact linkStart_eq_some_iff.mpr ⟨shown.1, shown.2, rfl⟩
    · exact afterStart?_eq_some_iff.mpr rfl

theorem IsItem.suffix {line name after : List Char} (item : IsItem line name after) : after <:+ line := by
  obtain ⟨-, -, -, -⟩ := item
  rename_i digits gap text
  exact ⟨digits ++ '.' :: (gap ++ '[' :: (text ++ ']' :: '(' :: '.' :: '/' :: (name ++ ".md)".toList))), by simp⟩

theorem not_isItem_nil (name after : List Char) : ¬IsItem [] name after := by
  rw [← orderItem_eq_some_iff]
  simp [orderItem]

theorem IsItem.length_lt {line name after : List Char} (item : IsItem line name after) :
    after.length < line.length := by
  obtain ⟨-, -, -, -⟩ := item
  simp only [List.length_append, List.length_cons]
  omega

/-- An item can be read off a line in one way only. -/
theorem IsItem.unique {line name other after rest : List Char} (item : IsItem line name after)
    (again : IsItem line other rest) : name = other ∧ after = rest := by
  rw [← orderItem_eq_some_iff] at item again
  exact Prod.mk.inj (Option.some.inj (item.symm.trans again))

/-- The search for items from a place where a line begins, or from any other place. -/
def itemsFrom (start : Bool) (s : List Char) : List (List Char) :=
  findAll orderItem (if start then '\n' :: s else s)

theorem itemsFrom_true_of_item {line name after : List Char} (item : IsItem line name after) :
    itemsFrom true line = name :: itemsFrom false after :=
  findAll_cons_of_eq_some (orderItem_eq_some_iff.mpr item) item.suffix

theorem itemsFrom_true_of_plain {line : List Char} (plain : ∀ name after, ¬IsItem line name after) :
    itemsFrom true line = itemsFrom false line := by
  apply findAll_cons_of_eq_none
  rw [Option.eq_none_iff_forall_ne_some]
  rintro ⟨name, after⟩ read
  exact plain name after (orderItem_eq_some_iff.mp read)

theorem itemsFrom_false_cons (c : Char) (rest : List Char) :
    itemsFrom false (c :: rest) = itemsFrom (c == '\n') rest := by
  cases feed : c == '\n' with
  | true =>
    obtain rfl := beq_iff_eq.mp feed
    rfl
  | false =>
    apply findAll_cons_of_eq_none
    unfold orderItem
    split
    · rename_i same
      rw [(List.cons.inj same).1] at feed
      contradiction
    · rfl

/-- The search finds what the walk through the text takes. -/
theorem numbered_itemsFrom (start : Bool) (s : List Char) : Numbered start s (itemsFrom start s) := by
  -- The walk goes on behind an item or behind one letter; both leave a shorter text.
  induction size : s.length using Nat.strong_induction_on generalizing start s with
  | _ n ih =>
    subst size
    cases s with
    | nil =>
      have nothing : itemsFrom start [] = [] := by
        cases start with
        | true => rw [itemsFrom_true_of_plain not_isItem_nil]; rfl
        | false => rfl
      rw [nothing]
      exact .done start
    | cons c rest =>
      have skipped := ih rest.length (by simp) (c == '\n') rest rfl
      cases start with
      | false =>
        rw [itemsFrom_false_cons]
        exact .skip (by simp) skipped
      | true =>
        by_cases here : ∃ name after, IsItem (c :: rest) name after
        · obtain ⟨name, after, item⟩ := here
          rw [itemsFrom_true_of_item item]
          exact .item item (ih after.length item.length_lt false after rfl)
        · push Not at here
          rw [itemsFrom_true_of_plain here, itemsFrom_false_cons]
          exact .skip (fun _ => here) skipped

theorem Numbered.unique {start : Bool} {s : List Char} {names others : List (List Char)}
    (walk : Numbered start s names) (again : Numbered start s others) : names = others := by
  induction walk generalizing others with
  | done start =>
    cases again with
    | done => rfl
    | item here _ => exact absurd here (not_isItem_nil _ _)
  | item here _ ih =>
    cases again with
    | done => exact absurd here (not_isItem_nil _ _)
    | item there more =>
      obtain ⟨rfl, rfl⟩ := here.unique there
      rw [ih more]
    | skip plain _ => exact absurd here (plain rfl _ _)
  | skip plain _ ih =>
    cases again with
    | item there _ => exact absurd there (plain rfl _ _)
    | skip _ more => exact ih more

/-- The place is the one of the last item for a guide. -/
def IsLastAt (guides : List String) (guide : String) (place : Nat) : Prop :=
  guides[place]? = some guide ∧ ∀ later, place < later → guides[later]? ≠ some guide

theorem position?_append_singleton (guides : List String) (last guide : String) :
    position? guide (guides ++ [last]) = if last = guide then some guides.length else position? guide guides := by
  have numbered : (guides ++ [last]).zipIdx = guides.zipIdx ++ [(last, guides.length)] := by
    rw [List.zipIdx_append]
    simp
  rw [position?, numbered, List.filter_append, position?]
  split_ifs with same
  · simp [same]
  · simp [same]

theorem position?_eq_some_iff {guides : List String} {guide : String} {place : Nat} :
    position? guide guides = some place ↔ IsLastAt guides guide place := by
  induction guides using List.reverseRecOn with
  | nil => simp [position?, IsLastAt]
  | append_singleton guides last ih =>
    -- The new item is the last one for its own guide and moves no other guide.
    rw [position?_append_singleton]
    split_ifs with same
    · subst same
      rw [Option.some_inj]
      constructor
      · rintro rfl
        refine ⟨by simp, fun later after => ?_⟩
        rw [List.getElem?_eq_none]
        · simp
        · simp only [List.length_append, List.length_singleton]
          omega
      · rintro ⟨present, final⟩
        have bound := (List.getElem?_eq_some_iff.mp present).1
        have ending : ¬place < guides.length := fun before => final guides.length before (by simp)
        simp only [List.length_append, List.length_singleton] at bound
        omega
    · have kept (slot : Nat) : (guides ++ [last])[slot]? = some guide ↔ guides[slot]? = some guide := by
        rw [List.getElem?_append]
        split_ifs with inside
        · rfl
        · have beyond : guides[slot]? = none := List.getElem?_eq_none (not_lt.mp inside)
          cases gap : slot - guides.length with
          | zero => simp [beyond, same]
          | succ n => simp [beyond]
      rw [ih, IsLastAt, IsLastAt]
      simp only [ne_eq, kept]

theorem isSome_position? {guides : List String} {guide : String} :
    (position? guide guides).isSome = true ↔ guide ∈ guides := by
  induction guides using List.reverseRecOn with
  | nil => simp [position?]
  | append_singleton guides last ih =>
    rw [position?_append_singleton]
    split_ifs with same
    · simp [same]
    · simp [ih, Ne.symm same]

theorem mem_positions_iff {guides : List String} {guide : String} {place : Nat} :
    (guide, place) ∈ positions guides ↔ IsLastAt guides guide place := by
  rw [← position?_eq_some_iff]
  simp only [positions, List.mem_filterMap, List.mem_eraseDups, Option.map_eq_some_iff, Prod.mk.injEq]
  constructor
  · rintro ⟨_, -, _, found, rfl, rfl⟩
    exact found
  · intro found
    exact ⟨guide, isSome_position?.mp (by simp [found]), place, found, rfl, rfl⟩

/-- Guides that differ have places that differ. -/
theorem IsLastAt.guide_unique {guides : List String} {guide other : String} {place : Nat}
    (first : IsLastAt guides guide place) (second : IsLastAt guides other place) : guide = other :=
  Option.some.inj (first.1.symm.trans second.1)

theorem eraseDups_eq_firstOccurrences (names : List String) : names.eraseDups = Names.firstOccurrences names := by
  induction names using List.reverseRecOn with
  | nil => rfl
  | append_singleton names last ih =>
    rw [Names.firstOccurrences_append_singleton, ← ih, List.eraseDups_append, Names.insertNew]
    split_ifs with known
    · rw [List.mem_eraseDups] at known
      simp [List.removeAll, known]
    · rw [List.mem_eraseDups] at known
      simp [List.removeAll, known, List.eraseDups_cons]

/-- No guide has two places. -/
theorem nodup_map_fst_positions (guides : List String) : ((positions guides).map Prod.fst).Nodup := by
  apply List.pairwise_map.mpr
  have distinct : guides.eraseDups.Nodup := by
    rw [eraseDups_eq_firstOccurrences]
    exact Names.nodup_firstOccurrences guides
  refine List.Pairwise.filterMap _ ?_ distinct
  rintro left right different _ leftShape _ rightShape
  obtain ⟨_, -, rfl⟩ := Option.map_eq_some_iff.mp leftShape
  obtain ⟨_, -, rfl⟩ := Option.map_eq_some_iff.mp rightShape
  exact different

/-- No place is taken by two guides. -/
theorem nodup_map_snd_positions (guides : List String) : ((positions guides).map Prod.snd).Nodup := by
  refine List.Nodup.map_on ?_ (List.Nodup.of_map _ (nodup_map_fst_positions guides))
  rintro ⟨left, place⟩ leftMember ⟨right, _⟩ rightMember rfl
  rw [mem_positions_iff] at leftMember rightMember
  rw [leftMember.guide_unique rightMember]

/-- The guides of a page and their places, as they are read. -/
structure ReadsOrder (page : List Char) (guides : List String) (places : List (String × Nat)) : Prop where
  /-- The guides are those of the numbered items of the page. -/
  items_iff : ∀ names, Numbered true page names ↔ guides = names.map String.ofList
  /-- The place of a guide is that of its last item, among all items and counted from zero. -/
  places_iff : ∀ guide place, (guide, place) ∈ places ↔ IsLastAt guides guide place
  guides_nodup : (places.map Prod.fst).Nodup
  places_nodup : (places.map Prod.snd).Nodup

theorem readsOrder (page : List Char) : ReadsOrder page (orderedGuides page) (positions (orderedGuides page)) where
  items_iff names := by
    have found : Numbered true page (findAll orderItem ('\n' :: page)) := numbered_itemsFrom true page
    constructor
    · intro walk
      rw [orderedGuides, found.unique walk]
    · intro same
      rw [orderedGuides] at same
      rwa [← List.map_injective_iff.mpr (fun _ _ => String.ofList_injective) same]
  places_iff _ _ := mem_positions_iff
  guides_nodup := nodup_map_fst_positions _
  places_nodup := nodup_map_snd_positions _

-- The written numbers do not matter, an item begins its line, and the last item for a guide counts.
example : positions (orderedGuides "3. [A](./a.md)\n 4. [B](./b.md)\n1. [C](./c.md)\n1. [A](./a.md)".toList) =
    [("a", 2), ("c", 1)] := by decide +kernel

end ApiAtlas.Guide
