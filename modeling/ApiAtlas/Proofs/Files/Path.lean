import ApiAtlas.Proofs.Files.Tree
import ApiAtlas.Proofs.Text.Pieces

/-! # Following written paths

A name with an extension is a stem, a dot and the extension. A path that is extended by a plain name
leads from the directory it leads to by one more step.
-/

namespace ApiAtlas

namespace Path

/-- The last dot of a name parts its stem from its extension, unless it is the first character. -/
theorem splitExtension_append {stem extension : String} (filled : stem ≠ "") (plain : '.' ∉ extension.toList) :
    splitExtension (stem ++ "." ++ extension) = (stem, some extension) := by
  have written : (stem ++ "." ++ extension).toList.reverse =
      extension.toList.reverse ++ '.' :: stem.toList.reverse := by simp
  have last : (extension.toList.reverse ++ '.' :: stem.toList.reverse).takeWhile (· != '.') =
      extension.toList.reverse := by
    rw [List.takeWhile_append_of_pos, List.takeWhile_cons_of_neg (by simp), List.append_nil]
    intro c member
    rw [bne_iff_ne]
    rintro rfl
    exact plain (List.mem_reverse.mp member)
  simp only [splitExtension, written, last, List.drop_left]
  simp [filled]

theorem eq_append_of_extension? {name extension : String} (found : extension? name = some extension) :
    ∃ stem, stem ≠ "" ∧ name = stem ++ "." ++ extension := by
  unfold extension? splitExtension at found
  obtain ⟨last, rest, taken, whole, dotted⟩ : ∃ last rest, name.toList.reverse.takeWhile (· != '.') = last ∧
      name.toList.reverse = last ++ rest ∧ ∀ c stem, rest = c :: stem → c = '.' := by
    refine ⟨_, _, rfl, (List.takeWhile_append_dropWhile (p := (· != '.'))).symm, fun c stem dropped => ?_⟩
    have stopped := List.head?_dropWhile_not (· != '.') name.toList.reverse
    simpa [dropped] using stopped
  simp only [taken] at found
  rw [whole, List.drop_left] at found
  cases rest with
  | nil => simp at found
  | cons c stem =>
    obtain rfl := dotted c stem rfl
    by_cases empty : stem = []
    · simp [empty] at found
    · obtain rfl : String.ofList last.reverse = extension := by simpa [empty] using found
      refine ⟨String.ofList stem.reverse, by simpa [String.ext_iff] using empty, String.ext ?_⟩
      rw [← List.reverse_reverse name.toList, whole]
      simp

/-- A name has an extension if it is a stem, a dot and the extension. -/
theorem extension?_eq_some_iff {name extension : String} (plain : '.' ∉ extension.toList) :
    extension? name = some extension ↔ ∃ stem, stem ≠ "" ∧ name = stem ++ "." ++ extension := by
  refine ⟨eq_append_of_extension?, ?_⟩
  rintro ⟨stem, filled, rfl⟩
  rw [extension?, splitExtension_append filled plain]

theorem stem_append {stem extension : String} (filled : stem ≠ "") (plain : '.' ∉ extension.toList) :
    Path.stem (stem ++ "." ++ extension) = stem := by
  rw [Path.stem, splitExtension_append filled plain]

/-- A name that a step along a path leads down to. -/
structure IsPlain (name : String) : Prop where
  filled : name ≠ ""
  here : name ≠ "."
  upwards : name ≠ ".."
  whole : '/' ∉ name.toList

theorem pieces_slash (base path : String) : pieces (base ++ "/" ++ path) = pieces base ++ pieces path := by
  have written : (base ++ "/" ++ path).toList = base.toList ++ '/' :: path.toList := by simp
  rw [pieces, written, Text.splitBy_append_cons (by rfl), List.map_append, pieces, pieces]

theorem IsPlain.pieces_eq {name : String} (plain : IsPlain name) : pieces name = [name] := by
  rw [pieces, Text.splitBy_of_free, List.map_singleton, String.ofList_toList]
  intro c member
  rw [beq_eq_false_iff_ne]
  rintro rfl
  exact plain.whole member

/-- A slash is written between a path and a name, unless the path ends with one. -/
theorem join_eq {base name : String} (filled : base ≠ "") (plain : IsPlain name) :
    ∃ front, join base name = front ++ "/" ++ name ∧ (base = front ∨ base = front ++ "/") := by
  have relative : isAbsolute name = false := by
    rw [isAbsolute, beq_eq_false_iff_ne]
    exact fun first => plain.whole (List.mem_of_head? first)
  by_cases closed : base.toList.getLast? = some '/'
  · obtain ⟨front, ends⟩ := List.getLast?_eq_some_iff.mp closed
    have split : base = String.ofList front ++ "/" := String.ext (by simp [ends])
    refine ⟨String.ofList front, ?_, .inr split⟩
    rw [join, relative, if_neg (by simp), if_pos (by simp [closed]), ← split]
  · refine ⟨base, ?_, .inl rfl⟩
    rw [join, relative, if_neg (by simp), if_neg (by simp [closed, filled])]

theorem isAbsolute_append {base : String} (filled : base ≠ "") (path : String) :
    isAbsolute (base ++ path) = isAbsolute base := by
  rw [isAbsolute, String.toList_append, List.head?_append_of_ne_nil _ (by simpa using filled), isAbsolute]

end Path

namespace FileTree

variable {tree : FileTree} {start place : List String} {directory name : String}

theorem step?_of_isPlain (there : tree.isDirectory place = true) (plain : Path.IsPlain name) :
    tree.step? place name = if (tree.entry? (place ++ [name])).isSome then some (place ++ [name]) else none := by
  simp [step?, there, plain.filled, plain.here, plain.upwards]

theorem eq_of_step?_empty (stays : tree.step? start "" = some place) : start = place := by
  unfold step? at stays
  rw [if_pos (show ("" = "" || "" = ".") = true by decide)] at stays
  exact Option.some.inj (Option.ite_none_left_eq_some.mp stays).2

/-- A path that is extended by a name leads one step further. -/
theorem resolve?_join (leads : tree.resolve? start directory = some place) (there : tree.isDirectory place = true)
    (plain : Path.IsPlain name) :
    tree.resolve? start (Path.join directory name) =
      if (tree.entry? (place ++ [name])).isSome then some (place ++ [name]) else none := by
  have filled : directory ≠ "" := by
    rintro rfl
    simp [resolve?] at leads
  rw [resolve?, if_neg filled] at leads
  obtain ⟨front, joined, written⟩ := Path.join_eq filled plain
  have origin : Path.isAbsolute (front ++ "/" ++ name) = Path.isAbsolute directory := by
    rcases written with rfl | rfl
    · rw [String.append_assoc, Path.isAbsolute_append filled]
    · rw [Path.isAbsolute_append filled]
  have reached : (Path.pieces front).foldlM tree.step? (if Path.isAbsolute directory then [] else start) =
      some place := by
    rcases written with rfl | rfl
    · exact leads
    · -- The piece after the slash at the end is empty, and the step for it leads nowhere else.
      have split : Path.pieces (front ++ "/") = Path.pieces front ++ [""] := by
        rw [← String.append_empty (s := front ++ "/"), Path.pieces_slash]
        rfl
      rw [split, List.foldlM_append] at leads
      obtain ⟨other, before, stays⟩ := Option.bind_eq_some_iff.mp leads
      obtain rfl : other = place := eq_of_step?_empty (by simpa using stays)
      exact before
  have lengthened : front ++ "/" ++ name ≠ "" := by
    intro empty
    simpa using congrArg String.toList empty
  rw [joined, resolve?, if_neg lengthened, Path.pieces_slash, plain.pieces_eq, List.foldlM_append,
    origin, reached]
  simpa using step?_of_isPlain there plain

end FileTree

end ApiAtlas
