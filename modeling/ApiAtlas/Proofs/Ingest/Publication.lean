import ApiAtlas.Ingest.Source
import ApiAtlas.Proofs.Ingest.Contents

/-! # What a build publishes

A build that starts from a directory of headers cannot fail: files that are no text are passed over, every
text gives some list of records, and guides are only looked for where there is a directory. A build that
finds no directory publishes nothing. So what is published is a whole catalog or stays what it was.
-/

namespace ApiAtlas

theorem Ingest.exists_build_eq_ok {around : Surroundings} {headers : String}
    (there : around.isDirectory headers = true) : ∃ catalog, build around headers = .ok catalog := by
  rw [build, headerDirectory, if_pos there]
  cases path : guidesPath? around headers with
  | none => exact ⟨_, rfl⟩
  | some directory =>
    have stands := (guidesPath?_eq_some_iff.mp path).isDirectory
    simp only [guideDirectory, if_pos stands]
    exact ⟨_, rfl⟩

namespace Source

variable {around : Surroundings} {user : UserDirectories} {options : SourceOptions}

/-- The headers that options ask for can be looked up without a download: they are named, a download is
not wanted, or the cache has some. -/
def Offline (around : Surroundings) (user : UserDirectories) (options : SourceOptions) : Prop :=
  options.root.isSome = true ∨ options.download = false ∨
    isPopulated around (wantedHeaders user options) = true

theorem Offline.headersPath_eq (offline : Offline around user options) :
    headersPath around user options = .ok (wantedHeaders user options) := by
  have reached : (options.root.isNone && options.download &&
      !isPopulated around (wantedHeaders user options)) = false := by
    rcases offline with named | unwanted | cached
    · rw [← Option.not_isSome, named]
      rfl
    · rw [unwanted, Bool.and_false, Bool.false_and]
    · rw [cached, Bool.not_true, Bool.and_false]
  rw [headersPath, reached]
  rfl

/-- A catalog is built exactly where the headers are a directory. -/
theorem Offline.catalog_eq (offline : Offline around user options) :
    catalog around user options =
      if around.isDirectory (wantedHeaders user options) then Ingest.build around (wantedHeaders user options)
      else .error (.noSource (wantedHeaders user options)) := by
  rw [catalog, offline.headersPath_eq]
  rfl

/-- A build from a directory publishes the whole catalog of its headers and guides, whatever is in the files.
Without the directory nothing changes. -/
theorem publish_whole_or_unchanged (offline : Offline around user options) (published : Option Catalog) :
    ∃ headers, headersPath around user options = .ok headers ∧
      (around.isDirectory headers = true →
        ∃ built, Ingest.build around headers = .ok built ∧
          publish published (catalog around user options) = some built ∧
          (around.tree.WellFormed → ∃ records guides, Ingest.HeadersOf around headers records ∧
            Ingest.GuidesOf around headers guides ∧ built.Joins records guides)) ∧
      (around.isDirectory headers = false →
        publish published (catalog around user options) = published) := by
  refine ⟨wantedHeaders user options, offline.headersPath_eq, fun there => ?_, fun absent => ?_⟩
  · obtain ⟨built, whole⟩ := Ingest.exists_build_eq_ok there
    refine ⟨built, whole, ?_, fun proper => ?_⟩
    · rw [offline.catalog_eq, if_pos there, whole]
      rfl
    · obtain ⟨records, guides, held, given, joined⟩ := Ingest.build_ok proper there
      obtain rfl := Except.ok.inj (whole.symm.trans joined)
      exact ⟨records, guides, held, given, Ingest.joins_addGuides given.names_nodup⟩
  · rw [offline.catalog_eq, absent]
    rfl

/-- Headers with an open comment and with bytes that are no text, and guides whose order is no file. -/
def damagedFiles : Surroundings :=
  ⟨⟨[(["work"], .directory), (["work", "include"], .directory),
    (["work", "include", "a.h"], .file "/** @function f".toUTF8),
    (["work", "include", "b.h"], .file ⟨#[0xFF]⟩),
    (["work", "include", "c.h"], .file "/**\n@struct S\n*/ /**/ @enum".toUTF8),
    (["work", "topics"], .directory), (["work", "topics", "index.md"], .directory),
    (["work", "topics", "input.md"], .file ⟨#[0xC0, 0x80]⟩)]⟩, ["work"]⟩

/-- A user with a home directory and no place for caches. -/
def plainUser : UserDirectories := ⟨some "/home", none, "/tmp"⟩

theorem publish_whole_or_unchanged_damagedFiles :
    Offline damagedFiles plainUser ⟨some "include", true, none⟩ ∧
      (∃ built, Ingest.build damagedFiles "include" = .ok built ∧ built.records.map Record.name = ["S"] ∧
        publish (some .empty) (catalog damagedFiles plainUser ⟨some "include", true, none⟩) = some built) ∧
      Offline damagedFiles plainUser ⟨none, false, none⟩ ∧
      publish (some .empty) (catalog damagedFiles plainUser ⟨none, false, none⟩) = some .empty := by
  have named : Offline damagedFiles plainUser ⟨some "include", true, none⟩ := .inl rfl
  have unwanted : Offline damagedFiles plainUser ⟨none, false, none⟩ := .inr (.inl rfl)
  refine ⟨named, ?_, unwanted, ?_⟩
  · obtain ⟨headers, resolved, whole, -⟩ := publish_whole_or_unchanged named (some .empty)
    obtain rfl : "include" = headers := Except.ok.inj (named.headersPath_eq.symm.trans resolved)
    obtain ⟨built, done, shown, -⟩ := whole (by decide +kernel)
    have names : (Ingest.build damagedFiles "include").toOption.map (·.records.map Record.name) = some ["S"] := by
      decide +kernel
    exact ⟨built, done, by simpa [done, Except.toOption] using names, shown⟩
  · obtain ⟨headers, resolved, -, unchanged⟩ := publish_whole_or_unchanged unwanted (some .empty)
    have found := Except.ok.inj (unwanted.headersPath_eq.symm.trans resolved)
    exact unchanged (found ▸ by decide +kernel)

end Source

end ApiAtlas
