import ApiAtlas.Record
import ApiAtlas.Text.Find

/-! # Links to the sources

A header stands in the include directory of the repository, and its implementation, a file of the
same name with another extension, in the source directory.
-/

namespace ApiAtlas

/-- The pages of the repository. -/
def repositoryUrl : String := "https://github.com/RandyGaul/cute_framework"

/-- The plain files of the repository. -/
def rawUrl : String :=
  "https://raw.githubusercontent.com/RandyGaul/cute_framework/refs/heads/master"

/-- Where a header and its implementation can be read. -/
structure SourceLinks where
  headerPath : String
  blob : String
  raw : String
  implementation : String
deriving DecidableEq, Repr

namespace SourceLocation

/-- The file that implements a header. -/
def implementationFile (file : String) : String :=
  match Text.beforeEnd? ".h".toList file.toList with
  | some stem => String.ofList stem ++ ".cpp"
  | none => file

/-- The links for a source location. The page is opened at the line, if that is known. -/
def links (source : SourceLocation) : SourceLinks :=
  let headerPath := "include/" ++ source.file
  let anchor := match source.line with
    | some line => "#L" ++ toString line.toNat
    | none => ""
  { headerPath := headerPath
    blob := repositoryUrl ++ "/blob/master/" ++ headerPath ++ anchor
    raw := rawUrl ++ "/" ++ headerPath
    implementation := rawUrl ++ "/src/" ++ implementationFile source.file }

end SourceLocation

end ApiAtlas
