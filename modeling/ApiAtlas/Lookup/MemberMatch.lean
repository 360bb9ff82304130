import ApiAtlas.Catalog.Basic
import ApiAtlas.Search.Keyword

/-! # Structs by their members

A struct is found by a text that occurs in the declaration of one of its members, whatever the
case.
-/

namespace ApiAtlas

/-- A struct with those of its members that were looked for. -/
structure MemberMatch where
  record : Record
  members : List Member
deriving DecidableEq, Repr

namespace Catalog

/-- The members of a record whose declarations contain a lower-case text. -/
def memberMatch? (needle : List Char) (record : Record) : Option MemberMatch :=
  let members := (record.members?.getD []).filter fun member =>
    Search.containsLower needle member.declaration
  if members.isEmpty then none else some ⟨record, members⟩

/-- The first structs with a member whose declaration contains a text. -/
def structsWithMember (catalog : Catalog) (query : String) (limit : Nat) : List MemberMatch :=
  let needle := Text.lowercase query.toList
  ((catalog.ofKind .struct).filterMap (memberMatch? needle)).take limit

end Catalog

end ApiAtlas
