import ApiAtlas.Record

/-! # Slots by name, by kind and by category

A catalog numbers its records. Beside the records it keeps the number of every name and, for every
kind and every category, the numbers of the records of that kind or category, so that look-ups and
listings need not go through all records. Numbers are kept in ascending order, categories too, and a
category without records is dropped.
-/

namespace ApiAtlas

/-- Put a number into an ascending list, unless it is already there. -/
def insertSlot (slot : Nat) : List Nat → List Nat
  | [] => [slot]
  | s :: rest =>
    if slot < s then slot :: s :: rest
    else if slot = s then s :: rest
    else s :: insertSlot slot rest

/-- Take a number out of a list. -/
def removeSlot (slot : Nat) (slots : List Nat) : List Nat :=
  slots.filter (· ≠ slot)

/-- The number of the record of each name. -/
abbrev NameIndex := List (String × Nat)

namespace NameIndex

/-- The number of a name. -/
def slot? (name : String) : NameIndex → Option Nat
  | [] => none
  | (known, number) :: rest => if known = name then some number else slot? name rest

/-- Give a name a number, in place of one that it has. -/
def insert (name : String) (slot : Nat) : NameIndex → NameIndex
  | [] => [(name, slot)]
  | (known, number) :: rest =>
    if known = name then (known, slot) :: rest else (known, number) :: insert name slot rest

end NameIndex

/-- The numbers of the records of each kind. -/
structure KindIndex where
  functions : List Nat
  structs : List Nat
  enums : List Nat
  topics : List Nat
deriving DecidableEq, Repr

namespace KindIndex

/-- No records at all. -/
def empty : KindIndex := ⟨[], [], [], []⟩

/-- The numbers of the records of a kind. -/
def slots (index : KindIndex) : RecordKind → List Nat
  | .function => index.functions
  | .struct => index.structs
  | .enum => index.enums
  | .topic => index.topics

/-- Change the numbers of a kind. -/
def modify (index : KindIndex) (change : List Nat → List Nat) : RecordKind → KindIndex
  | .function => { index with functions := change index.functions }
  | .struct => { index with structs := change index.structs }
  | .enum => { index with enums := change index.enums }
  | .topic => { index with topics := change index.topics }

theorem slots_modify (index : KindIndex) (change : List Nat → List Nat) (kind other : RecordKind) :
    (index.modify change kind).slots other =
      if other = kind then change (index.slots other) else index.slots other := by
  cases kind <;> cases other <;> rfl

end KindIndex

/-- The numbers of the records of each category, with the categories in ascending order. -/
abbrev CategoryIndex := List (String × List Nat)

namespace CategoryIndex

/-- The numbers of the records of a category. -/
def slots (category : String) : CategoryIndex → List Nat
  | [] => []
  | (name, numbers) :: rest => if name = category then numbers else slots category rest

/-- File a number under a category. -/
def insert (category : String) (slot : Nat) : CategoryIndex → CategoryIndex
  | [] => [(category, [slot])]
  | (name, numbers) :: rest =>
    if category < name then (category, [slot]) :: (name, numbers) :: rest
    else if category = name then (name, insertSlot slot numbers) :: rest
    else (name, numbers) :: insert category slot rest

/-- Take a number out of a category, and the category out of the index if nothing is left. -/
def remove (category : String) (slot : Nat) (index : CategoryIndex) : CategoryIndex :=
  index.filterMap fun (name, numbers) =>
    if name = category then
      let left := removeSlot slot numbers
      if left.isEmpty then none else some (name, left)
    else some (name, numbers)

/-- The categories. -/
def names (index : CategoryIndex) : List String :=
  index.map Prod.fst

end CategoryIndex

end ApiAtlas
