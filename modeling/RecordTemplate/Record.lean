/-!
Records: what a template is evaluated against. A record is a partial function from field names to
values, and names are compared exactly. Lists of pairs become records in two ways that differ on
repeated names: `ofPairs` keeps the first value of a name, `ofInsertions` the last.
-/

set_option autoImplicit false
set_option relaxedAutoImplicit false

namespace RecordTemplate

abbrev Record := String → Option String

namespace Record

def empty : Record := fun _ ↦ none

def insert (record : Record) (name value : String) : Record :=
  fun field ↦ if field = name then some value else record field

/-- The record of a list of pairs that is searched from its start. -/
def ofPairs (pairs : List (String × String)) : Record :=
  fun field ↦ pairs.lookup field

/-- The record of a table into which the pairs are inserted one after the other. -/
def ofInsertions (pairs : List (String × String)) : Record :=
  pairs.foldl (fun record (name, value) ↦ record.insert name value) empty

/-! ### Computed records -/

/-- Every field has its own name as value, with a text behind it. -/
def echo (suffix : String) : Record := fun field ↦ some (field ++ suffix)

/-- The fields whose names start with `lead` have the rest of the name as value. -/
def strip (lead : String) : Record :=
  fun field ↦ (lead.toList.isPrefixOf? field.toList).map String.ofList

/-- Every field has the size of its name in bytes as value. -/
def nameSize : Record := fun field ↦ some (toString field.utf8ByteSize)

end Record

end RecordTemplate
