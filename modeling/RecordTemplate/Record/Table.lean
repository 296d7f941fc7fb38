import RecordTemplate.Record

/-!
Tables: a header names the columns, a row holds cells. The first column with a name is the one that
counts, and a row that is too short has no value there, even if a later column has the same name.
-/

set_option autoImplicit false
set_option relaxedAutoImplicit false

namespace RecordTemplate

structure Header where
  columns : List String
  deriving DecidableEq, Repr

/-- The position of the first column with a name. -/
def Header.position? (header : Header) (name : String) : Option Nat :=
  header.columns.findIdx? (· == name)

structure Row where
  header : Header
  cells : List String
  deriving DecidableEq, Repr

def Header.row (header : Header) (cells : List String) : Row := ⟨header, cells⟩

/-- A row as a record: the cell below the first column with the name of the field. -/
def Row.record (row : Row) : Record :=
  fun field ↦ (row.header.position? field).bind fun position ↦ row.cells[position]?

end RecordTemplate
