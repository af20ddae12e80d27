import Bourse.Failure

namespace Bourse

/-- A value in a column of a table. A real is given by the bits of its double. -/
inductive Column where
  | null
  | integer (value : Int)
  | real (bits : UInt64)
  | text (value : String)
  | blob (bytes : List UInt8)
  deriving DecidableEq, Repr

def Column.kind : Column → ColumnClass
  | null => .null
  | integer _ => .integer
  | real _ => .real
  | text _ => .text
  | blob _ => .blob

/-- How values of a type are kept in a column. -/
structure ColumnForm (α : Type) where
  write : α → Column
  read : Column → Except StorageFault α

namespace ColumnForm

/-- Kept as the text that names the value. -/
def named {α : Type} (text : α → String) (parse : String → Except UnknownName α) : ColumnForm α where
  write value := .text (text value)
  read
    | .text found =>
      match parse found with
      | .ok value => .ok value
      | .error name => .error (.columnText 0 name)
    | other => .error (.columnClass other.kind)

def side : ColumnForm Side := named Side.text Side.parse

def status : ColumnForm Status := named Status.text Status.parse

def currency : ColumnForm Currency := named Currency.code Currency.parse

def pair : ColumnForm Pair := named Pair.text Pair.parse

/-- Ids of every table are kept as integers. -/
def id : ColumnForm Int where
  write value := .integer value
  read
    | .integer value => .ok value
    | other => .error (.columnClass other.kind)

end ColumnForm

end Bourse
