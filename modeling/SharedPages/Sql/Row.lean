import SharedPages.Id
import SharedPages.Links
import SharedPages.DatabaseError

/-! # Values in statements and rows

What is bound to the parameters of a statement, and what the columns of a row hold.  A column is
read as the type that is wanted, and a null where none is wanted is refused. -/

namespace SharedPages.Sql

/-- What is bound to a parameter. -/
inductive Param where
  | null
  | uuid (value : Uuid)
  | uuids (values : List Uuid)
  | integer (n : Int)
  | text (s : String)
deriving DecidableEq

/-- An optional text as a parameter. -/
def Param.ofText? : Option String → Param
  | some s => .text s
  | none => .null

/-- What a column holds. -/
inductive Cell where
  | null
  | uuid (value : Uuid)
  | integer (n : Int)
  | text (s : String)
deriving DecidableEq

namespace Cell

/-- The error for a null where none is wanted. -/
def unexpectedNull (column : Column) : DriverError :=
  .columnDecode column "unexpected null; try decoding as an `Option`"

/-- The error for a value of another type. -/
def mismatched (column : Column) : DriverError := .columnDecode column "mismatched types"

/-- The identifier in a column. -/
def readUuid (column : Column) : Cell → Except DriverError Uuid
  | uuid u => .ok u
  | null => .error (unexpectedNull column)
  | _ => .error (mismatched column)

/-- The text in a column. -/
def readText (column : Column) : Cell → Except DriverError String
  | text s => .ok s
  | null => .error (unexpectedNull column)
  | _ => .error (mismatched column)

/-- The priority in a column. -/
def readPriority (column : Column) : Cell → Except DriverError Priority
  | integer n => (Priority.ofInt? n).elim (.error (mismatched column)) .ok
  | null => .error (unexpectedNull column)
  | _ => .error (mismatched column)

end Cell

/-- Columns with their names.  The columns that are not given are null. -/
abbrev Row := List (String × Cell)

/-- A statement with what is bound to its parameters. -/
structure Statement where
  text : String
  params : List Param := []
deriving DecidableEq

namespace Row

/-- What a column holds. -/
def cell (row : Row) (column : String) : Cell := (row.lookup column).getD .null

/-- The identifier in a column. -/
def uuid (row : Row) (column : String) : Except DriverError Uuid :=
  (row.cell column).readUuid (.name column)

/-- The identifier in the only column, which goes by its position. -/
def onlyUuid (row : Row) (column : String) : Except DriverError Uuid :=
  (row.cell column).readUuid (.position 0)

/-- The text in a column. -/
def text (row : Row) (column : String) : Except DriverError String :=
  (row.cell column).readText (.name column)

/-- The text in a column that may be null. -/
def text? (row : Row) (column : String) : Except DriverError (Option String) :=
  match row.cell column with
  | .null => .ok none
  | cell => (cell.readText (.name column)).map some

/-- The priority in a column. -/
def priority (row : Row) (column : String) : Except DriverError Priority :=
  (row.cell column).readPriority (.name column)

end Row

end SharedPages.Sql
