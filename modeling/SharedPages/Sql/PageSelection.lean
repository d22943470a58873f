import SharedPages.PageQuery
import SharedPages.Sql.Row

/-! # Selecting pages

The statement that lists the pages of a query: each filter that is present adds a condition, and a
window adds an offset and a limit, with parameters numbered in order. -/

namespace SharedPages.Sql

/-- The columns of a page and of its creator. -/
def pageColumns : String :=
  "SELECT p.id, p.title, p.invite_code, u.id AS creator_id, u.uid AS creator_uid, " ++
    "u.provider AS creator_provider, u.email AS creator_email " ++
    "FROM pages p JOIN users u ON u.id = p.creator_id"

/-- Appends text to a statement. -/
def Statement.push (s : Statement) (text : String) : Statement := { s with text := s.text ++ text }

/-- Appends a parameter to a statement, under the next number. -/
def Statement.bind (s : Statement) (param : Param) : Statement :=
  ⟨s.text ++ "$" ++ toString (s.params.length + 1), s.params ++ [param]⟩

/-- The greatest integer of 64 bits. -/
def maxBigint : Nat := 0x7fffffffffffffff

/-- A number of rows, which a parameter of 64 bits can hold. -/
def Param.ofCount (n : Nat) : Param := .integer (min n maxBigint)

/-- Selects the page of an identifier. -/
def selectPage (id : PageId) : Statement :=
  ⟨pageColumns ++ " WHERE p.id = $1", [.uuid id.uuid]⟩

/-- Selects the pages of a query. -/
def selectPages (query : PageQuery) : Statement :=
  let s : Statement := ⟨pageColumns ++ " WHERE TRUE", []⟩
  let s := if query.ids.isEmpty then s
    else ((s.push " AND p.id = ANY(").bind (.uuids (query.ids.map (·.uuid)))).push ")"
  let s := match query.createdBy with
    | some creator => (s.push " AND p.creator_id = ").bind (.uuid creator.uuid)
    | none => s
  let s := s.push " ORDER BY p.id"
  match query.window with
  | some (offset, limit) =>
    (((s.push " OFFSET ").bind (.ofCount offset)).push " LIMIT ").bind (.ofCount limit)
  | none => s

end SharedPages.Sql
