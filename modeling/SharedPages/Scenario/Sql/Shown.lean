import SharedPages.Scenario.Shown.Trace
import SharedPages.Scenario.Sql

/-! # How statements with parameters are shown -/

namespace SharedPages.Scenario.Shown

open SharedPages.Sql

/-- What is bound to a parameter. -/
def param : Param → Shown
  | .null => nothing
  | .uuid u => id u
  | .uuids us => list (us.map id)
  | .integer n => integer n
  | .text s => text s

/-- What is bound to the parameters of a statement that inserts a page: the last one is an invite
    code. -/
def pageParams : List Param → List Shown
  | [] => []
  | [.text s] => [code s]
  | p :: rest => param p :: pageParams rest

/-- What is bound to the parameters of a statement. -/
def params (s : Statement) : Shown :=
  if "INSERT INTO pages ".toList.isPrefixOf s.text.toList then list (pageParams s.params)
  else list (s.params.map param)

/-- A logged statement. -/
def call (c : Call) : Shown :=
  record [("pool", text c.pool.name), ("sql", text c.statement.text),
    ("params", params c.statement)]

end SharedPages.Scenario.Shown
