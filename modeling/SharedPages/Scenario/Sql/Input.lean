import SharedPages.Scenario.Input
import SharedPages.Scenario.Sql

/-! # Scenarios on the SQL server as JSON

A step is an object whose member `op` says what is done; its member `as` may say who makes the
request.  The replies of the server are rows, whose columns `id` and `…_id` hold identifiers, or
refusals. -/

namespace SharedPages.Scenario.Sql

open SharedPages.Sql

namespace Input

/-- The operation of a step. -/
def op (j : Json) : String := j.textAt "op"

/-- What all steps have. -/
def heading (j : Json) : Reading Heading := do
  let user ← match j.field "as" with
    | .null => pure none
    | user => some <$> Reading.attempt (Reading.user user)
  return { label := op j, tolerant := j.flagAt "try", user }

/-- An action on the pools. -/
def pool? (j : Json) : Option PoolAction :=
  match op j with
  | "ping" => some .ping
  | "close" => some .close
  | "client" => some .clients
  | _ => none

/-- An action on stored users. -/
def storeUser? (j : Json) : Reading (Option UserStoring) := do
  match op j with
  | "user.get" => return some (.get (← Reading.attempt (Reading.id .user (j.field "id"))))
  | "user.get_by_uid" => return some (.getByUid (j.textAt "uid"))
  | "user.save" => return some (.save (← Reading.attempt (Reading.user (j.field "user"))))
  | _ => return none

/-- The identifier of a step's page. -/
def pageId (j : Json) : Reading (Except Fault PageId) :=
  Reading.attempt (Reading.id .page (j.field "id"))

/-- An action on stored pages. -/
def storePage? (j : Json) : Reading (Option PageStoring) := do
  match op j with
  | "page.get" => return some (.get (← pageId j))
  | "page.list" => return some (.list (← Reading.attempt (Reading.query j)))
  | "page.save" => return some (.save (← Reading.attempt (Reading.page (j.field "page"))))
  | "page.delete" => return some (.delete (← pageId j))
  | _ => return none

/-- An action of the service for users. -/
def user? (j : Json) : Option UserAction :=
  match op j with
  | "svc.user.create" => some (.create (j.textAt "uid"))
  | "svc.user.login" => some (.login (j.textAt "provider") (j.textAt? "email"))
  | "svc.user.get" => some .get
  | _ => none

/-- An action of the service for pages. -/
def page? (j : Json) : Reading (Option PageAction) := do
  match op j with
  | "svc.page.create" => return some (.create (j.textAt "title"))
  | "svc.page.add_link" =>
    return some (.addLink (← pageId j) (j.textAt "url") (j.textAt "memo"))
  | "svc.page.remove_link" => return some (.removeLink (← pageId j) (j.textAt "url"))
  | "svc.page.join" => return some (.join (← pageId j) (j.textAt "code"))
  | "svc.page.delete" => return some (.delete (← pageId j))
  | _ => return none

/-- An action. -/
def action (j : Json) : Reading Action := do
  if op j = "raise" then return .raise (j.textAt "message")
  if let some a := pool? j then return .pool a
  if let some a ← storeUser? j then return .storeUser a
  if let some a ← storePage? j then return .storePage a
  if let some a := user? j then return .user a
  if let some a ← page? j then return .page a
  return .refuse (.unknown "step")

/-- What makes a step of those that it groups. -/
def group? (j : Json) : Option (Reading (List (Step Action) → Step Action)) :=
  if op j = "unit" then some do return .unit (← heading j) false false else none

/-- A step that groups no others. -/
def single (j : Json) : Reading (Step Action) := do return .act (← heading j) (← action j)

/-- The column holds identifiers. -/
def holdsIds (column : String) : Bool :=
  column == "id" || column.toList.reverse.take 3 == ['d', 'i', '_']

/-- What a column of a row holds. -/
def cell (column : String) : Json → Reading Cell
  | .null => return .null
  | j => do
    if holdsIds column then return .uuid (← Reading.id .page j).uuid
    match j with
    | .integer n => return .integer n
    | .string s => return .text (← if column = "invite_code" then Reading.code s else pure s)
    | _ => return .null

/-- A refusal. -/
def refusal (j : Json) : Refusal := ⟨j.textAt "code", j.textAt "message"⟩

/-- A row of a reply. -/
def row (j : Json) : Reading Row :=
  j.members.mapM fun (column, j) => return (column, ← cell column j)

/-- A reply. -/
def reply (j : Json) : Reading Reply := do
  match j.field "error" with
  | .null => return .rows (← (j.itemsAt "rows").mapM row)
  | why => return .refused (refusal why)

end Input

/-- How steps on the server are written. -/
def grammar : Grammar Action := ⟨Input.group?, Input.single⟩

end SharedPages.Scenario.Sql
