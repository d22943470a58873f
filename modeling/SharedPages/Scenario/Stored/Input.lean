import SharedPages.Scenario.Input
import SharedPages.Scenario.Stored

/-! # Scenarios on the store as JSON

A step is an object whose member `op` says what is done; its other members say with what.  A step
that is not known is one that fails when it is played, and so is one that names no page or query. -/

namespace SharedPages.Scenario.Stored

namespace Input

/-- The operation of a step. -/
def op (j : Json) : String := j.textAt "op"

/-- What all steps have. -/
def heading (j : Json) : Heading :=
  { label := op j, context := j.textAt? "ctx", tolerant := j.flagAt "try" }

/-- The client of a step: a saved one, or else that of the context, to write unless it says so. -/
def client (j : Json) : ClientRef :=
  match j.textAt? "client" with
  | some name => .saved name
  | none => .role (if j.textAt "mode" = "read" then .read else .write)

/-- Where a step runs a statement. -/
def target (j : Json) : Target :=
  match j.textAt? "on" with
  | some name => .connection name
  | none => .client (client j)

/-- The page of a step. -/
def pageRef (j : Json) : Reading PageRef := do
  let page := j.field "page"
  return ⟨page.string?, ← Reading.attempt (Reading.id .page page)⟩

/-- The invite code of a step. -/
def code (j : Json) : CodeRef :=
  match j.field "code" with
  | .string s => .text s
  | j => .page (j.textAt "of")

/-- The name of a value in contexts.  There are three. -/
def valueName (j : Json) : String :=
  match j.textAt "key" with
  | "A" => "A"
  | "B" => "B"
  | _ => "C"

/-- An action on the store. -/
def store? (j : Json) : Option StoreAction :=
  match op j with
  | "fail" => some (.failStatement (j.textAt "sql"))
  | "heal" => some .heal
  | "committed" => some .committed
  | "count" => some (.count (j.textAt "entry"))
  | "ping" => some .ping
  | "close" => some .close
  | _ => none

/-- An action on connections. -/
def connection? (j : Json) : Option ConnectionAction :=
  match op j with
  | "exec" => some (.execute (target j) (j.textAt "sql"))
  | "rows" => some (.rows (target j))
  | "hold" => some (.hold (j.textAt "name") (client j))
  | "drop" => some (.drop (j.textAt "name"))
  | "client" => some (.client (client j) (j.textAt? "save"))
  | "same" => some (.sameTransaction (j.textAt "a") (j.textAt "b"))
  | _ => none

/-- An action on contexts. -/
def context? (j : Json) : Option ContextAction :=
  match op j with
  | "save_ctx" => some (.save (j.textAt "name"))
  | "bind" => some (.bind (valueName j) (j.field "value"))
  | "get" => some (.get (valueName j))
  | "as" => some (.become (j.textAt "user"))
  | "whoami" => some .whoami
  | _ => none

/-- An action on a transaction. -/
def handle? (j : Json) : Option HandleAction :=
  match op j with
  | "handle.save" => some (.save (j.textAt "name"))
  | "handle.same" => some (.same (j.textAt "as"))
  | "handle.debug" => some .describe
  | "handle.active" => some .isActive
  | "handle.issued" => some .issued
  | "handle.commit" => some .commit
  | "handle.rollback" => some .rollback
  | "handle.savepoint" => some (.openSavepoint (j.textAt "name"))
  | "handle.rollback_to" => some (.rollbackTo (j.textAt "savepoint"))
  | "handle.release" => some (.release (j.textAt "savepoint"))
  | "handle.bind" => some .bind
  | _ => none

/-- An action on users. -/
def user? (j : Json) : Reading (Option UserAction) := do
  match op j with
  | "user.create" => return some (.create (j.textAt "uid"))
  | "user.login" => return some (.login (j.textAt "provider") (j.textAt? "email"))
  | "user.get" => return some .get
  | "repo.user" => return some (.stored (← Reading.attempt (Reading.id .user (j.field "id"))))
  | _ => return none

/-- An action on a page. -/
def page? (j : Json) : Reading (Option PageAction) := do
  match op j with
  | "page.create" => return some (.create (j.textAt "title"))
  | "page.get" => return some (.get (← pageRef j))
  | "page.edit" => return some (.edit (← pageRef j) (j.textAt "title") (Reading.links j))
  | "page.join" => return some (.join (← pageRef j) (code j))
  | "page.add_link" => return some (.addLink (← pageRef j) (j.textAt "url") (j.textAt "memo"))
  | "page.remove_link" => return some (.removeLink (← pageRef j) (j.textAt "url"))
  | _ => return none

/-- An action. -/
def action (j : Json) : Reading Action := do
  if op j = "raise" then return .raise (j.textAt "message")
  if op j = "page.list" then return .listPages (← Reading.attempt (Reading.query j))
  if op j = "page.delete" then return .deletePage (← pageRef j)
  if let some a := store? j then return .store a
  if let some a := connection? j then return .connection a
  if let some a := context? j then return .context a
  if let some a := handle? j then return .handle (j.textAt? "handle") a
  if let some a ← user? j then return .user a (j.textAt? "save")
  if let some a ← page? j then return .page a (j.textAt? "save")
  return .refuse (.unknown "step")

/-- What a panic carries. -/
def panic : Json → Panic
  | .integer n => .code n
  | j => .text (j.string?.getD "")

/-- What makes a step of those that it groups. -/
def group? (j : Json) : Option (Reading (List (Step Action) → Step Action)) :=
  match op j with
  | "unit" => some (return .unit (heading j) (j.flagAt "cancel") (j.flagAt "catch"))
  | "repeat" =>
    let times := (j.naturalAt? 0xffffffffffffffff "times").getD 0
    some (return .loop (heading j) times (j.flagAt "quiet"))
  | _ => none

/-- A step that groups no others. -/
def single (j : Json) : Reading (Step Action) := do
  match op j with
  | "return" => return .leave (heading j) (j.field "value")
  | "panic" => return .panic (heading j) (panic (j.field "payload"))
  | "pending" => return .pend (heading j)
  | _ => return .act (heading j) (← action j)

end Input

/-- How steps on the store are written. -/
def grammar : Grammar Action := ⟨Input.group?, Input.single⟩

end SharedPages.Scenario.Stored
