import SharedPages.Repository
import SharedPages.Sql.Client

/-! # Users in an SQL database

A user is a row of `users`; the pages that a user joined are rows of `page_users`. -/

namespace SharedPages.Sql

/-- The user of a row whose columns have these names, with the pages that the user joined. -/
structure UserColumns where
  id : String := "id"
  uid : String := "uid"
  provider : String := "provider"
  email : String := "email"

/-- A user as stored in a row. -/
structure UserRow where
  id : UserId
  uid : String
  provider : String
  email : Option String
deriving DecidableEq

namespace UserRow

/-- Reads the columns of a user. -/
def ofRow (columns : UserColumns) (row : Row) : Except DriverError UserRow :=
  return ⟨⟨← row.uuid columns.id⟩, ← row.text columns.uid, ← row.text columns.provider,
    ← row.text? columns.email⟩

/-- The user of a row, whose provider must be a known one. -/
def toUser (r : UserRow) (joined : List PageId) : Except UserError User :=
  (User.readProvider r.provider).map fun provider => ⟨r.id, r.uid, provider, r.email, joined⟩

end UserRow

/-- Selects the user of an identifier. -/
def selectUser (id : UserId) : Statement :=
  ⟨"SELECT id, uid, provider, email FROM users WHERE id = $1", [.uuid id.uuid]⟩

/-- Selects the user of a uid. -/
def selectUserByUid (uid : String) : Statement :=
  ⟨"SELECT id, uid, provider, email FROM users WHERE uid = $1", [.text uid]⟩

/-- Selects the pages that a user joined. -/
def selectJoined (id : UserId) : Statement :=
  ⟨"SELECT page_id FROM page_users WHERE user_id = $1 ORDER BY page_id", [.uuid id.uuid]⟩

/-- Inserts a user, or updates what may change of a known one. -/
def upsertUser (u : User) : Statement :=
  ⟨"INSERT INTO users (id, uid, provider, email) VALUES ($1, $2, $3, $4) " ++
      "ON CONFLICT (id) DO UPDATE SET provider = EXCLUDED.provider, email = EXCLUDED.email, " ++
      "updated_at = now()",
    [.uuid u.id.uuid, .text u.uid, .text u.provider.name, .ofText? u.email]⟩

variable {σ : Type} [Holds (Database Endpoint PoolRole) σ]

namespace Users

/-- Sends a statement. -/
def send (client : Client) (statement : Statement) : Work σ UserError (List Row) :=
  (fetch client statement).mapError (.repository ∘ causeOf)

/-- Makes sense of rows. -/
def reading {α : Type} (x : Except DriverError α) : Work σ UserError α :=
  Work.ofExcept (x.mapError (.repository ∘ causeOf))

/-- The user that a statement selects, with the pages that the user joined. -/
def load (client : Client) (statement : Statement) : Work σ UserError (Option User) := do
  match ← send client statement with
  | [] => return none
  | row :: _ =>
    let user ← reading (UserRow.ofRow {} row)
    let rows ← send client (selectJoined user.id)
    let joined ← reading (rows.mapM fun row => (row.onlyUuid "page_id").map Id.mk)
    return some (← Work.ofExcept (user.toUser joined))

/-- Users in the database. -/
def repository : UserRepository σ where
  get ctx id := withConnection .read ctx .repository (load · (selectUser id))
  getByUid ctx uid := withConnection .read ctx .repository (load · (selectUserByUid uid))
  save ctx u := withConnection .write ctx .repository fun client => do
    let _ ← send client (upsertUser u)

end Users

end SharedPages.Sql
