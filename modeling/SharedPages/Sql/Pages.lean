import SharedPages.Sql.PageSelection
import SharedPages.Sql.Users
import SharedPages.UnitOfWork

/-! # Pages in an SQL database

A page is a row of `pages`, its links are rows of `link_items`, and its guests are rows of
`page_users`.  Saving a page replaces its rows in all three in one unit of work. -/

namespace SharedPages.Sql

/-- A page as stored in a row, with its creator. -/
structure PageRow where
  id : PageId
  title : String
  inviteCode : String
  creator : UserRow
deriving DecidableEq

/-- Reads the columns of a page and of its creator. -/
def PageRow.ofRow (row : Row) : Except DriverError PageRow :=
  return ⟨⟨← row.uuid "id"⟩, ← row.text "title", ← row.text "invite_code",
    ← UserRow.ofRow ⟨"creator_id", "creator_uid", "creator_provider", "creator_email"⟩ row⟩

/-- Reads the columns of a link. -/
def linkOfRow (row : Row) : Except DriverError Link :=
  return ⟨← row.text "url", ← row.text "memo", ← row.priority "priority"⟩

/-- Selects the links of a page. -/
def selectLinks (id : PageId) : Statement :=
  ⟨"SELECT url, COALESCE(memo, '') AS memo, priority FROM link_items WHERE page_id = $1 " ++
      "ORDER BY priority, id",
    [.uuid id.uuid]⟩

/-- Selects those who joined a page. -/
def selectInvited (id : PageId) : Statement :=
  ⟨"SELECT u.id, u.uid, u.provider, u.email FROM page_users pu " ++
      "JOIN users u ON u.id = pu.user_id WHERE pu.page_id = $1 ORDER BY u.id",
    [.uuid id.uuid]⟩

/-- Inserts a page, or updates the title of a known one. -/
def upsertPage (p : Page) : Statement :=
  ⟨"INSERT INTO pages (id, title, creator_id, invite_code) VALUES ($1, $2, $3, $4) " ++
      "ON CONFLICT (id) DO UPDATE SET title = EXCLUDED.title, updated_at = now()",
    [.uuid p.id.uuid, .text p.title, .uuid p.creator.id.uuid, .text p.inviteCode]⟩

/-- Deletes the links of a page. -/
def deleteLinks (id : PageId) : Statement :=
  ⟨"DELETE FROM link_items WHERE page_id = $1", [.uuid id.uuid]⟩

/-- Inserts a link of a page.  An empty note is stored as null. -/
def insertLink (page : PageId) (id : LinkId) (l : Link) : Statement :=
  ⟨"INSERT INTO link_items (id, page_id, url, memo, priority) VALUES ($1, $2, $3, $4, $5)",
    [.uuid id.uuid, .uuid page.uuid, .text l.url, if l.memo.isEmpty then .null else .text l.memo,
      .integer l.priority.value]⟩

/-- Deletes the guests of a page. -/
def deleteInvited (id : PageId) : Statement :=
  ⟨"DELETE FROM page_users WHERE page_id = $1", [.uuid id.uuid]⟩

/-- Inserts a guest of a page. -/
def insertInvited (page : PageId) (user : UserId) : Statement :=
  ⟨"INSERT INTO page_users (page_id, user_id) VALUES ($1, $2)", [.uuid page.uuid, .uuid user.uuid]⟩

/-- Deletes a page. -/
def deletePage (id : PageId) : Statement := ⟨"DELETE FROM pages WHERE id = $1", [.uuid id.uuid]⟩

variable {σ : Type} [Holds (Database Endpoint PoolRole) σ]

namespace Pages

/-- Sends a statement. -/
def send (client : Client) (statement : Statement) : Work σ PageError (List Row) :=
  (fetch client statement).mapError (.repository ∘ causeOf)

/-- Makes sense of rows. -/
def reading {α : Type} (x : Except DriverError α) : Work σ PageError α :=
  Work.ofExcept (x.mapError (.repository ∘ causeOf))

/-- The user of a row.  Those who joined other pages are not looked up. -/
def userOf (r : UserRow) : Work σ PageError User :=
  Work.ofExcept ((r.toUser []).mapError .user)

/-- The page of a row, with its links and its guests. -/
def hydrate (client : Client) (row : PageRow) : Work σ PageError Page := do
  let links ← reading ((← send client (selectLinks row.id)).mapM linkOfRow)
  let invited ← reading ((← send client (selectInvited row.id)).mapM (UserRow.ofRow {}))
  let creator ← userOf row.creator
  let invited ← invited.mapM userOf
  return ⟨row.id, row.title, creator, row.inviteCode, links, invited⟩

/-- Writes a page with its links and its guests, one statement after the other. -/
def write [Holds Supply σ] (client : Client) (p : Page) : Work σ PageError Unit := do
  let _ ← send client (upsertPage p)
  let _ ← send client (deleteLinks p.id)
  for link in p.links do
    let id ← freshId .link
    let _ ← send client (insertLink p.id id link)
  let _ ← send client (deleteInvited p.id)
  for user in p.invited do
    let _ ← send client (insertInvited p.id user.id)

/-- Pages in the database. -/
def repository [Holds Supply σ] : PageRepository σ where
  get ctx id := withConnection .read ctx .repository fun client => do
    match ← send client (selectPage id) with
    | [] => return none
    | row :: _ => return some (← hydrate client (← reading (PageRow.ofRow row)))
  list ctx query := withConnection .read ctx .repository fun client => do
    let rows ← reading ((← send client (selectPages query)).mapM PageRow.ofRow)
    rows.mapM (hydrate client)
  save ctx p :=
    (UnitRunner.onDatabase Endpoint PageError Unit ctx fun ctx =>
      withConnection .write ctx .repository (write · p)).mapError .ofTransaction
  delete ctx id := withConnection .write ctx .repository fun client => do
    let _ ← send client (deletePage id)

end Pages

end SharedPages.Sql
