import SharedPages.Repository
import SharedPages.Table

/-! # Repositories in memory

Users and pages in tables.  These repositories never fail and take no part in units of work: what
they store stays stored, however the unit ends. -/

namespace SharedPages

/-- The stored users and pages. -/
structure Memory where
  users : Table .user User := .empty
  pages : Table .page Page := .empty

namespace Memory

/-- The memory that holds some users and pages. -/
def ofStored (users : List User) (pages : List Page) : Memory where
  users := users.foldl (fun t u => t.insert u.id u) .empty
  pages := pages.foldl (fun t p => t.insert p.id p) .empty

/-- Stores a user. -/
def saveUser (u : User) (m : Memory) : Memory := { m with users := m.users.insert u.id u }

/-- Stores a page. -/
def savePage (p : Page) (m : Memory) : Memory := { m with pages := m.pages.insert p.id p }

/-- Removes a page. -/
def deletePage (id : PageId) (m : Memory) : Memory := { m with pages := m.pages.erase id }

variable {σ ε : Type} [Holds Memory σ]

/-- Looks at the memory. -/
def read {α : Type} (f : Memory → α) : Work σ ε α :=
  Work.on fun m : Memory => (.done (f m), m)

/-- Changes the memory. -/
def write (f : Memory → Memory) : Work σ ε Unit :=
  Work.on fun m : Memory => (.done (), f m)

/-- The users in memory. -/
def userRepository : UserRepository σ where
  get _ id := read (·.users.find? id)
  getByUid _ uid := read (·.users.values.find? (·.uid = uid))
  save _ u := write (saveUser u)

/-- The pages in memory. -/
def pageRepository : PageRepository σ where
  get _ id := read (·.pages.find? id)
  list _ query := read fun m => query.select m.pages.values
  save _ p := write (savePage p)
  delete _ id := write (deletePage id)

end Memory

end SharedPages
