import SharedPages.Repository

/-! # What can be done with pages

Every change loads the page, applies the rule and saves the page in one unit of work, so a caller
who is already in a unit gets it folded into that. -/

namespace SharedPages

/-- The service for pages. -/
structure PageService (σ : Type) where
  pages : PageRepository σ
  run : UnitRunner σ

namespace PageService

variable {σ : Type}

/-- The user of the request. -/
def currentUser (ctx : Context) : Work σ PageError User := Work.orFail .userNotFound ctx.user?

/-- Creates a page that belongs to the user of the request. -/
def create [Holds Supply σ] (service : PageService σ) (ctx : Context) (title : String) :
    Work σ PageError Page := do
  let u ← currentUser ctx
  -- A title that is refused uses up no identifier.
  Work.ofExcept (Page.checkTitle title)
  let id ← freshId .page
  let code ← freshCode
  let page ← Work.ofExcept (Page.new id code title u)
  (service.run PageError Page ctx fun ctx => do
    service.pages.save ctx page
    return page).mapError .ofTransaction

/-- The page of that identifier. -/
def load (service : PageService σ) (ctx : Context) (id : PageId) : Work σ PageError Page := do
  Work.orFail .pageNotFound (← service.pages.get ctx id)

/-- The page of that identifier, for any user. -/
def get (service : PageService σ) (ctx : Context) (id : PageId) : Work σ PageError Page := do
  let _ ← currentUser ctx
  service.load ctx id

/-- The pages that belong to the user of the request and pass the query. -/
def list (service : PageService σ) (ctx : Context) (query : PageQuery) :
    Work σ PageError (List Page) := do
  let u ← currentUser ctx
  service.pages.list ctx { query with createdBy := some u.id }

/-- Loads a page, changes it and saves it, in one unit of work. -/
def update (service : PageService σ) (ctx : Context) (id : PageId)
    (change : Page → User → Except PageError Page) : Work σ PageError Page := do
  let u ← currentUser ctx
  (service.run PageError Page ctx fun ctx => do
    let page ← service.load ctx id
    let page ← Work.ofExcept (change page u)
    service.pages.save ctx page
    return page).mapError .ofTransaction

/-- Renames a page and reorders its links. -/
def edit (service : PageService σ) (ctx : Context) (id : PageId) (title : String) (links : Links) :
    Work σ PageError Page :=
  service.update ctx id fun page u => page.edit u title links

/-- Lets the user of the request join a page. -/
def join (service : PageService σ) (ctx : Context) (id : PageId) (code : String) :
    Work σ PageError Page :=
  service.update ctx id fun page u => page.join u code

/-- Puts a link last on a page. -/
def addLink (service : PageService σ) (ctx : Context) (id : PageId) (url memo : String) :
    Work σ PageError Page :=
  service.update ctx id fun page u => page.addLink u url memo

/-- Removes a link from a page. -/
def removeLink (service : PageService σ) (ctx : Context) (id : PageId) (url : String) :
    Work σ PageError Page :=
  service.update ctx id fun page u => page.removeLink u url

/-- Deletes a page that the user of the request may change. -/
def delete (service : PageService σ) (ctx : Context) (id : PageId) : Work σ PageError Unit := do
  let u ← currentUser ctx
  (service.run PageError Unit ctx fun ctx => do
    let page ← service.load ctx id
    Work.ofExcept (page.authorize u)
    service.pages.delete ctx id).mapError .ofTransaction

end PageService

end SharedPages
