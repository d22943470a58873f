import SharedPages.User
import SharedPages.Links

/-! # Pages

A page belongs to the user who created it.  Others join it with its invite code.  The creator and
those who joined are authorized to change it. -/

namespace SharedPages

/-- A shared page of links. -/
structure Page where
  id : PageId
  title : String
  creator : User
  inviteCode : String
  links : Links
  /-- Those who joined, in the order they came. -/
  invited : List User
deriving DecidableEq

namespace Page

/-- The greatest number of characters in a title. -/
def maxTitleLength : Nat := 50

/-- A title has at least one and at most `maxTitleLength` characters. -/
def checkTitle (title : String) : Except PageError Unit :=
  let length := title.toList.length
  if length = 0 then .error .noTitleProvided
  else if maxTitleLength < length then .error (.titleTooLong length maxTitleLength)
  else .ok ()

/-- A page without links and guests. -/
def new (id : PageId) (inviteCode title : String) (creator : User) : Except PageError Page := do
  checkTitle title
  return ⟨id, title, creator, inviteCode, [], []⟩

/-- The user is among those who joined.  Users are told apart by their identifiers. -/
def isInvited (p : Page) (u : User) : Bool := p.invited.any (·.id == u.id)

/-- The user may change the page. -/
def isAuthorized (p : Page) (u : User) : Bool := p.isInvited u || p.creator.id == u.id

/-- Refuses users who may not change the page. -/
def authorize (p : Page) (u : User) : Except PageError Unit :=
  if p.isAuthorized u then .ok () else .error .notCreatedByUser

/-- Renames the page and reorders its links. -/
def edit (p : Page) (u : User) (title : String) (links : Links) : Except PageError Page := do
  p.authorize u
  checkTitle title
  let links ← p.links.edit links
  return { p with title, links }

/-- Puts a link last. -/
def addLink (p : Page) (u : User) (url memo : String) : Except PageError Page := do
  p.authorize u
  return { p with links := p.links.add url memo }

/-- Removes the first link with that address. -/
def removeLink (p : Page) (u : User) (url : String) : Except PageError Page := do
  p.authorize u
  return { p with links := ← p.links.remove url }

/-- Lets a user in who knows the invite code, is not the creator and has not joined before. -/
def join (p : Page) (u : User) (code : String) : Except PageError Page :=
  if code ≠ p.inviteCode then .error .invalidInviteCode
  else if p.creator.id = u.id then .error .creatorCannotJoin
  else if p.isInvited u then .error .alreadyJoined
  else .ok { p with invited := p.invited ++ [u] }

/-- A page with one link for each address, none of them with a note. -/
def withLinks (id : PageId) (inviteCode title : String) (owner : User) (urls : List String) :
    Except PageError Page := do
  let page ← new id inviteCode title owner
  urls.foldlM (fun page url => page.addLink owner url "") page

end Page

end SharedPages
