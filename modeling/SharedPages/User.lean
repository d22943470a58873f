import SharedPages.Id
import SharedPages.Failure

/-! # Users

A user starts out anonymous and can log in with an identity provider once. -/

namespace SharedPages

/-- A user of the service. -/
structure User where
  id : UserId
  /-- What the identity provider calls the user. -/
  uid : String
  provider : Provider
  email : Option String
  /-- The pages that the user was invited to. -/
  joined : List PageId
deriving DecidableEq

namespace User

/-- A new user, whom nobody vouches for yet. -/
def new (id : UserId) (uid : String) : User := ⟨id, uid, .anonymous, none, []⟩

/-- The provider of that name, or the error that there is none. -/
def readProvider (name : String) : Except UserError Provider :=
  match Provider.ofName? name with
  | some p => .ok p
  | none => .error (.invalidProvider name)

/-- Logs a user in.  An email is asked for first, then a known provider, and only an anonymous
    user can log in. -/
def login (u : User) (provider : String) (email : Option String) : Except UserError User := do
  let some email := email | .error .noSpecifiedEmail
  let p ← readProvider provider
  if u.provider = .anonymous then
    .ok { u with provider := p, email := some email }
  else
    .error (.alreadyLoggedIn u.provider)

/-- A user that has logged in with Google, under an address made of the uid. -/
def google (id : UserId) (uid : String) : User :=
  { new id uid with provider := .google, email := some (uid ++ "@example.com") }

end User

end SharedPages
