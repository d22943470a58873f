import SharedPages.Repository

/-! # What users can do

Registering, logging in, and looking at oneself.  What is written is written in a unit of work, so
a caller who is already in one gets it folded into that. -/

namespace SharedPages

/-- The service for users. -/
structure UserService (σ : Type) where
  users : UserRepository σ
  run : UnitRunner σ

namespace UserService

variable {σ : Type}

/-- Saves a user in a unit of work. -/
def save (service : UserService σ) (ctx : Context) (u : User) : Work σ UserError User :=
  (service.run UserError User ctx fun ctx => do
    service.users.save ctx u
    return u).mapError .ofTransaction

/-- Registers a new user, whom nobody vouches for yet. -/
def create [Holds Supply σ] (service : UserService σ) (ctx : Context) (uid : String) :
    Work σ UserError User := do
  if uid.isEmpty then Work.fail .noUidProvided
  else
    let id ← freshId .user
    service.save ctx (.new id uid)

/-- Logs the user of the request in. -/
def login (service : UserService σ) (ctx : Context) (provider : String) (email : Option String) :
    Work σ UserError User := do
  let u ← Work.orFail .userNotFound ctx.user?
  let u ← Work.ofExcept (u.login provider email)
  service.save ctx u

/-- The user of the request as currently stored. -/
def get (service : UserService σ) (ctx : Context) : Work σ UserError User := do
  let u ← Work.orFail .userNotFound ctx.user?
  Work.orFail .userNotFound (← service.users.getByUid ctx u.uid)

end UserService

end SharedPages
