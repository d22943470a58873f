import SharedPages.Context
import SharedPages.Failure
import SharedPages.PageQuery
import SharedPages.Supply
import SharedPages.Work

/-! # What the services need

Repositories that store users and pages, units of work that make several steps one, and a supply of
fresh identifiers and invite codes.  All are records of operations on a state of any type `σ`; each
operation takes the context of the request, so that it can take part in a unit of work. -/

namespace SharedPages

/-- Where users are stored. -/
structure UserRepository (σ : Type) where
  get : Context → UserId → Work σ UserError (Option User)
  getByUid : Context → String → Work σ UserError (Option User)
  /-- Stores a user, new or known. -/
  save : Context → User → Work σ UserError Unit

/-- Where pages are stored. -/
structure PageRepository (σ : Type) where
  get : Context → PageId → Work σ PageError (Option Page)
  list : Context → PageQuery → Work σ PageError (List Page)
  /-- Stores a page, new or known, with its links and guests. -/
  save : Context → Page → Work σ PageError Unit
  delete : Context → PageId → Work σ PageError Unit

/-- Runs steps as one unit of work.  The steps get the context that their own operations take. -/
abbrev UnitRunner (σ : Type) :=
  (ε α : Type) → Context → (Context → Work σ ε α) → Work σ (TransactionError Cause ε) α

/-- A fresh identifier. -/
def freshId {σ ε : Type} [Holds Supply σ] (kind : Kind) : Work σ ε (Id kind) :=
  Work.on fun supply : Supply => (.done (supply.id kind).1, (supply.id kind).2)

/-- A fresh invite code. -/
def freshCode {σ ε : Type} [Holds Supply σ] : Work σ ε String :=
  Work.on fun supply : Supply => (.done supply.code.1, supply.code.2)

end SharedPages
