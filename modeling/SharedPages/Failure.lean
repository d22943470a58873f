import SharedPages.DatabaseError
import SharedPages.TransactionError
import SharedPages.Provider

/-! # Failures of the service

Three types, each of which can hold the others:

* `UserError` and `PageError` are what the rules about users and pages refuse, and what storing
  them or running a unit of work for them can fail with;
* `Cause` is what lies behind a failed repository or a failed unit of work: any error at all, and
  so perhaps another failed unit.

A user error inside a page error, and a failed unit of work inside either, are transparent layers.
A failed repository is not.  `UserError.ofTransaction` and `PageError.ofTransaction` say what
becomes of a failed unit: an aborted one is the error of its steps. -/

namespace SharedPages

mutual

/-- What lies behind a failure of the storage. -/
inductive Cause where
  | text (message : String)
  | database (error : DatabaseError)
  | user (error : UserError)
  | page (error : PageError)
  | unit (error : TransactionError Cause Cause)

/-- What can go wrong with users. -/
inductive UserError where
  /-- No user makes the request, or the user is not stored. -/
  | userNotFound
  | noUidProvided
  | noSpecifiedEmail
  | invalidProvider (name : String)
  | alreadyLoggedIn (provider : Provider)
  | repository (cause : Cause)
  | transaction (error : TransactionError Cause UserError)

/-- What can go wrong with pages. -/
inductive PageError where
  | pageNotFound
  /-- No user makes the request. -/
  | userNotFound
  | noTitleProvided
  | titleTooLong (length max : Nat)
  | notCreatedByUser
  | invalidLinksLength
  | linkNotFound (url : String)
  | invalidInviteCode
  | creatorCannotJoin
  | alreadyJoined
  | user (error : UserError)
  | repository (cause : Cause)
  | transaction (error : TransactionError Cause PageError)

end

/-- The text that refuses a title of `length` characters. -/
def titleTooLongText (length max : Nat) : String :=
  "title is " ++ toString length ++ " characters long, at most " ++ toString max ++ " are allowed"

mutual

/-- The text of a cause. -/
def Cause.message : Cause → String
  | .text m => m
  | .database e => e.message
  | .user e => e.message
  | .page e => e.message
  | .unit (.begin c) => Report.of "failed to begin unit of work" c.message
  | .unit (.aborted e) => e.message
  | .unit (.rollbackFailed e r) =>
    Report.both (Report.of "rollback error" r.message) (Report.of "original error" e.message)
  | .unit (.release c) => Report.of "failed to release savepoint" c.message
  | .unit (.commit c) => Report.of "transaction commit error" c.message

/-- The text of a user error. -/
def UserError.message : UserError → String
  | .userNotFound => "user not found"
  | .noUidProvided => "no uid provided"
  | .noSpecifiedEmail => "no specified email"
  | .invalidProvider name => Report.of "invalid provider" name
  | .alreadyLoggedIn provider => Report.of "already logged in with provider" provider.name
  | .repository c => Report.of "user repository error" c.message
  | .transaction (.begin c) => Report.of "failed to begin unit of work" c.message
  | .transaction (.aborted e) => e.message
  | .transaction (.rollbackFailed e r) =>
    Report.both (Report.of "rollback error" r.message) (Report.of "original error" e.message)
  | .transaction (.release c) => Report.of "failed to release savepoint" c.message
  | .transaction (.commit c) => Report.of "transaction commit error" c.message

/-- The text of a page error. -/
def PageError.message : PageError → String
  | .pageNotFound => "page not found"
  | .userNotFound => "user not found"
  | .noTitleProvided => "no title provided"
  | .titleTooLong length max =>
    titleTooLongText length max
  | .notCreatedByUser => "page not created by the user"
  | .invalidLinksLength => "invalid links length"
  | .linkNotFound url => Report.of "link not found" url
  | .invalidInviteCode => "invalid invite code"
  | .creatorCannotJoin => "the creator cannot join their own page"
  | .alreadyJoined => "user already joined the page"
  | .user e => e.message
  | .repository c => Report.of "page repository error" c.message
  | .transaction (.begin c) => Report.of "failed to begin unit of work" c.message
  | .transaction (.aborted e) => e.message
  | .transaction (.rollbackFailed e r) =>
    Report.both (Report.of "rollback error" r.message) (Report.of "original error" e.message)
  | .transaction (.release c) => Report.of "failed to release savepoint" c.message
  | .transaction (.commit c) => Report.of "transaction commit error" c.message

end

mutual

/-- The texts of the errors behind a cause. -/
def Cause.sources : Cause → List String
  | .text _ => []
  | .database e => e.sources
  | .user e => e.sources
  | .page e => e.sources
  | .unit (.aborted e) => e.sources
  | .unit (.rollbackFailed e _) => e.message :: e.sources
  | .unit (.begin c) | .unit (.release c) | .unit (.commit c) => c.message :: c.sources

/-- The texts of the errors behind a user error. -/
def UserError.sources : UserError → List String
  | .repository c => c.message :: c.sources
  | .transaction (.aborted e) => e.sources
  | .transaction (.rollbackFailed e _) => e.message :: e.sources
  | .transaction (.begin c) | .transaction (.release c) | .transaction (.commit c) =>
    c.message :: c.sources
  | _ => []

/-- The texts of the errors behind a page error. -/
def PageError.sources : PageError → List String
  | .user e => e.sources
  | .repository c => c.message :: c.sources
  | .transaction (.aborted e) => e.sources
  | .transaction (.rollbackFailed e _) => e.message :: e.sources
  | .transaction (.begin c) | .transaction (.release c) | .transaction (.commit c) =>
    c.message :: c.sources
  | _ => []

end

instance : Report Cause := ⟨Cause.message, Cause.sources⟩

instance : Report UserError := ⟨UserError.message, UserError.sources⟩

instance : Report PageError := ⟨PageError.message, PageError.sources⟩

/-- A failed unit of work is a cause as it is. -/
theorem Cause.message_unit (t : TransactionError Cause Cause) :
    (Cause.unit t).message = t.message := by
  cases t <;> rfl

/-- The errors behind a failed unit of work that is a cause are those behind the unit. -/
theorem Cause.sources_unit (t : TransactionError Cause Cause) :
    (Cause.unit t).sources = t.sources := by
  cases t <;> rfl

/-- A failed unit of work inside a user error speaks for itself. -/
theorem UserError.message_transaction (t : TransactionError Cause UserError) :
    (UserError.transaction t).message = t.message := by
  cases t <;> rfl

/-- The errors behind a failed unit of work inside a user error are those behind the unit. -/
theorem UserError.sources_transaction (t : TransactionError Cause UserError) :
    (UserError.transaction t).sources = t.sources := by
  cases t <;> rfl

/-- A failed unit of work inside a page error speaks for itself. -/
theorem PageError.message_transaction (t : TransactionError Cause PageError) :
    (PageError.transaction t).message = t.message := by
  cases t <;> rfl

/-- The errors behind a failed unit of work inside a page error are those behind the unit. -/
theorem PageError.sources_transaction (t : TransactionError Cause PageError) :
    (PageError.transaction t).sources = t.sources := by
  cases t <;> rfl

/-- What a failed unit of work about users is: the error of its steps if it was undone. -/
def UserError.ofTransaction : TransactionError Cause UserError → UserError
  | .aborted e => e
  | t => .transaction t

/-- What a failed unit of work about pages is: the error of its steps if it was undone. -/
def PageError.ofTransaction : TransactionError Cause PageError → PageError
  | .aborted e => e
  | t => .transaction t

/-- The caller is at fault, not the system. -/
def PageError.isClientError : PageError → Bool
  | .user _ | .repository _ | .transaction _ => false
  | _ => true

end SharedPages
