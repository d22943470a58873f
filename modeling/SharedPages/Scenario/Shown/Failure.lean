import SharedPages.Scenario.Failure
import SharedPages.Scenario.Shown

/-! # How failures are shown

A failure is shown as a record of its kind and its text, and of the failures that it wraps. -/

namespace SharedPages.Scenario.Shown

/-- An error of some kind. -/
def failed (kind message : String) (more : List (String × Shown)) : Shown :=
  record ([("error", text kind), ("message", text message)] ++ more)

/-- The kind of a database error. -/
def databaseKind : DatabaseError → String
  | .connectionFailed _ => "ConnectionFailed"
  | .queryFailed _ => "QueryFailed"
  | .notFound _ => "NotFound"
  | .duplicateEntry _ => "DuplicateEntry"
  | .foreignKeyViolation _ => "ForeignKeyViolation"
  | .constraintViolation _ => "ConstraintViolation"
  | .transactionFailed _ => "TransactionFailed"
  | .noActiveTransaction => "NoActiveTransaction"
  | .transactionBusy => "TransactionBusy"
  | .savepoint _ _ _ => "Savepoint"
  | .closeFailed _ => "CloseFailed"
  | .poolExhausted => "PoolExhausted"
  | .driver _ => "SqlError"

/-- The word for what a savepoint statement was meant to do. -/
def actionWord : SavepointAction → String
  | .create => "Create"
  | .rollbackTo => "RollbackTo"
  | .release => "Release"

/-- The members of a database error besides kind and text. -/
def databaseMembers : DatabaseError → List (String × Shown)
  | .savepoint name action source =>
    [("name", text name), ("action", text (actionWord action)),
     ("source", failed (databaseKind source) source.message (databaseMembers source))]
  | _ => []

/-- A database error, with more members. -/
def databaseErrorWith (e : DatabaseError) (more : List (String × Shown)) : Shown :=
  failed (databaseKind e) e.message (databaseMembers e ++ more)

/-- A database error. -/
def databaseError (e : DatabaseError) : Shown := databaseErrorWith e []

/-- The kind of a failed unit of work. -/
def unitKind {κ ε : Type} : TransactionError κ ε → String
  | .begin _ => "Begin"
  | .aborted _ => "Aborted"
  | .rollbackFailed _ _ => "RollbackFailed"
  | .release _ => "Release"
  | .commit _ => "Commit"

/-- A failed unit of work, of which `parts` is the same with its errors shown. -/
def unitError {κ ε : Type} [Report κ] [Report ε] (t : TransactionError κ ε)
    (parts : TransactionError Shown Shown) : Shown :=
  failed (unitKind t) t.message
    ([("infrastructure", flag t.isInfrastructure), ("chain", texts t.sources)] ++
      member? "source" parts.source? ++ member? "rollback" parts.rollback? ++
      member? "cause" parts.cause?)

/-- The kind of a user error. -/
def userKind : UserError → String
  | .userNotFound => "UserNotFound"
  | .noUidProvided => "NoUidProvided"
  | .noSpecifiedEmail => "NoSpecifiedEmail"
  | .invalidProvider _ => "InvalidProvider"
  | .alreadyLoggedIn _ => "AlreadyLoggedIn"
  | .repository _ => "Repository"
  | .transaction _ => "Transaction"

/-- The kind of a page error. -/
def pageKind : PageError → String
  | .pageNotFound => "PageNotFound"
  | .userNotFound => "UserNotFound"
  | .noTitleProvided => "NoTitleProvided"
  | .titleTooLong _ _ => "TitleTooLong"
  | .notCreatedByUser => "NotCreatedByUser"
  | .invalidLinksLength => "InvalidLinksLength"
  | .linkNotFound _ => "LinkNotFound"
  | .invalidInviteCode => "InvalidInviteCode"
  | .creatorCannotJoin => "CreatorCannotJoin"
  | .alreadyJoined => "AlreadyJoined"
  | .user _ => "User"
  | .repository _ => "Repository"
  | .transaction _ => "Transaction"

/-- The failed unit of work inside a user error. -/
def userUnit (t : TransactionError Cause UserError) (parts : TransactionError Shown Shown) :
    List (String × Shown) :=
  [("inner", unitError t parts)]

/-- The failed unit of work inside a page error. -/
def pageUnit (t : TransactionError Cause PageError) (parts : TransactionError Shown Shown) :
    List (String × Shown) :=
  [("inner", unitError t parts)]

/-- A user error with its members besides kind and text. -/
def userErrorWith (e : UserError) (more : List (String × Shown)) : Shown :=
  failed (userKind e) e.message more

/-- A page error with its members besides kind and text, and besides that it tells whether the
    caller is at fault. -/
def pageErrorWith (e : PageError) (more : List (String × Shown)) : Shown :=
  failed (pageKind e) e.message (("client", flag e.isClientError) :: more)

mutual

/-- What lies behind a failure of the storage. -/
def cause : Cause → Shown
  | .text m => failed "Other" m []
  | .database e => databaseError e
  | .user e => userErrorWith e (userMembers e)
  | .page e => pageErrorWith e (pageMembers e)
  | .unit t => failed "Other" t.message []

/-- What a user error wraps. -/
def userMembers : UserError → List (String × Shown)
  | .repository c => [("source", cause c)]
  | .transaction (.begin c) => userUnit (.begin c) (.begin (cause c))
  | .transaction (.aborted e) =>
    userUnit (.aborted e) (.aborted (userErrorWith e (userMembers e)))
  | .transaction (.rollbackFailed e r) =>
    userUnit (.rollbackFailed e r) (.rollbackFailed (userErrorWith e (userMembers e)) (cause r))
  | .transaction (.release c) => userUnit (.release c) (.release (cause c))
  | .transaction (.commit c) => userUnit (.commit c) (.commit (cause c))
  | _ => []

/-- What a page error wraps. -/
def pageMembers : PageError → List (String × Shown)
  | .user e => [("inner", userErrorWith e (userMembers e))]
  | .repository c => [("source", cause c)]
  | .transaction (.begin c) => pageUnit (.begin c) (.begin (cause c))
  | .transaction (.aborted e) =>
    pageUnit (.aborted e) (.aborted (pageErrorWith e (pageMembers e)))
  | .transaction (.rollbackFailed e r) =>
    pageUnit (.rollbackFailed e r) (.rollbackFailed (pageErrorWith e (pageMembers e)) (cause r))
  | .transaction (.release c) => pageUnit (.release c) (.release (cause c))
  | .transaction (.commit c) => pageUnit (.commit c) (.commit (cause c))
  | _ => []

end

/-- A user error. -/
def userError (e : UserError) : Shown := userErrorWith e (userMembers e)

/-- A page error. -/
def pageError (e : PageError) : Shown := pageErrorWith e (pageMembers e)

/-- What is wrong with a scenario as it was written. -/
def fault (f : Fault) : Shown :=
  match f with
  | .unknown _ | .text _ => failed "BadInput" f.message []
  | .id _ => failed "InvalidId" f.message []
  | .provider name => userError (.invalidProvider name)

/-- A failed step. -/
def failure : Failure → Shown
  | .raised m => failed "Raised" m []
  | .fault f => fault f
  | .database e => databaseError e
  | .user e => userError e
  | .page e => pageError e
  | .unit (.begin c) => stepsError (.begin c) (.begin (databaseError c))
  | .unit (.aborted e) => stepsError (.aborted e) (.aborted (failure e))
  | .unit (.rollbackFailed e r) =>
    stepsError (.rollbackFailed e r) (.rollbackFailed (failure e) (databaseError r))
  | .unit (.release c) => stepsError (.release c) (.release (databaseError c))
  | .unit (.commit c) => stepsError (.commit c) (.commit (databaseError c))
where
  /-- A failed unit of steps. -/
  stepsError (t : TransactionError DatabaseError Failure)
      (parts : TransactionError Shown Shown) : Shown :=
    unitError t parts

end SharedPages.Scenario.Shown
