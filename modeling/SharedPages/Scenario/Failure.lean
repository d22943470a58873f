import SharedPages.Failure
import SharedPages.Uuid.Text

/-! # How the steps of a scenario fail -/

namespace SharedPages.Scenario

/-- What is wrong with a step as it was written. -/
inductive Fault where
  /-- It speaks of something that is not there: a step, a context, a connection and so on. -/
  | unknown (what : String)
  | text (message : String)
  /-- A text names no identifier. -/
  | id (fault : Uuid.Fault)
  /-- A text names no provider. -/
  | provider (name : String)
deriving DecidableEq

/-- The text that reports a fault. -/
def Fault.message : Fault → String
  | unknown what => "unknown " ++ what
  | text message => message
  | id fault => fault.message
  | provider name => (UserError.invalidProvider name).message

/-- Why a step failed. -/
inductive Failure where
  | raised (message : String)
  | fault (fault : Fault)
  | database (error : DatabaseError)
  | user (error : UserError)
  | page (error : PageError)
  /-- A unit of work failed, and not because its steps did. -/
  | unit (error : TransactionError DatabaseError Failure)

namespace Failure

mutual

/-- The text of a failure. -/
def message : Failure → String
  | raised m => m
  | fault _ => "bad input"
  | database e => e.message
  | user e => e.message
  | page e => e.message
  | unit t => unitMessage t

/-- The text of a failed unit of work. -/
def unitMessage : TransactionError DatabaseError Failure → String
  | .begin c => Report.of "failed to begin unit of work" c.message
  | .aborted e => message e
  | .rollbackFailed e r =>
    Report.both (Report.of "rollback error" r.message) (Report.of "original error" (message e))
  | .release c => Report.of "failed to release savepoint" c.message
  | .commit c => Report.of "transaction commit error" c.message

end

mutual

/-- The texts of the errors behind a failure.  Every failure speaks with the voice of the error it
    wraps. -/
def sources : Failure → List String
  | raised _ | fault _ => []
  | database e => e.sources
  | user e => e.sources
  | page e => e.sources
  | unit t => unitSources t

/-- The texts of the errors behind a failed unit of work. -/
def unitSources : TransactionError DatabaseError Failure → List String
  | .aborted e => sources e
  | .rollbackFailed e _ => message e :: sources e
  | .begin c | .release c | .commit c => c.message :: c.sources

end

instance : Report Failure := ⟨message, sources⟩

/-- A failed unit of work inside a failure speaks for itself. -/
theorem message_unit (t : TransactionError DatabaseError Failure) :
    (unit t).message = t.message := by
  cases t <;> rfl

/-- The errors behind a failed unit of work inside a failure are those behind the unit. -/
theorem sources_unit (t : TransactionError DatabaseError Failure) :
    (unit t).sources = t.sources := by
  cases t <;> rfl

/-- What a failed unit of work is to the steps around it: the failure of its steps if it was
    undone. -/
def ofTransaction : TransactionError DatabaseError Failure → Failure
  | .aborted e => e
  | t => unit t

end Failure

end SharedPages.Scenario
