import SharedPages.Report

/-! # How a unit of work fails

A unit of work fails because its own steps failed (`aborted`, or `rollbackFailed` when undoing them
failed as well), or because the database would not begin, release or commit it.  The error of the
steps is never replaced: `source?` gives it back.  An aborted unit is transparent, so its text and
the texts behind it are those of the steps' own error. -/

namespace SharedPages

/-- Why a unit of work failed, where the database fails with `κ` and the steps with `ε`. -/
inductive TransactionError (κ ε : Type) where
  /-- The unit could not be opened; its steps never ran. -/
  | begin (cause : κ)
  /-- The steps failed and were undone. -/
  | aborted (source : ε)
  /-- The steps failed and could not be undone. -/
  | rollbackFailed (source : ε) (rollback : κ)
  /-- The steps succeeded, but their savepoint could not be released. -/
  | release (cause : κ)
  /-- The steps succeeded, but the transaction could not be committed. -/
  | commit (cause : κ)
deriving DecidableEq

namespace TransactionError

variable {κ κ' ε ε' : Type}

/-- The error of the steps, if they are what failed. -/
def source? : TransactionError κ ε → Option ε
  | .aborted e | .rollbackFailed e _ => some e
  | _ => none

/-- The error of undoing the steps. -/
def rollback? : TransactionError κ ε → Option κ
  | .rollbackFailed _ r => some r
  | _ => none

/-- What the database said when it would not begin, release or commit the unit. -/
def cause? : TransactionError κ ε → Option κ
  | .begin c | .release c | .commit c => some c
  | _ => none

/-- The database failed, alone or after the steps. -/
def isInfrastructure : TransactionError κ ε → Bool
  | .aborted _ => false
  | _ => true

/-- The error of the steps, or the unit's error if the steps did not fail. -/
def intoSource (t : TransactionError κ ε) : Except (TransactionError κ ε) ε :=
  match t.source? with
  | some e => .ok e
  | none => .error t

/-- Converts the error of the steps and keeps all else. -/
def mapSource (f : ε → ε') : TransactionError κ ε → TransactionError κ ε'
  | .begin c => .begin c
  | .aborted e => .aborted (f e)
  | .rollbackFailed e r => .rollbackFailed (f e) r
  | .release c => .release c
  | .commit c => .commit c

/-- Converts what the database said and keeps all else. -/
def mapCause (f : κ → κ') : TransactionError κ ε → TransactionError κ' ε
  | .begin c => .begin (f c)
  | .aborted e => .aborted e
  | .rollbackFailed e r => .rollbackFailed e (f r)
  | .release c => .release (f c)
  | .commit c => .commit (f c)

/-- The text of the error. -/
def message [Report κ] [Report ε] : TransactionError κ ε → String
  | .begin c => Report.of "failed to begin unit of work" (Report.message c)
  | .aborted e => Report.message e
  | .rollbackFailed e r =>
    Report.both (Report.of "rollback error" (Report.message r))
      (Report.of "original error" (Report.message e))
  | .release c => Report.of "failed to release savepoint" (Report.message c)
  | .commit c => Report.of "transaction commit error" (Report.message c)

/-- The texts of the errors behind it. -/
def sources [Report κ] [Report ε] : TransactionError κ ε → List String
  | .aborted e => Report.sources e
  | .rollbackFailed e _ => Report.chain e
  | .begin c | .release c | .commit c => Report.chain c

instance [Report κ] [Report ε] : Report (TransactionError κ ε) := ⟨message, sources⟩

end TransactionError

end SharedPages
