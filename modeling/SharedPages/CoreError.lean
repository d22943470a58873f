import SharedPages.Report

/-! # Errors about values and settings -/

namespace SharedPages

/-- Errors that belong to no part of the service in particular. -/
inductive CoreError where
  | validation (message : String)
  | invalidIdentifier (kind value : String)
  | configuration (message : String)
deriving DecidableEq

/-- The text of the error. -/
def CoreError.message : CoreError → String
  | .validation message => "Validation error: " ++ message
  | .invalidIdentifier kind value => "Invalid " ++ kind ++ " identifier: " ++ value
  | .configuration message => "Configuration error: " ++ message

instance : Report CoreError := ⟨CoreError.message, fun _ => []⟩

end SharedPages
