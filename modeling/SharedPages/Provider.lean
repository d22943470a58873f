/-! # Identity providers -/

namespace SharedPages

/-- Who vouches for a user.  Nobody does for an anonymous one. -/
inductive Provider where
  | anonymous | google | facebook
deriving DecidableEq

namespace Provider

/-- The name of a provider. -/
def name : Provider → String
  | .anonymous => "anonymous"
  | .google => "google"
  | .facebook => "facebook"

instance : ToString Provider := ⟨name⟩

/-- The provider of that name. -/
def ofName? : String → Option Provider
  | "anonymous" => some .anonymous
  | "google" => some .google
  | "facebook" => some .facebook
  | _ => none

@[simp] theorem ofName?_name (p : Provider) : ofName? p.name = some p := by cases p <;> rfl

/-- Providers are found under their own names, and under no others. -/
theorem ofName?_eq_some_iff {s : String} {p : Provider} : ofName? s = some p ↔ p.name = s := by
  constructor
  · intro h
    unfold ofName? at h
    split at h <;> cases h <;> rfl
  · rintro rfl
    exact ofName?_name p

end Provider

end SharedPages
