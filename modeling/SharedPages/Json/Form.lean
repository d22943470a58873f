import SharedPages.Json

/-! # Values with a JSON form

`JsonForm α` writes values of `α` as JSON and reads them back.  A record is written as an object
and read from an object, in which unknown members are ignored and an optional member may be
missing, or from the array of its fields in order. -/

namespace SharedPages

/-- Types whose values have a JSON form. -/
class JsonForm (α : Type) where
  toJson : α → Json
  ofJson? : Json → Option α

namespace JsonForm

variable {α : Type}

instance : JsonForm Bool where
  toJson := .bool
  ofJson?
    | .bool b => some b
    | _ => none

instance : JsonForm String where
  toJson := .string
  ofJson?
    | .string s => some s
    | _ => none

instance [JsonForm α] : JsonForm (Option α) where
  toJson
    | some a => toJson a
    | none => .null
  ofJson?
    | .null => some none
    | j => (ofJson? j).map some

instance [JsonForm α] : JsonForm (List α) where
  toJson as := .array (as.map toJson)
  ofJson?
    | .array items => items.mapM ofJson?
    | _ => none

/-- An integer from 0 to `limit`. -/
def natural? (limit : Nat) : Json → Option Nat
  | .integer n => if 0 ≤ n ∧ n ≤ limit then some n.toNat else none
  | _ => none

/-- The fields of a record, each absent or present. -/
def fields? (names : List String) : Json → Option (List (Option Json))
  | .object members => some (names.map (members.lookup ·))
  | .array items => if items.length = names.length then some (items.map some) else none
  | _ => none

/-- A field that must be there. -/
def needed [JsonForm α] (field : Option Json) : Option α := field.bind ofJson?

/-- A field that may be missing. -/
def omittable [JsonForm α] : (field : Option Json) → Option (Option α)
  | some j => ofJson? j
  | none => some none

end JsonForm

end SharedPages
