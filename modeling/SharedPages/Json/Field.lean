import SharedPages.Json.Form

/-! # Lenient reading of JSON objects

What a member of an object holds.  A member that is missing or of another type counts as absent;
where the wanted type has an empty value, it is that. -/

namespace SharedPages.Json

/-- The member of a name, null if there is none. -/
def field (j : Json) (name : String) : Json := (j.member? name).getD null

/-- A text, if the value is one. -/
def string? : Json → Option String
  | string s => some s
  | _ => none

/-- The items of an array. -/
def items : Json → List Json
  | array items => items
  | _ => []

/-- The members of an object. -/
def members : Json → List (String × Json)
  | object members => members
  | _ => []

/-- The value is true. -/
def isTrue : Json → Bool
  | bool b => b
  | _ => false

/-- The text of a name, if there is one. -/
def textAt? (j : Json) (name : String) : Option String := (j.field name).string?

/-- The text of a name. -/
def textAt (j : Json) (name : String) : String := (j.textAt? name).getD ""

/-- The items of a name. -/
def itemsAt (j : Json) (name : String) : List Json := (j.field name).items

/-- The members of a name. -/
def membersAt (j : Json) (name : String) : List (String × Json) := (j.field name).members

/-- The texts among the items of a name. -/
def textsAt (j : Json) (name : String) : List String := (j.itemsAt name).filterMap string?

/-- The flag of a name. -/
def flagAt (j : Json) (name : String) : Bool := (j.field name).isTrue

/-- The number of a name, from 0 to `limit`. -/
def naturalAt? (limit : Nat) (j : Json) (name : String) : Option Nat :=
  JsonForm.natural? limit (j.field name)

end SharedPages.Json
