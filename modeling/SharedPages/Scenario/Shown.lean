import SharedPages.Json
import SharedPages.Supply

/-! # What is shown of a scenario

A `Shown` value is a JSON tree in which identifiers and invite codes are yet to be written.  Those
that were written down in the scenario are shown as they are.  Generated ones differ from run to
run: the first generated identifier that is shown is `#1`, the next one `#2`, and so on, and every
generated code is `#code`. -/

namespace SharedPages.Scenario

/-- JSON with identifiers and invite codes. -/
inductive Shown where
  | json (j : Json)
  | id (u : Uuid)
  | code (s : String)
  | list (items : List Shown)
  | record (members : List (String × Shown))

namespace Shown

instance : Inhabited Shown := ⟨json .null⟩

/-- No value. -/
def nothing : Shown := json .null

/-- A text. -/
def text (s : String) : Shown := json (.string s)

/-- Texts. -/
def texts (ss : List String) : Shown := list (ss.map text)

/-- A truth value. -/
def flag (b : Bool) : Shown := json (.bool b)

/-- An integer. -/
def integer (n : Int) : Shown := json (.integer n)

/-- A number. -/
def number (n : Nat) : Shown := integer n

/-- A value that may be absent. -/
def option {α : Type} (write : α → Shown) (a : Option α) : Shown := a.elim nothing write

/-- Success with a value. -/
def ok (s : Shown) : Shown := record [("ok", s)]

/-- A member that is left out if it is absent. -/
def member? (name : String) (s : Option Shown) : List (String × Shown) := (s.map (name, ·)).toList

end Shown

/-- What was written down, and the generated identifiers in the order in which they were shown. -/
structure Naming where
  ids : List Uuid
  codes : List String
  generated : List Uuid := []

namespace Naming

/-- The text of the `place`-th generated identifier.  The version is told if it is unusual. -/
def numbered (place : Nat) (u : Uuid) : String :=
  "#" ++ toString place ++ (if u.version = 7 then "" else ":v" ++ toString u.version)

/-- Shows an identifier. -/
def showId (u : Uuid) : StateM Naming String := fun names =>
  if names.ids.contains u then (u.text, names)
  else match names.generated.findIdx? (· == u) with
    | some i => (numbered (i + 1) u, names)
    | none =>
      (numbered (names.generated.length + 1) u,
        { names with generated := names.generated ++ [u] })

/-- Shows an invite code. -/
def showCode (s : String) : StateM Naming String := fun names =>
  (if !names.codes.contains s && Supply.isCode s then "#code" else s, names)

mutual

/-- Writes identifiers and codes, from left to right. -/
def write : Shown → StateM Naming Json
  | .json j => return j
  | .id u => return .string (← showId u)
  | .code s => return .string (← showCode s)
  | .list items => return .array (← writeItems items)
  | .record members => return .object (← writeMembers members)

/-- Writes the items of a list. -/
def writeItems : List Shown → StateM Naming (List Json)
  | [] => return []
  | s :: rest => return (← write s) :: (← writeItems rest)

/-- Writes the members of a record. -/
def writeMembers : List (String × Shown) → StateM Naming (List (String × Json))
  | [] => return []
  | (name, s) :: rest => return (name, ← write s) :: (← writeMembers rest)

end

end Naming

/-- The JSON of what is shown, where some identifiers and codes were written down. -/
def Shown.toJson (s : Shown) (ids : List Uuid) (codes : List String) : Json :=
  ((Naming.write s).run ⟨ids, codes, []⟩).1

end SharedPages.Scenario
