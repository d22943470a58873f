import SharedPages.Json.Field
import SharedPages.Json.Stored
import SharedPages.PageQuery
import SharedPages.Scenario.Step
import SharedPages.Supply

/-! # What scenarios are written with

How users, pages and queries are written in a scenario.  Reading takes note of every identifier and
invite code that is written down, and generates those that are asked for; it stops at the first
fault.

An identifier is a number or a text.  A user is an object of its fields, or asks for a new one by
`new` or `google`.  A step is an object; if it groups other steps, they are its member `steps`. -/

namespace SharedPages.Scenario

/-- What was met so far. -/
structure Known where
  ids : List Uuid := []
  codes : List String := []
  supply : Supply := {}

/-- Reading that can meet a fault. -/
abbrev Reading := ExceptT Fault (StateM Known)

namespace Reading

/-- Reads on after a fault, and gives it as a value. -/
def attempt {α : Type} (r : Reading α) : Reading (Except Fault α) :=
  ExceptT.mk (do return .ok (← r.run))

/-- What is under a name, or the fault that there is nothing. -/
def find {α : Type} (what : String) (names : List (String × α)) (name : String) : Reading α :=
  match names.lookup name with
  | some a => return a
  | none => throw (.unknown what)

/-- The fault of a value that is no identifier. -/
def noId : Fault := .text "id must be a number or a string"

/-- The identifier that is written down.  A text may carry the tag of pages. -/
def uuid (j : Json) : Except Fault Uuid :=
  match j with
  | .integer n => if n < 0 then .error noId else .ok (.ofNat n.toNat)
  | .string s => ((Id.parse s : Except Uuid.Fault PageId).map (·.uuid)).mapError .id
  | _ => .error noId

/-- An identifier. -/
def id (kind : Kind) (j : Json) : Reading (Id kind) := do
  let u ← MonadExcept.ofExcept (uuid j)
  modify fun known => { known with ids := u :: known.ids }
  return ⟨u⟩

/-- A fresh identifier. -/
def freshId (kind : Kind) : Reading (Id kind) := do
  let (id, supply) := (← get).supply.id kind
  modify fun known => { known with supply }
  return id

/-- A fresh invite code. -/
def freshCode : Reading String := do
  let (code, supply) := (← get).supply.code
  modify fun known => { known with supply }
  return code

/-- An invite code. -/
def code (s : String) : Reading String := do
  modify fun known => { known with codes := s :: known.codes }
  return s

/-- A provider. -/
def provider (name : String) : Reading Provider :=
  match Provider.ofName? name with
  | some p => return p
  | none => throw (.provider name)

/-- A user. -/
def user (j : Json) : Reading User := do
  if let some uid := j.textAt? "new" then return .new (← freshId .user) uid
  if let some uid := j.textAt? "google" then return .google (← freshId .user) uid
  let id ← id .user (j.field "id")
  let provider ← match j.textAt? "provider" with
    | some name => provider name
    | none => pure .anonymous
  let joined ← (j.itemsAt "joined").mapM (Reading.id .page)
  return ⟨id, j.textAt "uid", provider, j.textAt? "email", joined⟩

/-- Users under names. -/
def users (members : List (String × Json)) : Reading (List (String × User)) :=
  members.mapM fun (name, j) => return (name, ← user j)

/-- A priority, whose last 32 bits count. -/
def priority : Json → Priority
  | .integer n => (Priority.ofInt? (n.bmod 0x100000000)).getD (.ofNat 0)
  | _ => .ofNat 0

/-- A link. -/
def link (j : Json) : Link := ⟨j.textAt "url", j.textAt "memo", priority (j.field "priority")⟩

/-- The links of a page. -/
def links (j : Json) : Links := (j.itemsAt "links").map link

/-- A page. -/
def page (j : Json) : Reading Page := do
  let id ← id .page (j.field "id")
  let creator ← user (j.field "created_by")
  let invited ← (j.itemsAt "invited").mapM user
  return ⟨id, j.textAt "title", creator, ← code (j.textAt "code"), links j, invited⟩

/-- A query. -/
def query (j : Json) : Reading PageQuery := do
  let ids ← (j.itemsAt "ids").mapM (id .page)
  let createdBy ← match j.field "created_by" with
    | .null => pure none
    | creator => some <$> id .user creator
  let limit := 0xffffffff
  return ⟨ids, createdBy, j.naturalAt? limit "page", j.naturalAt? limit "page_size"⟩

end Reading

/-- How the steps of some kind of scenario are written. -/
structure Grammar (α : Type) where
  /-- What makes a step of those that it groups, if it groups any. -/
  group? : Json → Option (Reading (List (Step α) → Step α))
  /-- A step that groups no others. -/
  single : Json → Reading (Step α)

namespace Grammar

variable {α : Type} (grammar : Grammar α)

mutual

/-- Reads a step. -/
def step : Json → Reading (Step α)
  | .object members =>
    match grammar.group? (.object members) with
    | some make => do return (← make) (← inner members)
    | none => grammar.single (.object members)
  | j => grammar.single j

/-- Reads the steps that a step groups. -/
def inner : List (String × Json) → Reading (List (Step α))
  | [] => return []
  | (name, j) :: rest => if name = "steps" then steps j else inner rest

/-- Reads a list of steps. -/
def steps : Json → Reading (List (Step α))
  | .array items => stepList items
  | _ => return []

/-- Reads steps, one after the other. -/
def stepList : List Json → Reading (List (Step α))
  | [] => return []
  | j :: rest => return (← step j) :: (← stepList rest)

end

end Grammar

end SharedPages.Scenario
