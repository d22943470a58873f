import SharedPages.Binary64
import SharedPages.Text.Lowercase

/-! # What settings are given

The values that variables give form a tree: a scalar, a group of named members, or a list of items.
A path leads to one place of the tree, by the names of members and the positions of items, and
`Given.put` sets what stands there.  It makes the groups and lists that the path needs, also where
something else stood before. -/

namespace SharedPages.Settings

open Text

/-- What the text of a variable is read as. -/
inductive Scalar where
  | flag (b : Bool)
  | integer (n : Int)
  | real (x : Binary64)
  | text (s : String)
deriving DecidableEq

namespace Scalar

/-- Reads the text of a variable. -/
def read (s : String) : Scalar :=
  let lower := lowercase s
  if lower = "true" then flag true
  else if lower = "false" then flag false
  else match Numeral.readInt64? s with
    | some n => integer n
    | none =>
      match Binary64.read? s with
      | some x => real x
      | none => text s

/-- The value as a text. -/
def asText : Scalar → String
  | flag b => if b then "true" else "false"
  | integer n => toString n
  | real x => x.text
  | text s => s

end Scalar

/-- One step of a path: to a member of a group or to an item of a list.  A negative position counts
    from the end of the list. -/
inductive Step where
  | member (name : String)
  | item (position : Int)
deriving DecidableEq

/-- What is given in one place.  A list has nothing in the places that no path led to. -/
inductive Given where
  | nothing
  | scalar (value : Scalar)
  | group (members : List (String × Given))
  | list (items : List Given)

namespace Given

/-- The members of a group; anything else has none. -/
def members : Given → List (String × Given)
  | group members => members
  | _ => []

/-- The items of a list; anything else has none. -/
def items : Given → List Given
  | list items => items
  | _ => []

/-- The value under a name, or nothing. -/
def member (given : Given) (name : String) : Given :=
  (given.members.lookup name).getD nothing

/-- Sets the value under a name. -/
def setMember (members : List (String × Given)) (name : String) (value : Given) :
    List (String × Given) :=
  if (members.lookup name).isSome then
    members.map fun m => if m.1 = name then (name, value) else m
  else members ++ [(name, value)]

/-- The index of a position in a list of `length` items.  A position before the first item has
    none. -/
def index? (length : Nat) : (position : Int) → Option Nat
  | .ofNat n => some n
  | .negSucc n => if n < length then some (length - n - 1) else none

/-- Sets an item, after as many empty places as it takes. -/
def setItem (items : List Given) (index : Nat) (value : Given) : List Given :=
  (items ++ List.replicate (index + 1 - items.length) nothing).set index value

/-- Puts a value at the end of a path. -/
def put (given : Given) (path : List Step) (value : Given) : Given :=
  match path with
  | [] => value
  | .member name :: rest =>
    group (setMember given.members name (put (given.member name) rest value))
  | .item position :: rest =>
    match index? given.items.length position with
    | some i => list (setItem given.items i (put (given.items.getD i nothing) rest value))
    | none => given

end Given

/-! ## Paths -/

/-- The character may stand in the name of a member. -/
def isMemberChar (c : Char) : Bool := c.isAlphanum || [' ', '_', '-'].contains c

/-- Reads a position: digits, perhaps after a minus sign, with blanks on both sides. -/
def position? (cs : List Char) : Option Int :=
  let isBlank (c : Char) : Bool := c == ' ' || c == '\t'
  let cs := ((cs.dropWhile isBlank).reverse.dropWhile isBlank).reverse
  if cs.head? = some '+' then none else Numeral.readInt64? (String.ofList cs)

/-- Reads the steps after the first one: names after points and positions in brackets. -/
def steps? (cs : List Char) : Option (List Step) :=
  match cs with
  | [] => some []
  | '.' :: rest =>
    let name := rest.takeWhile isMemberChar
    if name.isEmpty then none
    else (steps? (rest.drop name.length)).map (.member (String.ofList name) :: ·)
  | '[' :: rest =>
    let inner := rest.takeWhile (· ≠ ']')
    if inner.length < rest.length then
      match position? inner with
      | some position => (steps? (rest.drop (inner.length + 1))).map (.item position :: ·)
      | none => none
    else none
  | _ => none
termination_by cs.length
decreasing_by
  · simp only [List.length_drop, List.length_cons]
    omega
  · simp only [List.length_drop, List.length_cons]
    omega

/-- Reads a path, which starts with a name. -/
def path? (cs : List Char) : Option (List Step) := steps? ('.' :: cs)

end SharedPages.Settings
