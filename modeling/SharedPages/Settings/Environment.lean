import SharedPages.Settings
import SharedPages.Settings.Given
import SharedPages.Text.Quoted

/-! # Settings from variables

Settings are read from named texts.  The name of a variable is `API_` and a path to the setting, in
letters of any case, where two underscores stand for a point.  The database settings are a group, or
a list in which each has the position of its name.  Other variables are ignored, and settings for
which nothing is given have their defaults.

A text is read as a truth value, an integer, a number or else as itself (`Scalar.read`), and then
turned into what the setting wants. -/

namespace SharedPages.Settings

open Text

/-- A name between backquotes, after the words that introduce it. -/
def forKey (key : String) : String := " for key `" ++ key ++ "`"

/-- The text that refuses a value. -/
def refusal (found wanted : String) : String :=
  "invalid type: " ++ found ++ ", expected " ++ wanted

/-- The text that refuses the value of a setting. -/
def refusalFor (key found wanted : String) : String :=
  refusal found wanted ++ forKey key

/-- The text that refuses the value of a variable. -/
def refusalIn (key found wanted : String) : String :=
  refusalFor key found wanted ++ " in the environment"

/-- How a refusal names a text. -/
def foundText (s : String) : String := "string " ++ quote s

/-- How a refusal names a scalar where none is wanted. -/
def Scalar.found : Scalar → String
  | flag b => "boolean `" ++ (if b then "true" else "false") ++ "`"
  | integer n => "integer `" ++ toString n ++ "`"
  | real x => "floating point `" ++ x.pointText ++ "`"
  | text s => foundText s

/-- How a refusal names what is given. -/
def Given.found : Given → String
  | nothing => "unit value"
  | scalar v => v.found
  | group _ => "map"
  | list _ => "sequence"

/-- The scalar that is given, where one is wanted. -/
def wantScalar (key wanted : String) : Given → Except String Scalar
  | .scalar v => .ok v
  | given => .error (refusalFor key given.found wanted)

/-- The words that stand for true and false, in lowercase. -/
def truthOfWord? (s : String) : Option Bool :=
  if ["true", "on", "yes"].contains s then some true
  else if ["false", "off", "no"].contains s then some false
  else none

/-- The text that a setting wants. -/
def wantText (key : String) (given : Given) : Except String String :=
  (wantScalar key "a string" given).map Scalar.asText

/-- The text that a setting wants, if anything is given. -/
def wantText? (key : String) : Given → Except String (Option String)
  | .nothing => .ok none
  | given => (wantText key given).map some

/-- The natural number of at most `bits` bits that a setting wants. -/
def wantNat (bits : Nat) (key : String) (given : Given) : Except String Nat := do
  let n ← match ← wantScalar key "an integer" given with
    | .flag b => .ok b.toNat
    | .integer n =>
      if n < 0 then
        .error (refusalIn key ("64-bit integer `" ++ toString n ++ "`")
          "an unsigned 64 bit or less integer")
      else .ok n.toNat
    | .real x => .ok x.toWord
    | .text s =>
      match truthOfWord? (lowercase s), Numeral.readWord64? s with
      | some b, _ => .ok b.toNat
      | none, some n => .ok n
      | none, none => .error (refusalIn key (foundText s) "an integer")
  if n < 1 <<< bits then return n
  else throw (refusalFor key ("64-bit unsigned integer `" ++ toString n ++ "`")
    ("an unsigned " ++ toString bits ++ " bit integer"))

/-- The truth value that a setting wants. -/
def wantBool (key : String) (given : Given) : Except String Bool := do
  match ← wantScalar key "a boolean" given with
  | .flag b => return b
  | .integer n => return n ≠ 0
  | .real x => return !x.isZero
  | .text s =>
    let lower := lowercase s
    if lower = "1" then return true
    else if lower = "0" then return false
    else match truthOfWord? lower with
      | some b => return b
      | none => throw (refusalIn key (foundText lower) "a boolean")

/-! ## Names of variables -/

/-- Puts a point for every two underscores, the leftmost first. -/
def pointed : List Char → List Char
  | '_' :: '_' :: rest => '.' :: pointed rest
  | c :: rest => c :: pointed rest
  | [] => []

/-- The path that a variable's name gives, if it gives one. -/
def pathOf? (name : String) : Option (List Step) :=
  let cs := (lowercase name).toList
  if cs.take 4 = ['a', 'p', 'i', '_'] then path? (pointed (cs.drop 4)) else none

/-- What variables give, the later ones put after the earlier ones. -/
def Given.ofVariables (vars : List (String × String)) : Given :=
  vars.foldl (fun given (name, value) =>
    match pathOf? name with
    | some path => given.put path (.scalar (Scalar.read value))
    | none => given) (.group [])

/-! ## The settings -/

/-- What is given for a setting, if anything is, and the key that it goes by. -/
def Given.setting? (given : Given) (key name : String) (position : Nat) :
    Option (String × Given) :=
  match given with
  | .list items => items[position]?.map fun v => (key ++ "[" ++ toString position ++ "]", v)
  | _ => (given.members.lookup name).map fun v => (if key = "" then name else key ++ "." ++ name, v)

/-- The value of a setting, or its default if nothing is given for it. -/
def orDefault {α : Type} (value : α) (want : String → Given → Except String α) :
    Option (String × Given) → Except String α
  | some (key, given) => want key given
  | none => .ok value

/-- The settings of the database. -/
def databaseOf (key : String) (given : Given) : Except String DatabaseSettings := do
  let read {α : Type} (position : Nat) (name : String) (value : α)
      (want : String → Given → Except String α) : Except String α :=
    orDefault value want (given.setting? key name position)
  let d : DatabaseSettings := {}
  match given with
  | .group _ | .list _ => return {
      writeUrl := ← read 0 "write_url" d.writeUrl wantText
      readUrl := ← read 1 "read_url" d.readUrl wantText?
      schema := ← read 2 "schema" d.schema wantText
      maxConnections := ← read 3 "max_connections" d.maxConnections (wantNat 32)
      minConnections := ← read 4 "min_connections" d.minConnections (wantNat 32)
      connectTimeoutSecs := ← read 5 "connect_timeout_secs" d.connectTimeoutSecs (wantNat 64)
      idleTimeoutSecs := ← read 6 "idle_timeout_secs" d.idleTimeoutSecs (wantNat 64)
      maxLifetimeSecs := ← read 7 "max_lifetime_secs" d.maxLifetimeSecs (wantNat 64)
      debug := ← read 8 "debug" d.debug wantBool }
  | _ => throw (refusal given.found "struct DatabaseSettings")

/-- The settings that variables give, or the text that refuses one of them. -/
def ofVariables (vars : List (String × String)) : Except String Settings := do
  let given := Given.ofVariables vars
  let read {α : Type} (position : Nat) (name : String) (value : α)
      (want : String → Given → Except String α) : Except String α :=
    orDefault value want (given.setting? "" name position)
  let d : Settings := {}
  return {
    host := ← read 0 "host" d.host wantText
    port := ← read 1 "port" d.port (wantNat 16)
    logLevel := ← read 2 "log_level" d.logLevel wantText
    database := ← read 3 "database" d.database databaseOf }

end SharedPages.Settings
