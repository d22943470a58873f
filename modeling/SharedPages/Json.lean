import SharedPages.Binary64

/-! # JSON trees

The values that JSON texts denote.  A number without a point and an exponent is an integer, any
other one is a binary floating-point number.  `Json.text` writes a tree without blanks. -/

namespace SharedPages

/-- A JSON value.  The names of an object's members differ. -/
inductive Json where
  | null
  | bool (b : Bool)
  | integer (n : Int)
  | real (x : Binary64)
  | string (s : String)
  | array (items : List Json)
  | object (members : List (String × Json))

namespace Json

instance : Inhabited Json := ⟨null⟩

/-- The member of that name, if the value is an object that has one. -/
def member? (name : String) : Json → Option Json
  | object members => members.lookup name
  | _ => none

/-- How a text shows a character. -/
def escape (c : Char) : List Char :=
  if c = '"' then ['\\', '"']
  else if c = '\\' then ['\\', '\\']
  else if c = '\n' then ['\\', 'n']
  else if c = '\r' then ['\\', 'r']
  else if c = '\t' then ['\\', 't']
  else if c.toNat = 8 then ['\\', 'b']
  else if c.toNat = 12 then ['\\', 'f']
  else if c.toNat < 32 then
    '\\' :: 'u' :: '0' :: '0' :: Nat.digitChar (c.toNat / 16) :: [Nat.digitChar (c.toNat % 16)]
  else [c]

/-- A string between quotes, with escapes. -/
def quote (s : String) : String := String.ofList ('"' :: s.toList.flatMap escape ++ ['"'])

mutual

/-- The text of a value, without blanks. -/
def text : Json → String
  | null => "null"
  | bool b => if b then "true" else "false"
  | integer n => toString n
  | real x => x.pointText
  | string s => quote s
  | array items => "[" ++ ",".intercalate (texts items) ++ "]"
  | object members => "\x7b" ++ ",".intercalate (memberTexts members) ++ "\x7d"

/-- The texts of values. -/
def texts : List Json → List String
  | [] => []
  | j :: rest => text j :: texts rest

/-- The texts of members. -/
def memberTexts : List (String × Json) → List String
  | [] => []
  | (name, j) :: rest => (quote name ++ ":" ++ text j) :: memberTexts rest

end

end Json

end SharedPages
