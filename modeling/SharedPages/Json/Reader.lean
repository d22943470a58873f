import SharedPages.Json
import SharedPages.Uuid.Text

/-! # Reading JSON texts

`Json.parse?` reads a text as a tree.  The members of an object are put in the order of their names,
and of several members of one name the last one counts.  An integer beyond 64 bits is read as a
floating-point number, and so is a zero with a minus sign. -/

namespace SharedPages.Json

/-- The characters after the blanks. -/
def skipBlanks (cs : List Char) : List Char :=
  cs.dropWhile fun c => c == ' ' || c == '\n' || c == '\r' || c == '\t'

/-! ## Strings -/

/-- Splits a string at its closing quote: what it is written with, and the rest. -/
def splitString? : List Char → Option (List Char × List Char)
  | [] => none
  | '"' :: rest => some ([], rest)
  | '\\' :: c :: rest => (splitString? rest).map fun (front, back) => ('\\' :: c :: front, back)
  | c :: rest => (splitString? rest).map fun (front, back) => (c :: front, back)

/-- What the character after a backslash stands for. -/
def escaped? (c : Char) : Option Char :=
  [('"', '"'), ('\\', '\\'), ('/', '/'), ('n', '\n'), ('r', '\r'), ('t', '\t'),
   ('b', Char.ofNat 8), ('f', Char.ofNat 12)].lookup c

/-- The code units that a string is written with: four hex digits after `\u` are one. -/
def units? : List Char → Option (List Nat)
  | [] => some []
  | '\\' :: 'u' :: a :: b :: c :: d :: rest =>
    return (← Uuid.hexNumber? [a, b, c, d]) :: (← units? rest)
  | '\\' :: c :: rest => return (← escaped? c).toNat :: (← units? rest)
  | c :: rest => return c.toNat :: (← units? rest)

/-- The unit is the first half of a pair. -/
def isHigh (u : Nat) : Bool := 0xd800 ≤ u && u < 0xdc00

/-- The unit is the second half of a pair. -/
def isLow (u : Nat) : Bool := 0xdc00 ≤ u && u < 0xe000

/-- Puts a unit in front of others.  Two halves in a row are one character. -/
def joinUnit (u : Nat) : List Nat → List Nat
  | [] => [u]
  | v :: rest =>
    if isHigh u && isLow v then
      (0x10000 + (u - 0xd800) * 0x400 + (v - 0xdc00)) :: rest
    else u :: v :: rest

/-- The characters that code units stand for. -/
def ofUnits (units : List Nat) : List Char := (units.foldr joinUnit []).map Char.ofNat

/-- Reads a string after its opening quote. -/
def readString? (cs : List Char) : Option (String × List Char) := do
  let (written, rest) ← splitString? cs
  return (String.ofList (ofUnits (← units? written)), rest)

/-! ## Numbers -/

/-- The character can stand in a number. -/
def inNumber (c : Char) : Bool := c.isDigit || ['+', '-', '.', 'e', 'E'].contains c

/-- The integer has 64 bits, with or without a sign. -/
def isWord (n : Int) : Bool := -0x8000000000000000 ≤ n && n ≤ 0xffffffffffffffff

/-- The number that a text denotes. -/
def number? (cs : List Char) : Option Json :=
  let s := String.ofList cs
  match s.toInt?.filter fun n => isWord n ∧ s ≠ "-0" with
  | some n => some (integer n)
  | none => (Binary64.read? s).map real

/-! ## Values -/

/-- Puts a member in its place, instead of one of the same name. -/
def putMember (name : String) (j : Json) : List (String × Json) → List (String × Json)
  | [] => [(name, j)]
  | m :: rest =>
    if name = m.1 then (name, j) :: rest
    else if name < m.1 then (name, j) :: m :: rest
    else m :: putMember name j rest

mutual

/-- Reads a value. -/
def readValue? (fuel : Nat) (cs : List Char) : Option (Json × List Char) :=
  match fuel with
  | 0 => none
  | fuel + 1 =>
    match skipBlanks cs with
    | 'n' :: 'u' :: 'l' :: 'l' :: rest => some (null, rest)
    | 't' :: 'r' :: 'u' :: 'e' :: rest => some (bool true, rest)
    | 'f' :: 'a' :: 'l' :: 's' :: 'e' :: rest => some (bool false, rest)
    | '"' :: rest => (readString? rest).map fun (s, rest) => (string s, rest)
    | '[' :: rest =>
      match skipBlanks rest with
      | ']' :: rest => some (array [], rest)
      | rest => readItems? fuel [] rest
    | '\x7b' :: rest =>
      match skipBlanks rest with
      | '\x7d' :: rest => some (object [], rest)
      | rest => readMembers? fuel [] rest
    | rest => (number? (rest.takeWhile inNumber)).map (·, rest.dropWhile inNumber)

/-- Reads the items of an array after those that are `done`, of which the last one comes first. -/
def readItems? (fuel : Nat) (done : List Json) (cs : List Char) : Option (Json × List Char) :=
  match fuel with
  | 0 => none
  | fuel + 1 => do
    let (j, rest) ← readValue? fuel cs
    match skipBlanks rest with
    | ',' :: rest => readItems? fuel (j :: done) rest
    | ']' :: rest => some (array (j :: done).reverse, rest)
    | _ => none

/-- Reads the members of an object after those that are `done`. -/
def readMembers? (fuel : Nat) (done : List (String × Json)) (cs : List Char) :
    Option (Json × List Char) :=
  match fuel with
  | 0 => none
  | fuel + 1 => do
    let '"' :: rest := skipBlanks cs | none
    let (name, rest) ← readString? rest
    let ':' :: rest := skipBlanks rest | none
    let (j, rest) ← readValue? fuel rest
    match skipBlanks rest with
    | ',' :: rest => readMembers? fuel (putMember name j done) rest
    | '\x7d' :: rest => some (object (putMember name j done), rest)
    | _ => none

end

/-- Reads a text.  Every value, item and member takes at least one character, so the length of the
    text bounds how often one is read. -/
def parse? (s : String) : Option Json := do
  let cs := s.toList
  let (j, rest) ← readValue? (2 * cs.length + 1) cs
  if (skipBlanks rest).isEmpty then return j else none

end SharedPages.Json
