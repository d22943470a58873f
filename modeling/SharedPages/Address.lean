import SharedPages.Text.Numeral
import SharedPages.Text.Percent

/-! # Internet addresses

An address of version 4 is four numbers below 256 in decimal, joined by points.  One of version 6 is
eight groups of sixteen bits in hexadecimal, joined by colons; two colons in a row stand for one or
more groups that are zero, and the last two groups may be given as an address of version 4.

An address of version 4 may also be written loosely: in fewer numbers, the last of which fills the
place of those that are missing, and with octal and hexadecimal numbers. -/

namespace SharedPages.Address

/-- One of the four numbers: one to three digits without a leading zero. -/
def octet? (cs : List Char) : Option Nat :=
  if cs.length ≤ 3 ∧ (cs.length ≤ 1 ∨ cs.head? ≠ some '0') then
    (Numeral.readDigits 255 cs).toOption
  else none

/-- The four numbers of an address of version 4. -/
def octets? (cs : List Char) : Option (List Nat) :=
  let pieces := Text.splitOn '.' cs
  if pieces.length = 4 then pieces.mapM octet? else none

/-- Digits in a base of at most 16. -/
def digits? (base : Nat) (cs : List Char) : Option Nat :=
  cs.foldlM (fun n c =>
    match Uuid.hexValue? c with
    | some d => if d < base then some (base * n + d) else none
    | none => none) 0

/-- A number that is hexadecimal after `0x`, octal after another zero, and decimal else. -/
def looseNumber? : (cs : List Char) → Option Nat
  | [] => none
  | '0' :: 'x' :: rest => digits? 16 rest
  | '0' :: rest => digits? 8 rest
  | cs => digits? 10 cs

/-- The last piece of the name is a number.  One point may follow it. -/
def endsInNumber (name : List Char) : Bool :=
  let pieces := (Text.splitOn '.' name).reverse
  let pieces := if pieces.head? = some [] then pieces.drop 1 else pieces
  match pieces with
  | [] => false
  | last :: _ => !last.isEmpty && last.all Char.isDigit || (looseNumber? last).isSome

/-- The four numbers of an address that is written loosely. -/
def looseOctets? (name : List Char) : Option (List Nat) := do
  let pieces := Text.splitOn '.' name
  let pieces := if pieces.getLast? = some [] then pieces.dropLast else pieces
  let numbers ← pieces.mapM looseNumber?
  let last ← numbers.getLast?
  let front := numbers.dropLast
  if front.length ≤ 3 ∧ front.all (· < 256) ∧ last < 1 <<< (8 * (4 - front.length)) then
    return front ++
      (List.range (4 - front.length)).reverse.map fun i => last / (1 <<< (8 * i)) % 256
  else none

/-- Numbers joined by points. -/
def octetsText (octets : List Nat) : String := ".".intercalate (octets.map toString)

/-- One group: one to four hex digits. -/
def group? (cs : List Char) : Option Nat :=
  if 1 ≤ cs.length ∧ cs.length ≤ 4 then Uuid.hexNumber? cs else none

/-- The groups that the last piece of an address stands for. -/
def lastGroups? (cs : List Char) : Option (List Nat) :=
  match octets? cs with
  | some [a, b, c, d] => some [256 * a + b, 256 * c + d]
  | _ => (group? cs).map ([·])

/-- Groups joined by colons, the last of them perhaps an address of version 4. -/
def groupsEnding? (cs : List Char) : Option (List Nat) :=
  let pieces := Text.splitOn ':' cs
  match pieces.getLast? with
  | none => none
  | some last => return (← pieces.dropLast.mapM group?) ++ (← lastGroups? last)

/-- What stands before and after the first two colons in a row. -/
def splitGap? : List Char → Option (List Char × List Char)
  | ':' :: ':' :: rest => some ([], rest)
  | c :: rest => (splitGap? rest).map fun (front, back) => (c :: front, back)
  | [] => none

/-- The eight groups of an address of version 6. -/
def groups? (cs : List Char) : Option (List Nat) :=
  match splitGap? cs with
  | none => (groupsEnding? cs).filter (·.length = 8)
  | some (front, back) => do
    let front ← if front.isEmpty then some [] else (Text.splitOn ':' front).mapM group?
    let back ← if back.isEmpty then some [] else groupsEnding? back
    if front.length + back.length ≤ 7 then
      some (front ++ List.replicate (8 - front.length - back.length) 0 ++ back)
    else none

/-- The text is an address of either version. -/
def isAddress (s : String) : Bool := (octets? s.toList).isSome || (groups? s.toList).isSome

/-- The length of the run of zeros that `gs` starts with. -/
def zeros (gs : List Nat) : Nat := (gs.takeWhile (· = 0)).length

/-- Groups joined by colons. -/
def joinGroups (gs : List Nat) : List Char :=
  [':'].intercalate (gs.map (Nat.toDigits 16 ·))

/-- The shortest text of eight groups: the first of the longest runs of at least two zeros is left
    out. -/
def groupsText (gs : List Nat) : List Char :=
  let longest := ((List.range gs.length).map fun i => zeros (gs.drop i)).foldl max 0
  match (List.range gs.length).find? fun i => zeros (gs.drop i) = longest with
  | some i =>
    if longest < 2 then joinGroups gs
    else joinGroups (gs.take i) ++ ':' :: ':' :: joinGroups (gs.drop (i + longest))
  | none => joinGroups gs

end SharedPages.Address
