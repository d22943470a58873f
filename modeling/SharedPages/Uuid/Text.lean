import SharedPages.Uuid

/-! # The text form of identifiers

`Uuid.text` writes thirty-two lowercase hex digits in groups of 8, 4, 4, 4 and 12, joined by
hyphens.  `Uuid.parse` reads four forms, with digits of either case:

* simple: the digits alone;
* hyphenated: the digits in their groups;
* braced: the hyphenated form between braces;
* urn: the hyphenated form after `urn:uuid:`, whose letters may be of either case.

A text in none of these forms is refused with the first thing that is wrong with it (`Fault`). -/

namespace SharedPages.Uuid

/-- The lowercase hex digit of a number below sixteen. -/
def hexDigit (n : Nat) : Char :=
  Char.ofNat (if n < 10 then '0'.toNat + n else 'a'.toNat + (n - 10))

/-- The value of a hex digit of either case. -/
def hexValue? (c : Char) : Option Nat :=
  if '0' ≤ c ∧ c ≤ '9' then some (c.toNat - '0'.toNat)
  else if 'a' ≤ c ∧ c ≤ 'f' then some (c.toNat - 'a'.toNat + 10)
  else if 'A' ≤ c ∧ c ≤ 'F' then some (c.toNat - 'A'.toNat + 10)
  else none

/-- The last `width` hex digits of `n`, most significant first. -/
def hexDigits : (width : Nat) → (n : Nat) → List Char
  | 0, _ => []
  | width + 1, n => hexDigits width (n / 16) ++ [hexDigit (n % 16)]

theorem length_hexDigits (width n : Nat) : (hexDigits width n).length = width := by
  induction width generalizing n with
  | zero => rfl
  | succ width ih => simp [hexDigits, ih]

/-- The number that hex digits spell, or nothing if one of them is no digit. -/
def hexNumber? (digits : List Char) : Option Nat :=
  digits.foldlM (fun n c => (hexValue? c).map (16 * n + ·)) 0

/-- Thirty-two digits in groups of 8, 4, 4, 4 and 12, joined by hyphens. -/
def hyphenate (digits : List Char) : List Char :=
  digits.take 8 ++ '-' :: (digits.drop 8).take 4 ++ '-' :: (digits.drop 12).take 4 ++
    '-' :: (digits.drop 16).take 4 ++ '-' :: digits.drop 20

/-- The characters of the text form. -/
def chars (u : Uuid) : List Char := hyphenate (hexDigits 32 u.value)

/-- The text form: lowercase digits in hyphenated groups. -/
def text (u : Uuid) : String := String.ofList u.chars

instance : ToString Uuid := ⟨text⟩

/-! ## Reading -/

/-- Thirty-two hex digits. -/
def ofSimple? (cs : List Char) : Option Uuid :=
  if cs.length = 32 then (hexNumber? cs).map ofNat else none

/-- Thirty-two hex digits in hyphenated groups. -/
def ofHyphenated? (cs : List Char) : Option Uuid :=
  let digits := cs.take 8 ++ (cs.drop 9).take 4 ++ (cs.drop 14).take 4 ++ (cs.drop 19).take 4 ++
    cs.drop 24
  if hyphenate digits = cs then ofSimple? digits else none

/-- What stands between braces. -/
def unbrace? : List Char → Option (List Char)
  | '\x7b' :: rest => if rest.getLast? = some '\x7d' then some rest.dropLast else none
  | _ => none

/-- The words that introduce the urn form. -/
def urnWords : List Char := ['u', 'r', 'n', ':', 'u', 'u', 'i', 'd', ':']

/-- What follows the words of the urn form. -/
def afterUrn? (cs : List Char) : Option (List Char) :=
  if (cs.take 9).map Char.toLower = urnWords then some (cs.drop 9) else none

/-- The identifier that a text in one of the four forms names. -/
def ofChars? (cs : List Char) : Option Uuid :=
  ofSimple? cs <|> ofHyphenated? cs <|> (unbrace? cs).bind ofHyphenated? <|>
    (afterUrn? cs).bind ofHyphenated?

/-! ## Refusals -/

/-- Why a text names no identifier.  Lengths and indices count bytes. -/
inductive Fault where
  | length (found : Nat)
  | character (found : Char) (index : Nat)
  | groupCount (found : Nat)
  | groupLength (group expected found : Nat)
deriving DecidableEq

/-- The text that reports a fault. -/
def Fault.message : Fault → String
  | .length found => "invalid length: found " ++ toString found
  | .character c index =>
    "invalid character: found `" ++ String.singleton c ++ "` at " ++ toString index
  | .groupCount found => "invalid group count: expected 5, found " ++ toString found
  | .groupLength group expected found =>
    "invalid group length in group " ++ toString group ++ ": expected " ++ toString expected ++
      ", found " ++ toString found

/-- The bytes that characters take. -/
def byteLength (cs : List Char) : Nat := cs.foldl (fun n c => n + c.utf8Size) 0

/-- The byte positions of the hyphens in `cs`, or the first character that is neither a hyphen nor
    a hex digit, with its position.  Positions count from `index`. -/
def hyphenPositions (cs : List Char) (index : Nat) : Except (Char × Nat) (List Nat) :=
  match cs with
  | [] => .ok []
  | c :: rest =>
    if c = '-' then (hyphenPositions rest (index + 1)).map (index :: ·)
    else if (hexValue? c).isSome then hyphenPositions rest (index + 1)
    else .error (c, index)

/-- Where the groups start, with their lengths. -/
def groups : List (Nat × Nat) := [(0, 8), (9, 4), (14, 4), (19, 4)]

/-- What is wrong with a text of digits and hyphens that take `size` bytes: `bare` if it may be the
    simple form.  The text starts `offset` bytes after the start of what was given. -/
def faultOf (cs : List Char) (bare : Bool) (offset size : Nat) : Fault :=
  match hyphenPositions cs 0 with
  | .error (c, index) => .character c (index + offset)
  | .ok positions =>
    if positions.isEmpty ∧ bare then .length size
    else if positions.length ≠ 4 then .groupCount (positions.length + 1)
    else
      match (groups.zip positions).zipIdx.find? fun g => g.1.2 ≠ g.1.1.1 + g.1.1.2 with
      | some (((start, length), position), group) => .groupLength group length (position - start)
      | none => .groupLength 4 12 (size - 24)

/-- The fault of a text that is in none of the four forms.  Thirty-six bytes are taken for the
    hyphenated form, whatever they are. -/
def fault (cs : List Char) : Fault :=
  let size := byteLength cs
  if size = 0 ∨ 45 < size then .length size
  else if size = 36 then faultOf cs false 0 size
  else match unbrace? cs, afterUrn? cs with
    | some inner, _ =>
      if size = 38 then faultOf inner false 0 36 else faultOf inner false 1 size
    | none, some inner =>
      if size = 45 then faultOf inner false 0 36 else faultOf inner false 9 size
    | none, none => faultOf cs true 0 size

/-- Reads an identifier in any of the four forms. -/
def parse (s : String) : Except Fault Uuid :=
  match ofChars? s.toList with
  | some u => .ok u
  | none => .error (fault s.toList)

end SharedPages.Uuid
