import SharedPages.Text.Pieces
import SharedPages.Text.Utf8
import SharedPages.Uuid.Text

/-! # Percent-encoded texts

A percent sign and two hex digits stand for one byte.  A percent sign without them stands for
itself.  In the fields of a query, a plus sign stands for a space. -/

namespace SharedPages.Percent

/-- The bytes that a percent-encoded text stands for. -/
def decodeBytes : List Nat → List Nat
  | [] => []
  | 0x25 :: a :: b :: rest =>
    match Uuid.hexValue? (Char.ofNat a), Uuid.hexValue? (Char.ofNat b) with
    | some x, some y => (16 * x + y) :: decodeBytes rest
    | _, _ => 0x25 :: decodeBytes (a :: b :: rest)
  | b :: rest => b :: decodeBytes rest

/-- The bytes that a text stands for. -/
def bytes (s : String) : List Nat := decodeBytes (Utf8.encode s)

/-- The text that a percent-encoded text stands for. -/
def decode (s : String) : Except Utf8.Fault String := Utf8.decode (bytes s)

/-- A field of a query, in which plus signs are spaces. -/
def decodeField (cs : List Char) : String :=
  Utf8.decodeLossy (bytes (String.ofList (cs.map fun c => if c = '+' then ' ' else c)))

/-- The names and values of a query, in order. -/
def fields (query : List Char) : List (String × String) :=
  ((Text.splitOn '&' query).filter (!·.isEmpty)).map fun piece =>
    (decodeField (piece.takeWhile (· ≠ '=')), decodeField ((piece.dropWhile (· ≠ '=')).drop 1))

/-- The two uppercase hex digits of a byte, after a percent sign. -/
def encodeByte (b : Nat) : List Char :=
  ['%', (Uuid.hexDigit (b / 16)).toUpper, (Uuid.hexDigit (b % 16)).toUpper]

/-- Percent-encodes control characters and all that is not ASCII. -/
def encodeControls (cs : List Char) : List Char :=
  cs.flatMap fun c =>
    if 0x20 ≤ c.toNat ∧ c.toNat < 0x7f then [c]
    else (Utf8.encode (String.singleton c)).flatMap encodeByte

end SharedPages.Percent
