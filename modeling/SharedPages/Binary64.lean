import SharedPages.Text.Numeral

/-! # Binary floating-point numbers of 64 bits

A finite number is `mantissa · 2 ^ scale / 2 ^ 1074`, with a mantissa below `2 ^ 53`.  Reading and
writing are exact: `ofRatio` rounds a fraction to the nearest number, a tie to the even mantissa,
and `digits` finds the fewest decimal digits that read back, of these the nearest to the number, a
tie upwards. -/

namespace SharedPages

/-- A floating-point number. -/
inductive Binary64 where
  | nan
  | infinity (negative : Bool)
  | finite (negative : Bool) (mantissa scale : Nat)
deriving DecidableEq

namespace Binary64

/-- The power of ten of that exponent. -/
def tenTo (n : Nat) : Nat := Nat.pow 10 n

/-- The quotient nearest to `n / d`; of two, the even one. -/
def roundDiv (n d : Nat) : Nat :=
  let q := n / d
  let r := n % d
  if 2 * r < d then q
  else if d < 2 * r then q + 1
  else if q % 2 = 0 then q else q + 1

/-- The number for a mantissa and a scale, infinite beyond the greatest scale. -/
def ofParts (negative : Bool) (mantissa scale : Nat) : Binary64 :=
  if 2045 < scale then infinity negative else finite negative mantissa scale

/-- The number nearest to `n / d`. -/
def ofRatio (negative : Bool) (n d : Nat) : Binary64 :=
  let n := n <<< 1074
  let scale := (n / d).log2 - 52
  let mantissa := roundDiv n (d <<< scale)
  if mantissa = 1 <<< 53 then ofParts negative (1 <<< 52) (scale + 1)
  else ofParts negative mantissa scale

/-- The number nearest to `digits · 10 ^ exponent`.  Numbers with more than 310 places before the
    point are infinite, and those that start more than 330 places after it are zero. -/
def ofDecimal (negative : Bool) (digits : Nat) (exponent : Int) : Binary64 :=
  let places := (Nat.toDigits 10 digits).length + exponent
  if digits = 0 ∨ places < -330 then finite negative 0 0
  else if 310 < places then infinity negative
  else ofRatio negative (digits * tenTo exponent.toNat) (tenTo (-exponent).toNat)

/-! ## Reading -/

/-- The number that decimal digits spell. -/
def digitsValue (cs : List Char) : Nat :=
  cs.foldl (fun n c => 10 * n + (Numeral.digitValue? c).getD 0) 0

/-- The character is a decimal digit. -/
def isDigit (c : Char) : Bool := (Numeral.digitValue? c).isSome

/-- Splits a sign off: whether it is a minus, and the rest. -/
def splitSign : List Char → Bool × List Char
  | '-' :: rest => (true, rest)
  | '+' :: rest => (false, rest)
  | cs => (false, cs)

/-- Reads the exponent part, which may be absent. -/
def readExponent? : List Char → Option Int
  | [] => some 0
  | c :: rest =>
    let (negative, digits) := splitSign rest
    if c.toLower = 'e' ∧ !digits.isEmpty ∧ digits.all isDigit then
      some (if negative then -(digitsValue digits : Int) else digitsValue digits)
    else none

/-- Reads a decimal number without its sign: digits with perhaps a point before, among or after
    them, and perhaps an exponent. -/
def readDecimal? (negative : Bool) (cs : List Char) : Option Binary64 :=
  let whole := cs.takeWhile isDigit
  let (fraction, rest) :=
    match cs.dropWhile isDigit with
    | '.' :: rest => (rest.takeWhile isDigit, rest.dropWhile isDigit)
    | rest => ([], rest)
  if whole.isEmpty ∧ fraction.isEmpty then none
  else (readExponent? rest).map fun exponent =>
    ofDecimal negative (digitsValue (whole ++ fraction)) (exponent - fraction.length)

/-- Reads a number: decimal, or one of the words for infinity and for no number, in any case. -/
def read? (s : String) : Option Binary64 :=
  let (negative, cs) := splitSign s.toList
  let word := String.ofList (cs.map Char.toLower)
  if word = "inf" ∨ word = "infinity" then some (infinity negative)
  else if word = "nan" then some nan
  else readDecimal? negative cs

/-! ## Writing -/

/-- All that is written below is worked out in units of `10 ^ -400`. -/
def unitPlaces : Nat := 400

/-- A decimal with `count` digits that reads back as `mantissa · 2 ^ scale / 2 ^ 1074`, which has
    `places` places before the point, `unitPlaces` of them added.  It is one of the two neighbours
    of the number on the grid of such decimals: the nearer one if both read back, and the upper one
    if they are equally near. -/
def neighbour? (mantissa scale places count : Nat) : Option (Nat × Int) :=
  let value := (4 * mantissa) <<< scale * tenTo unitPlaces
  let below := (if mantissa = 1 <<< 52 ∧ 0 < scale then 1 else 2) <<< scale * tenTo unitPlaces
  let above := 2 <<< scale * tenTo unitPlaces
  let grid := tenTo (places - count) * 4 <<< 1074
  let down := value / grid
  let toDown := value - down * grid
  let toUp := (down + 1) * grid - value
  let even := mantissa % 2 = 0
  let downReads := toDown < below ∨ even ∧ toDown = below
  let upReads := toUp < above ∨ even ∧ toUp = above
  let exponent := (places : Int) - count - unitPlaces
  if downReads ∧ (upReads → toDown < toUp) then some (down, exponent)
  else if upReads then some (down + 1, exponent)
  else none

/-- The fewest digits that read back, with the power of ten that they count.  The upper neighbour
    of a number below a power of ten may be that power, whose last digit is dropped. -/
def digits (mantissa scale : Nat) : Nat × Int :=
  let value := (mantissa <<< scale * tenTo unitPlaces) >>> 1074
  let places := (Nat.toDigits 10 value).length
  match (List.range 17).findSome? fun n => neighbour? mantissa scale places (n + 1) with
  | some (ds, exponent) => if ds % 10 = 0 then (ds / 10, exponent + 1) else (ds, exponent)
  | none => (0, 0)

/-- Digits in their places, with a point before those after it. -/
def positional (digits : Nat) (exponent : Int) : List Char :=
  let ds := Nat.toDigits 10 digits
  if 0 ≤ exponent then
    if digits = 0 then ds else ds ++ List.replicate exponent.toNat '0'
  else
    let after := (-exponent).toNat
    let ds := List.replicate (after + 1 - ds.length) '0' ++ ds
    ds.take (ds.length - after) ++ '.' :: ds.drop (ds.length - after)

/-- The text of a number: no exponent, and no point without digits after it. -/
def text : Binary64 → String
  | nan => "NaN"
  | infinity negative => if negative then "-inf" else "inf"
  | finite negative mantissa scale =>
    let cs :=
      if mantissa = 0 then ['0']
      else positional (digits mantissa scale).1 (digits mantissa scale).2
    String.ofList (if negative then '-' :: cs else cs)

/-- The text of a number that cannot be taken for an integer: a finite one has a point. -/
def pointText (x : Binary64) : String :=
  let s := x.text
  if s.toList.all fun c => isDigit c || c == '-' then s ++ ".0" else s

/-! ## Conversion -/

/-- The number is zero, of either sign. -/
def isZero : Binary64 → Bool
  | finite _ mantissa _ => mantissa == 0
  | _ => false

/-- The greatest unsigned integer of 64 bits. -/
def maxWord : Nat := 0xffffffffffffffff

/-- The nearest unsigned integer of 64 bits; half a unit is rounded up, and no number gives 0. -/
def toWord : Binary64 → Nat
  | nan => 0
  | infinity negative => if negative then 0 else maxWord
  | finite negative mantissa scale =>
    if negative then 0
    else min (((2 * mantissa) <<< scale + 1 <<< 1074) >>> 1075) maxWord

end Binary64

end SharedPages
