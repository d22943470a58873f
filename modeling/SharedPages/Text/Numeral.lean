/-! # Numerals

Reading a whole number that must not exceed a limit.  The digits are taken one by one, and the
first thing that is wrong is what the refusal reports. -/

namespace SharedPages.Numeral

/-- Why a text is no number of the wanted range. -/
inductive Fault where
  | empty
  | digit
  | tooLarge
deriving DecidableEq

/-- The text that reports a fault. -/
def Fault.message : Fault → String
  | .empty => "cannot parse integer from empty string"
  | .digit => "invalid digit found in string"
  | .tooLarge => "number too large to fit in target type"

/-- The value of a decimal digit. -/
def digitValue? (c : Char) : Option Nat :=
  if '0' ≤ c ∧ c ≤ '9' then some (c.toNat - '0'.toNat) else none

/-- Appends digits to the number `n`, up to `limit`. -/
def appendDigits (limit n : Nat) : List Char → Except Fault Nat
  | [] => .ok n
  | c :: rest =>
    match digitValue? c with
    | none => .error .digit
    | some d =>
      if 10 * n + d ≤ limit then appendDigits limit (10 * n + d) rest else .error .tooLarge

/-- Reads digits, of which there is at least one. -/
def readDigits (limit : Nat) : List Char → Except Fault Nat
  | [] => .error .digit
  | cs => appendDigits limit 0 cs

/-- Reads a number from 0 to `limit`, perhaps after a plus sign. -/
def readNat (limit : Nat) (s : String) : Except Fault Nat :=
  match s.toList with
  | [] => .error .empty
  | '+' :: rest => readDigits limit rest
  | cs => appendDigits limit 0 cs

/-- Reads an integer of 64 bits, perhaps after a sign. -/
def readInt64? (s : String) : Option Int :=
  match s.toList with
  | [] => none
  | '-' :: rest => (readDigits 0x8000000000000000 rest).toOption.map fun n => -(n : Int)
  | '+' :: rest => (readDigits 0x7fffffffffffffff rest).toOption.map fun n => (n : Int)
  | cs => (appendDigits 0x7fffffffffffffff 0 cs).toOption.map fun n => (n : Int)

/-- Reads an unsigned integer of 64 bits, perhaps after a plus sign. -/
def readWord64? (s : String) : Option Nat := (readNat 0xffffffffffffffff s).toOption

end SharedPages.Numeral
