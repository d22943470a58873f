import SharedPages.Id

/-! # Fresh identifiers and invite codes

A `Supply` hands out identifiers and invite codes that it has not handed out before.  Identifiers
are time-ordered, so a later one compares greater than an earlier one.  Codes are eight characters
of a fixed alphabet; consecutive codes do not look alike. -/

namespace SharedPages

/-- Where the next identifier and the next code come from. -/
structure Supply where
  /-- Milliseconds stamped on identifiers. -/
  millis : Nat := 0x019a00000000
  /-- Identifiers handed out so far. -/
  issued : Nat := 0
  /-- Codes handed out so far. -/
  codes : Nat := 0

namespace Supply

/-- The next identifier. -/
def uuid (s : Supply) : Uuid × Supply :=
  (Uuid.v7 s.millis (s.issued + 1), { s with issued := s.issued + 1 })

/-- The next identifier of a kind. -/
def id (kind : Kind) (s : Supply) : Id kind × Supply :=
  (⟨s.uuid.1⟩, s.uuid.2)

/-- The characters that invite codes are made of. -/
def codeAlphabet : List Char :=
  ['A', 'B', 'C', 'D', 'E', 'F', 'G', 'H', 'I', 'J', 'K', 'L', 'M', 'N', 'O', 'P', 'Q', 'R', 'S',
   'T', 'U', 'V', 'W', 'X', 'Y', 'Z', '0', '1', '2', '3', '4', '5', '6', '7', '8', '9']

/-- The length of an invite code. -/
def codeLength : Nat := 8

/-- The last `length` digits of `n` in the code alphabet. -/
def codeDigits : (length n : Nat) → List Char
  | 0, _ => []
  | length + 1, n => codeDigits length (n / 36) ++ [codeAlphabet.getD (n % 36) 'A']

/-- The `n`-th invite code.  The factor shares no divisor with 36, so codes repeat only after all
    of them have been handed out. -/
def codeAt (n : Nat) : String :=
  String.ofList (codeDigits codeLength (n * 1000000007 + 1741209523057))

/-- The next invite code. -/
def code (s : Supply) : String × Supply :=
  (codeAt s.codes, { s with codes := s.codes + 1 })

/-- A text that could be an invite code: as many characters as a code has, all of the alphabet. -/
def isCode (s : String) : Bool :=
  s.toList.length == codeLength && s.toList.all (codeAlphabet.contains ·)

end Supply

end SharedPages
