import Mathlib.Algebra.Group.Nat.Defs
import SharedPages.Id

/-!
# Texts of identifiers

An identifier is written with thirty-two lowercase digits in hyphenated groups, and
that text names it again. The tagged text of an `Id` is eight groups of characters
too many for each of the four forms, so it names no bare identifier.

## Key results

- `Uuid.hexNumber?_hexDigits`: digits spell the number that they were written for
- `Uuid.ofHyphenated?_hyphenate`: grouping digits is undone by reading the groups
- `Uuid.parse_text`: a text names the identifier that it was written for
- `Id.parse_tagged`: a tagged text names no bare identifier
-/

namespace SharedPages

namespace Uuid

/-! ## Digits -/

theorem hexValue?_hexDigit : ∀ {n : Nat}, n < 16 → hexValue? (hexDigit n) = some n := by
  decide

/-- The last digits of a number spell what is left of it when the digits before them are cut. -/
theorem hexNumber?_hexDigits (width n : Nat) :
    hexNumber? (hexDigits width n) = some (n % 16 ^ width) := by
  induction width generalizing n with
  | zero => rw [Nat.pow_zero, Nat.mod_one]; rfl
  | succ width ih =>
    rw [hexDigits, hexNumber?, List.foldlM_append, ← hexNumber?, ih]
    -- the last digit counts for itself, and the digits before it sixteen times
    have hdigit := hexValue?_hexDigit (Nat.mod_lt n (by decide : 0 < 16))
    have hvalue : 16 * (n / 16 % 16 ^ width) + n % 16 = n % 16 ^ (width + 1) := by
      rw [Nat.pow_succ', Nat.mod_mul]
      omega
    simp [hdigit, hvalue]

/-! ## Groups -/

variable {digits : List Char}

theorem length_hyphenate (h : digits.length = 32) : (hyphenate digits).length = 36 := by
  simp [hyphenate, h]

/-- Reading the groups of thirty-two digits gives the digits. -/
theorem ofHyphenated?_hyphenate (h : digits.length = 32) :
    ofHyphenated? (hyphenate digits) = ofSimple? digits := by
  -- every group stands one place further on for each hyphen before it
  have hfirst : (hyphenate digits).take 8 = digits.take 8 := by
    simp [hyphenate, h]
  have hsecond : ((hyphenate digits).drop 9).take 4 = (digits.drop 8).take 4 := by
    simp [hyphenate, List.take_append, List.drop_append, h]
  have hthird : ((hyphenate digits).drop 14).take 4 = (digits.drop 12).take 4 := by
    simp [hyphenate, List.drop_append, List.drop_take, h]
  have hfourth : ((hyphenate digits).drop 19).take 4 = (digits.drop 16).take 4 := by
    simp [hyphenate, List.drop_append, List.drop_take, h]
  have hlast : (hyphenate digits).drop 24 = digits.drop 20 := by
    simp [hyphenate, List.drop_append, List.drop_take, h]
  have hgroups : digits.take 8 ++ (digits.drop 8).take 4 ++ (digits.drop 12).take 4 ++
      (digits.drop 16).take 4 ++ digits.drop 20 = digits := by
    rw [← List.take_add, ← List.take_add, ← List.take_add, List.take_append_drop]
  simp only [ofHyphenated?, hfirst, hsecond, hthird, hfourth, hlast, hgroups, if_true]

/-- The hyphenated form has thirty-six characters. -/
theorem ofHyphenated?_of_length {cs : List Char} (h : cs.length ≠ 36) :
    ofHyphenated? cs = none := by
  rw [ofHyphenated?]
  split
  · -- the groups leave out four characters, so only thirty-six make thirty-two digits
    rw [ofSimple?, if_neg]
    simp only [List.length_append, List.length_take, List.length_drop]
    omega
  · rfl

/-! ## Identifiers -/

theorem ofSimple?_hexDigits (u : Uuid) : ofSimple? (hexDigits 32 u.value) = some u := by
  have hvalue : u.value % 16 ^ 32 = u.value := Nat.mod_eq_of_lt u.isLt
  rw [ofSimple?, if_pos (length_hexDigits 32 u.value), hexNumber?_hexDigits, hvalue,
    Option.map_some, ofNat_value]

theorem ofChars?_chars (u : Uuid) : ofChars? u.chars = some u := by
  -- the form without hyphens is tried first, and it must not match
  have hlength : u.chars.length ≠ 32 := by
    rw [chars, length_hyphenate (length_hexDigits 32 u.value)]
    decide
  have hgroups : ofHyphenated? u.chars = some u := by
    rw [chars, ofHyphenated?_hyphenate (length_hexDigits 32 u.value), ofSimple?_hexDigits]
  rw [ofChars?, ofSimple?, if_neg hlength, hgroups]
  rfl

/-- A text names the identifier that it was written for. -/
theorem parse_text (u : Uuid) : parse u.text = .ok u := by
  rw [parse, text, String.toList_ofList, ofChars?_chars]

end Uuid

namespace Id

variable {kind : Kind}

/-- A tagged text is too long to be digits or groups of digits, and it starts like nothing that may
    stand around them. -/
theorem ofChars?_chars (id : Id kind) : Uuid.ofChars? id.chars = none := by
  have hlength : id.chars.length = 40 := by
    have htag : kind.tag.length = 3 := by cases kind <;> rfl
    rw [chars, List.length_append, List.length_cons, htag, Uuid.chars,
      Uuid.length_hyphenate (Uuid.length_hexDigits 32 _)]
  have hsimple : Uuid.ofSimple? id.chars = none := by
    rw [Uuid.ofSimple?, if_neg (by omega)]
  have hhyphenated : Uuid.ofHyphenated? id.chars = none :=
    Uuid.ofHyphenated?_of_length (by omega)
  have hbrace : Uuid.unbrace? id.chars = none := by cases kind <;> rfl
  have hurn : Uuid.afterUrn? id.chars = none := by
    cases kind <;> simp [Uuid.afterUrn?, chars, Kind.tag, Uuid.urnWords]
  rw [Uuid.ofChars?, hsimple, hhyphenated, hbrace, hurn]
  rfl

/-- A tagged text names no bare identifier. -/
theorem parse_tagged (id : Id kind) : (Uuid.parse id.text).toOption = none := by
  rw [Uuid.parse, text, String.toList_ofList, ofChars?_chars]
  rfl

end Id

end SharedPages
