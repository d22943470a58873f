import Mathlib.Algebra.Group.Nat.Defs
import Mathlib.Data.Char
import Mathlib.Data.List.Basic
import Mathlib.Order.Basic
import SharedPages.Savepoint
import SharedPages.Uuid.Text

/-!
# Numerals and their order

Texts compare letter by letter. Of two numbers that are written with the same
number of digits, the greater one has the greater text, for the first digit in
which they differ decides both comparisons. Identifiers rest on this with
thirty-two hex digits and savepoints with four decimal ones.

Where the widths differ, the shorter text is compared with as many digits at the
start of the longer one.

## Key results

- `numeral_lt_numeral`: numerals of one width are ordered like the numbers
- `numeral_lt_numeral_add`: a numeral and a longer one
- `Uuid.hexDigits_eq_numeral`, `Savepoint.digits_eq_numeral`: what is written with numerals
-/

namespace SharedPages

/-! ## The order of texts -/

/-- Texts that begin with equally many letters are told apart by these, or else by what follows. -/
theorem append_lt_append_iff {xs ys : List Char} (h : xs.length = ys.length) (us vs : List Char) :
    xs ++ us < ys ++ vs ↔ xs < ys ∨ xs = ys ∧ us < vs := by
  induction xs generalizing ys with
  | nil =>
    obtain rfl := List.length_eq_zero_iff.mp h.symm
    simp
  | cons x xs ih =>
    cases ys with
    | nil => cases h
    | cons y ys =>
      have hlength : xs.length = ys.length := Nat.succ.inj h
      simp only [List.cons_append, List.cons_lt_cons_iff, ih hlength, List.cons.injEq]
      tauto

/-! ## Numerals -/

/-- The last `width` digits of `n` in base `b`, most significant first. -/
def numeral (b : Nat) : (width : Nat) → (n : Nat) → List Char
  | 0, _ => []
  | width + 1, n => numeral b width (n / b) ++ [(n % b).digitChar]

variable {b width m n : Nat}

@[simp] theorem length_numeral (b width n : Nat) : (numeral b width n).length = width := by
  induction width generalizing n with
  | zero => rfl
  | succ width ih => simp [numeral, ih]

/-- A longer numeral begins with what is left when its last digits are cut. -/
theorem numeral_add (b width more n : Nat) :
    numeral b (width + more) n = numeral b width (n / b ^ more) ++ numeral b more n := by
  induction more generalizing n with
  | zero => simp [numeral]
  | succ more ih =>
    rw [← Nat.add_assoc, numeral, ih, numeral, Nat.div_div_eq_div_mul, Nat.pow_succ',
      List.append_assoc]

theorem numeral_zero_eq_replicate (b width : Nat) :
    numeral b width 0 = List.replicate width '0' := by
  induction width with
  | zero => rfl
  | succ width ih =>
    rw [numeral, Nat.zero_div, Nat.zero_mod, ih, List.replicate_succ']
    rfl

private theorem digitChar_lt_digitChar :
    ∀ m < 16, ∀ n < 16, m.digitChar < n.digitChar ↔ m < n := by decide

/-- Quotients decide the order of two numbers, or else remainders. -/
private theorem lt_iff_div_mod (b m n : Nat) :
    m < n ↔ m / b < n / b ∨ m / b = n / b ∧ m % b < n % b := by
  have hm := Nat.div_add_mod m b
  have hn := Nat.div_add_mod n b
  constructor
  · intro hlt
    rcases Nat.lt_or_eq_of_le (Nat.div_le_div_right (c := b) hlt.le) with h | h
    · exact .inl h
    · rw [h] at hm
      exact .inr ⟨h, by omega⟩
  · rintro (h | ⟨h, hmod⟩)
    · exact Nat.lt_of_div_lt_div h
    · rw [h] at hm
      omega

/-- Numerals of one width are ordered like the numbers. -/
theorem numeral_lt_numeral (hpos : 0 < b) (hb : b ≤ 16) (hm : m < b ^ width)
    (hn : n < b ^ width) : numeral b width m < numeral b width n ↔ m < n := by
  induction width generalizing m n with
  | zero =>
    rw [Nat.pow_zero] at hm hn
    simp only [numeral, List.lt_irrefl, false_iff]
    omega
  | succ width ih =>
    rw [Nat.pow_succ] at hm hn
    have hm' : m / b < b ^ width := Nat.div_lt_of_lt_mul (by rwa [Nat.mul_comm])
    have hn' : n / b < b ^ width := Nat.div_lt_of_lt_mul (by rwa [Nat.mul_comm])
    -- numbers with one numeral are the same, since neither is the smaller one
    have heq : numeral b width (m / b) = numeral b width (n / b) ↔ m / b = n / b := by
      refine ⟨fun h => ?_, fun h => by rw [h]⟩
      have hlt := ih hm' hn'
      have hgt := ih hn' hm'
      rw [h] at hlt hgt
      simp only [List.lt_irrefl, false_iff] at hlt hgt
      omega
    have hdigit := digitChar_lt_digitChar (m % b) (Nat.lt_of_lt_of_le (Nat.mod_lt m hpos) hb)
      (n % b) (Nat.lt_of_lt_of_le (Nat.mod_lt n hpos) hb)
    rw [numeral, numeral, append_lt_append_iff (by simp), ih hm' hn', heq, lt_iff_div_mod b m n,
      List.cons_lt_cons_iff, hdigit]
    simp

/-- A numeral is less than a longer one if it is at most what the longer one begins with. -/
theorem numeral_lt_numeral_add (hpos : 0 < b) (hb : b ≤ 16) {more : Nat} (hmore : 0 < more)
    (hm : m < b ^ width) (hn : n < b ^ (width + more)) :
    numeral b width m < numeral b (width + more) n ↔ m ≤ n / b ^ more := by
  -- The longer numeral starts with the digits of `n / b ^ more`, which are as many as those of `m`.
  have hstart : n / b ^ more < b ^ width :=
    Nat.div_lt_of_lt_mul (by rwa [← Nat.pow_add, Nat.add_comm])
  -- Where the first digits are the same, the shorter one is less since it has no digits left.
  have hlonger : ([] : List Char) < numeral b more n := by
    cases hnumeral : numeral b more n with
    | nil =>
      have hlength := congrArg List.length hnumeral
      rw [length_numeral, List.length_nil] at hlength
      omega
    | cons d ds => exact List.nil_lt_cons d ds
  have hlt := numeral_lt_numeral hpos hb hm hstart
  have hgt := numeral_lt_numeral hpos hb hstart hm
  rw [numeral_add, ← List.append_nil (numeral b width m), append_lt_append_iff (by simp)]
  constructor
  · rintro (h | ⟨h, -⟩)
    · exact (hlt.mp h).le
    · rw [h] at hgt
      exact Nat.le_of_not_lt fun hless => List.lt_irrefl _ (hgt.mpr hless)
  · intro hle
    rcases Nat.lt_or_eq_of_le hle with h | rfl
    · exact .inl (hlt.mpr h)
    · exact .inr ⟨rfl, hlonger⟩

/-! ## What is written with numerals -/

theorem Uuid.hexDigits_eq_numeral (width n : Nat) : hexDigits width n = numeral 16 width n := by
  have hdigit : ∀ d < 16, hexDigit d = d.digitChar := by decide
  induction width generalizing n with
  | zero => rfl
  | succ width ih => rw [hexDigits, numeral, ih, hdigit _ (Nat.mod_lt n (by decide))]

/-- Decimal digits that are filled up with zeros are a numeral. -/
private theorem replicate_append_toDigits (width n : Nat) (h : (Nat.toDigits 10 n).length ≤ width) :
    List.replicate (width - (Nat.toDigits 10 n).length) '0' ++ Nat.toDigits 10 n =
      numeral 10 width n := by
  induction width generalizing n with
  | zero => exact absurd h (Nat.not_le_of_gt Nat.length_toDigits_pos)
  | succ width ih =>
    rcases Nat.lt_or_ge n 10 with hn | hn
    · rw [Nat.toDigits_of_lt_base hn, numeral, Nat.div_eq_of_lt hn, Nat.mod_eq_of_lt hn,
        numeral_zero_eq_replicate]
      rfl
    · rw [Nat.toDigits_of_base_le (by decide) hn, List.length_append, List.length_singleton] at h ⊢
      rw [numeral, ← ih (n / 10) (Nat.le_of_succ_le_succ h), Nat.add_sub_add_right,
        List.append_assoc]

namespace Savepoint

theorem length_digits (n : Nat) : (digits n).length = max 4 (Nat.toDigits 10 n).length := by
  simp only [digits, List.length_append, List.length_replicate]
  omega

/-- There are as many digits as the number needs, and four at least. -/
theorem length_digits_le_iff {n width : Nat} (h : 4 ≤ width) :
    (digits n).length ≤ width ↔ n < 10 ^ width := by
  rw [length_digits, Nat.max_le, Nat.length_toDigits_le_iff (by decide) (by omega)]
  exact and_iff_right h

/-- The digits of a savepoint are a numeral, as wide as they are many. -/
theorem digits_eq_numeral (n : Nat) : digits n = numeral 10 (digits n).length n := by
  rw [length_digits, ← replicate_append_toDigits _ n (Nat.le_max_right 4 _), digits]
  congr 2
  omega

end Savepoint

end SharedPages
