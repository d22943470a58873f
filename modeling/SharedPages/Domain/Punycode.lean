import SharedPages.Text.Numeral

/-! # Punycode

A text in which ASCII characters are left as they are and the others are told afterwards: by the
order of their code points, each by the number of places that are passed over until it is inserted.
A place is a code point together with a position in the text so far.

* `encode` writes the ASCII characters, a hyphen if there are any, and then the numbers.
* `decode?` inserts what the numbers tell, unless one is broken or too large. -/

namespace SharedPages.Punycode

/-- The digit with a value below 36: a letter or, from 26 on, a digit. -/
def digit (n : Nat) : Char :=
  if n < 26 then Char.ofNat ('a'.toNat + n) else Char.ofNat ('0'.toNat + (n - 26))

/-- The value of a digit. -/
def digitValue? (c : Char) : Option Nat :=
  if 'a' ≤ c ∧ c ≤ 'z' then some (c.toNat - 'a'.toNat)
  else (Numeral.digitValue? c).map (26 + ·)

/-- The least value of a digit after which the number goes on, for the digit at `place`, which is 36
    for the first one, 72 for the second and so on. -/
def threshold (bias place : Nat) : Nat := max 1 (min 26 (place - bias))

theorem one_le_threshold (bias place : Nat) : 1 ≤ threshold bias place := Nat.le_max_left ..

/-- Divides by 35 until the quotient is small, and counts the divisions by 36. -/
def scale (delta count : Nat) : Nat × Nat :=
  if 455 < delta then scale (delta / 35) (count + 36) else (delta, count)
termination_by delta
decreasing_by exact Nat.div_lt_self (by omega) (by omega)

/-- The bias for the number after `delta`, which inserted a character into a text of then `length`
    characters. -/
def adapt (delta length : Nat) (first : Bool) : Nat :=
  let delta := if first then delta / 700 else delta / 2
  let (rest, count) := scale (delta + delta / length) 0
  count + 36 * rest / (rest + 38)

/-! ## Writing -/

/-- The digits of a number, from the digit at `place` on. -/
def digits (bias place n : Nat) : List Char :=
  let t := threshold bias place
  if n < t then [digit n]
  else digit (t + (n - t) % (36 - t)) :: digits bias (place + 36) ((n - t) / (36 - t))
termination_by n
decreasing_by
  have := one_le_threshold bias place
  exact Nat.lt_of_le_of_lt (Nat.div_le_self _ _) (by omega)

/-- The places of what is not ASCII, in the order of insertion: each code point with the number of
    characters that stand before it by then. -/
def insertions (cs : List Char) : List (Nat × Nat) :=
  let others := cs.zipIdx.filter fun (c, _) => 0x80 ≤ c.toNat
  (others.map fun (c, i) => (c.toNat, (cs.take i).countP (· ≤ c))).mergeSort fun a b => a.1 ≤ b.1

/-- Writes the way from the place of `code` and `position` to the first of the places that follow,
    from there to the next one, and so on, in a text of so far `length` characters. -/
def encodeFrom (length code position bias : Nat) : List (Nat × Nat) → List Char
  | [] => []
  | (c, i) :: rest =>
    let delta := (c - code) * (length + 1) + i - position
    digits bias 36 delta ++
      encodeFrom (length + 1) c (i + 1) (adapt delta (length + 1) (position == 0)) rest

/-- Writes a text in ASCII. -/
def encode (cs : List Char) : List Char :=
  let ascii := cs.filter fun c => c.toNat < 0x80
  (if ascii.isEmpty then [] else ascii ++ ['-']) ++
    encodeFrom ascii.length 0x80 0 72 (insertions cs)

/-! ## Reading -/

/-- The greatest number that is read. -/
def limit : Nat := 0xffffffff

/-- Reads a number, from the digit at `place` on, that is added to `sum`. -/
def readNumber? (bias place weight sum : Nat) : List Char → Option (Nat × List Char)
  | [] => none
  | c :: rest =>
    match digitValue? c with
    | none => none
    | some d =>
      let t := threshold bias place
      if limit < sum + d * weight then none
      else if d < t then some (sum + d * weight, rest)
      else if limit < weight * (36 - t) then none
      else readNumber? bias (place + 36) (weight * (36 - t)) (sum + d * weight) rest

theorem length_readNumber? {bias place weight sum n : Nat} {cs rest : List Char}
    (h : readNumber? bias place weight sum cs = some (n, rest)) : rest.length < cs.length := by
  induction cs generalizing place weight sum with
  | nil => simp [readNumber?] at h
  | cons c cs ih =>
    simp only [readNumber?] at h
    split at h
    · simp at h
    · split at h
      · simp at h
      · split at h
        · simp only [Option.some.injEq, Prod.mk.injEq] at h
          simp [h.2]
        · split at h
          · simp at h
          · exact Nat.lt_succ_of_lt (ih h)

/-- Inserts into `text` what the digits tell, from the place of `code` and `position` on. -/
def decodeFrom? (text : List Char) (code position bias : Nat) (cs : List Char) :
    Option (List Char) :=
  if cs.isEmpty then some text
  else
    match h : readNumber? bias 36 1 position cs with
    | none => none
    | some (sum, rest) =>
      have := length_readNumber? h
      let length := text.length + 1
      let c := code + sum / length
      let i := sum % length
      if c.isValidChar then
        decodeFrom? (text.take i ++ Char.ofNat c :: text.drop i) c (i + 1)
          (adapt (sum - position) length (position == 0)) rest
      else none
termination_by cs.length
decreasing_by exact this

/-- Reads a text that was written in ASCII. -/
def decode? (cs : List Char) : Option (List Char) :=
  let numbers := (cs.reverse.takeWhile (· ≠ '-')).reverse
  let ascii := cs.take (cs.length - numbers.length - 1)
  if ascii.isEmpty then decodeFrom? [] 0x80 0 72 cs else decodeFrom? ascii 0x80 0 72 numbers

end SharedPages.Punycode
