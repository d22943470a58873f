/-! # UTF-8

`Utf8.decode` reads bytes as characters and refuses the first sequence that is none.
`Utf8.decodeLossy` puts the replacement character in the place of each such sequence.  A broken
sequence ends before the first byte that cannot continue it. -/

namespace SharedPages.Utf8

/-- The bytes of a text. -/
def encode (s : String) : List Nat := s.toUTF8.toList.map UInt8.toNat

/-- What the first byte of a sequence says: how many bytes follow, the bits that it carries, and
    between which bounds the second byte lies. -/
structure Lead where
  more : Nat
  bits : Nat
  low : Nat := 0x80
  high : Nat := 0xbf

/-- Reads the first byte of a sequence. -/
def lead? (b : Nat) : Option Lead :=
  if b < 0x80 then some ⟨0, b, 0x80, 0xbf⟩
  else if b < 0xc2 then none
  else if b < 0xe0 then some ⟨1, b - 0xc0, 0x80, 0xbf⟩
  else if b = 0xe0 then some ⟨2, 0, 0xa0, 0xbf⟩
  else if b = 0xed then some ⟨2, 13, 0x80, 0x9f⟩
  else if b < 0xf0 then some ⟨2, b - 0xe0, 0x80, 0xbf⟩
  else if b = 0xf0 then some ⟨3, 0, 0x90, 0xbf⟩
  else if b < 0xf4 then some ⟨3, b - 0xf0, 0x80, 0xbf⟩
  else if b = 0xf4 then some ⟨3, 4, 0x80, 0x8f⟩
  else none

/-- Reads `more` bytes of a sequence after `seen` of them, the first one between `low` and `high`.
    The error is the length of a broken sequence, or nothing if the bytes ended too early. -/
def follow : (more bits seen low high : Nat) → List Nat → Except (Option Nat) (Nat × List Nat)
  | 0, bits, _, _, _, bs => .ok (bits, bs)
  | _ + 1, _, _, _, _, [] => .error none
  | more + 1, bits, seen, low, high, b :: bs =>
    if low ≤ b ∧ b ≤ high then follow more (bits * 64 + (b - 0x80)) (seen + 1) 0x80 0xbf bs
    else .error (some seen)

/-- Reads one character, whose first byte is `b`. -/
def readChar (b : Nat) (bs : List Nat) : Except (Option Nat) (Char × List Nat) :=
  match lead? b with
  | none => .error (some 1)
  | some l => (follow l.more l.bits 1 l.low l.high bs).map fun (n, rest) => (Char.ofNat n, rest)

theorem length_follow {more bits seen low high : Nat} {bs rest : List Nat} {n : Nat}
    (h : follow more bits seen low high bs = .ok (n, rest)) : rest.length ≤ bs.length := by
  induction more generalizing bits seen low high bs with
  | zero =>
    simp only [follow, Except.ok.injEq, Prod.mk.injEq] at h
    exact h.2 ▸ Nat.le_refl _
  | succ more ih =>
    cases bs with
    | nil => simp [follow] at h
    | cons b bs =>
      simp only [follow] at h
      split at h
      · exact Nat.le_succ_of_le (ih h)
      · simp at h

theorem length_readChar {b : Nat} {bs rest : List Nat} {c : Char}
    (h : readChar b bs = .ok (c, rest)) : rest.length ≤ bs.length := by
  unfold readChar at h
  split at h
  · simp at h
  · rename_i l _
    cases hf : follow l.more l.bits 1 l.low l.high bs with
    | error e => simp [hf, Except.map] at h
    | ok p =>
      obtain ⟨n, rest'⟩ := p
      simp only [hf, Except.map, Except.ok.injEq, Prod.mk.injEq] at h
      exact h.2 ▸ length_follow hf

/-- Where bytes stop being UTF-8.  A sequence that the end cuts off has no length. -/
structure Fault where
  index : Nat
  length : Option Nat
deriving DecidableEq

/-- The text that reports a fault. -/
def Fault.message (f : Fault) : String :=
  match f.length with
  | some length =>
    "invalid utf-8 sequence of " ++ toString length ++ " bytes from index " ++ toString f.index
  | none => "incomplete utf-8 byte sequence from index " ++ toString f.index

/-- The characters that bytes spell, the first of which is number `index`. -/
def decodeFrom (index : Nat) (bs : List Nat) : Except Fault (List Char) :=
  match bs with
  | [] => .ok []
  | b :: bs =>
    match h : readChar b bs with
    | .error length => .error ⟨index, length⟩
    | .ok (c, rest) =>
      have := length_readChar h
      (decodeFrom (index + c.utf8Size) rest).map (c :: ·)
termination_by bs.length
decreasing_by exact Nat.lt_succ_of_le this

/-- The text that bytes spell. -/
def decode (bs : List Nat) : Except Fault String := (decodeFrom 0 bs).map String.ofList

/-- The characters that bytes spell, with the replacement character for what spells none. -/
def decodeCharsLossy (bs : List Nat) : List Char :=
  match bs with
  | [] => []
  | b :: bs =>
    match h : readChar b bs with
    | .error none => ['\ufffd']
    | .error (some length) => '\ufffd' :: decodeCharsLossy (bs.drop (length - 1))
    | .ok (c, rest) =>
      have := length_readChar h
      c :: decodeCharsLossy rest
termination_by bs.length
decreasing_by
  · simp only [List.length_drop, List.length_cons]
    omega
  · exact Nat.lt_succ_of_le this

/-- The text that bytes spell, with the replacement character for what spells none. -/
def decodeLossy (bs : List Nat) : String := String.ofList (decodeCharsLossy bs)

end SharedPages.Utf8
