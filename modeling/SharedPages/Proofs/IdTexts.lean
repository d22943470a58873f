import Mathlib.Data.List.Induction
import Mathlib.Data.Option.Basic
import Mathlib.Data.String.Basic
import SharedPages.Proofs.Numerals
import SharedPages.Proofs.UuidText

/-!
# Which texts name an identifier, and how they are ordered

An identifier has four forms (`Uuid.forms`), and reading takes each of them with
letters of either case, and nothing else. An `Id` is read from these too, and from
what follows one tag of its own kind. A tag of any kind begins with letters that no
form begins with, so a second tag or a tag of another kind is never read.

Tagged texts of one kind begin alike and have their hyphens at the same places, so
the digits decide their order, and thirty-two hex digits are ordered like numbers.

## Key results

- `Uuid.hexNumber?_eq_some_iff`: the digits that spell a number
- `Uuid.parse_eq_ok_iff`: a text is read exactly if it is one of the four forms
- `Id.parse_eq_ok_iff`: and so is what follows one tag
- `Id.text_lt_text`: texts are ordered like the numbers
- `Id.texts_coherent`: all of it
-/

namespace SharedPages

namespace Uuid

/-! ## The four forms -/

/-- The forms of an identifier in lowercase: simple, hyphenated, braced and urn. -/
def forms (u : Uuid) : List (List Char) :=
  [hexDigits 32 u.value, u.chars, '\x7b' :: u.chars ++ ['\x7d'], urnWords ++ u.chars]

/-- Letter case aside, the text is one of the forms of the identifier. -/
def Spells (cs : List Char) (u : Uuid) : Prop := cs.map Char.toLower ∈ u.forms

variable {cs digits : List Char} {u : Uuid} {n : Nat}

theorem spells_iff : Spells cs u ↔ cs.map Char.toLower = hexDigits 32 u.value ∨
    cs.map Char.toLower = u.chars ∨ cs.map Char.toLower = '\x7b' :: u.chars ++ ['\x7d'] ∨
    cs.map Char.toLower = urnWords ++ u.chars := by
  simp [Spells, forms]

@[simp] theorem length_chars (u : Uuid) : u.chars.length = 36 :=
  length_hyphenate (length_hexDigits 32 u.value)

/-! ## Digits -/

private theorem toNat_toLower (c : Char) :
    c.toLower.toNat = if 65 ≤ c.toNat ∧ c.toNat ≤ 90 then c.toNat + 32 else c.toNat := by
  have hupper : c.val ≥ 'A'.val ∧ c.val ≤ 'Z'.val ↔ 65 ≤ c.toNat ∧ c.toNat ≤ 90 := Iff.rfl
  unfold Char.toLower
  split
  · rename_i h
    have hbounds := hupper.mp h
    have hvalue : c.toNat = c.val.toNat := rfl
    rw [if_pos hbounds, ← Char.toNat_val, UInt32.toNat_add]
    simp only [Char.reduceVal, UInt32.reduceSub, UInt32.reduceToNat]
    omega
  · rename_i h
    rw [if_neg (hupper.not.mp h)]

/-- Only letters have another lowercase form. -/
private theorem eq_of_toLower {c d : Char} (h : c.toLower = d)
    (hd : d.toNat < 97 ∨ 122 < d.toNat) : c = d := by
  have hcode := toNat_toLower c
  rw [h] at hcode
  rw [← Char.toNat_inj]
  split at hcode <;> omega

private theorem length_eq_of_map {ds : List Char} (h : cs.map Char.toLower = ds) :
    cs.length = ds.length := by
  rw [← h, List.length_map]

private theorem toNat_hexDigit :
    ∀ d < 16, (hexDigit d).toNat = if d < 10 then 48 + d else 87 + d := by decide

/-- A digit of either case is worth what its lowercase form is written for. -/
theorem hexValue?_eq_some_iff {c : Char} {d : Nat} :
    hexValue? c = some d ↔ d < 16 ∧ c.toLower = hexDigit d := by
  -- The three ranges of digits are given by their code points, so that they can be computed with.
  have hvalue : hexValue? c =
      if 48 ≤ c.toNat ∧ c.toNat ≤ 57 then some (c.toNat - 48)
      else if 97 ≤ c.toNat ∧ c.toNat ≤ 102 then some (c.toNat - 97 + 10)
      else if 65 ≤ c.toNat ∧ c.toNat ≤ 70 then some (c.toNat - 65 + 10)
      else none := rfl
  have hlower := toNat_toLower c
  rw [hvalue, ← Char.toNat_inj]
  constructor
  · intro h
    have hd : d < 16 := by grind
    rw [toNat_hexDigit d hd]
    grind
  · rintro ⟨hd, h⟩
    rw [toNat_hexDigit d hd] at h
    grind

theorem hexNumber?_append_singleton (cs : List Char) (c : Char) :
    hexNumber? (cs ++ [c]) =
      (hexNumber? cs).bind fun n => (hexValue? c).map (16 * n + ·) := by
  simp [hexNumber?, List.foldlM_append]

/-- Digits spell the number whose numeral they are, letter case aside. -/
theorem hexNumber?_eq_some_iff : hexNumber? cs = some n ↔
    n < 16 ^ cs.length ∧ cs.map Char.toLower = hexDigits cs.length n := by
  -- Induction from the end, since the last digit is the lowest one.
  induction cs using List.reverseRecOn generalizing n with
  | nil => simp [hexNumber?, hexDigits, eq_comm]
  | append_singleton cs c ih =>
    simp only [hexNumber?_append_singleton, Option.bind_eq_some_iff, Option.map_eq_some_iff,
      hexValue?_eq_some_iff, ih, List.map_append, List.length_append, List.length_singleton,
      List.map_singleton, hexDigits, Nat.pow_succ]
    constructor
    · rintro ⟨m, ⟨hm, hcs⟩, d, ⟨hd, hc⟩, rfl⟩
      have hdiv : (16 * m + d) / 16 = m := by omega
      have hmod : (16 * m + d) % 16 = d := by omega
      exact ⟨by omega, by rw [hdiv, hmod, hcs, hc]⟩
    · rintro ⟨hn, h⟩
      obtain ⟨hcs, hc⟩ := List.append_inj' h rfl
      exact ⟨n / 16, ⟨by omega, hcs⟩, n % 16, ⟨by omega, List.singleton_inj.mp hc⟩, by omega⟩

/-! ## What is read -/

theorem ofSimple?_eq_some_iff :
    ofSimple? cs = some u ↔ cs.map Char.toLower = hexDigits 32 u.value := by
  rw [ofSimple?]
  constructor
  · intro h
    split at h
    · rename_i hlength
      obtain ⟨n, hn, rfl⟩ := Option.map_eq_some_iff.mp h
      rw [hexNumber?_eq_some_iff, hlength] at hn
      -- A number of 32 digits fits in 128 bits, so nothing is cut off.
      have hvalue : (ofNat n).value = n := Nat.mod_eq_of_lt hn.1
      rw [hn.2, hvalue]
    · cases h
  · intro h
    have hlength : cs.length = 32 := (length_eq_of_map h).trans (length_hexDigits 32 u.value)
    rw [if_pos hlength, hexNumber?_eq_some_iff.mpr ⟨hlength ▸ u.isLt, hlength ▸ h⟩,
      Option.map_some, ofNat_value]

/-- Thirty-two digits are hyphenated between their groups. -/
private theorem hyphenate_groups {a b c d e : List Char} (ha : a.length = 8) (hb : b.length = 4)
    (hc : c.length = 4) (hd : d.length = 4) :
    hyphenate (a ++ (b ++ (c ++ (d ++ e)))) =
      a ++ '-' :: (b ++ '-' :: (c ++ '-' :: (d ++ '-' :: e))) := by
  simp (disch := omega) [hyphenate, List.drop_append, List.drop_of_length_le, ha, hb, hc]

private theorem exists_groups (h : digits.length = 32) :
    ∃ a b c d e, digits = a ++ (b ++ (c ++ (d ++ e))) ∧ a.length = 8 ∧ b.length = 4 ∧
      c.length = 4 ∧ d.length = 4 := by
  refine ⟨digits.take 8, (digits.drop 8).take 4, (digits.drop 12).take 4,
    (digits.drop 16).take 4, digits.drop 20, ?_, ?_, ?_, ?_, ?_⟩
  · rw [← List.append_assoc, ← List.append_assoc, ← List.append_assoc, ← List.take_add,
      ← List.take_add, ← List.take_add, List.take_append_drop]
  all_goals simp only [List.length_take, List.length_drop]; omega

private theorem map_hyphenate (digits : List Char) :
    (hyphenate digits).map Char.toLower = hyphenate (digits.map Char.toLower) := by
  simp [hyphenate, List.map_take, List.map_drop]

/-- What is hyphenated digits when letter case is put aside is hyphenated digits. -/
private theorem eq_hyphenate_of_map {ds : List Char} (hds : ds.length = 32)
    (h : cs.map Char.toLower = hyphenate ds) :
    ∃ digits, cs = hyphenate digits ∧ digits.map Char.toLower = ds := by
  obtain ⟨a, b, c, d, e, rfl, ha, hb, hc, hd⟩ := exists_groups hds
  rw [hyphenate_groups ha hb hc hd] at h
  simp only [List.map_eq_append_iff, List.map_eq_cons_iff] at h
  obtain ⟨a', _, rfl, rfl, h₁, _, rfl, hh₁, b', _, rfl, rfl, h₂, _, rfl, hh₂, c', _, rfl, rfl,
    h₃, _, rfl, hh₃, d', _, rfl, rfl, h₄, e', rfl, hh₄, rfl⟩ := h
  rw [List.length_map] at ha hb hc hd
  refine ⟨a' ++ (b' ++ (c' ++ (d' ++ e'))), ?_, by simp⟩
  rw [hyphenate_groups ha hb hc hd, eq_of_toLower hh₁ (by decide), eq_of_toLower hh₂ (by decide),
    eq_of_toLower hh₃ (by decide), eq_of_toLower hh₄ (by decide)]

theorem ofHyphenated?_eq_some_iff : ofHyphenated? cs = some u ↔ cs.map Char.toLower = u.chars := by
  constructor
  · intro h
    rw [ofHyphenated?] at h
    split at h
    · rename_i hgroups
      rw [← hgroups, map_hyphenate, ofSimple?_eq_some_iff.mp h, chars]
    · cases h
  · intro h
    obtain ⟨digits, rfl, hdigits⟩ := eq_hyphenate_of_map (length_hexDigits 32 u.value) h
    have hlength : digits.length = 32 :=
      (length_eq_of_map hdigits).trans (length_hexDigits 32 u.value)
    rw [ofHyphenated?_hyphenate hlength, ofSimple?_eq_some_iff, hdigits]

theorem unbrace?_eq_some_iff {inner : List Char} :
    unbrace? cs = some inner ↔ cs = '\x7b' :: inner ++ ['\x7d'] := by
  constructor
  · intro h
    unfold unbrace? at h
    split at h
    · rename_i rest
      split at h
      · rename_i hlast
        -- What follows the first brace ends in the other one, which is dropped.
        obtain ⟨ys, rfl⟩ := List.getLast?_eq_some_iff.mp hlast
        rw [List.dropLast_concat, Option.some.injEq] at h
        rw [h, List.cons_append]
      · cases h
    · cases h
  · rintro rfl
    simp [unbrace?]

theorem afterUrn?_eq_some_iff {rest : List Char} : afterUrn? cs = some rest ↔
    ∃ words, cs = words ++ rest ∧ words.map Char.toLower = urnWords := by
  rw [afterUrn?]
  constructor
  · intro h
    split at h
    · rename_i hwords
      rw [← Option.some.inj h]
      exact ⟨cs.take 9, (List.take_append_drop 9 cs).symm, hwords⟩
    · cases h
  · rintro ⟨words, rfl, hwords⟩
    have hlength : words.length = 9 := length_eq_of_map hwords
    rw [List.take_left' hlength, List.drop_left' hlength, if_pos hwords]

private theorem braced_eq_some_iff : (unbrace? cs).bind ofHyphenated? = some u ↔
    cs.map Char.toLower = '\x7b' :: u.chars ++ ['\x7d'] := by
  simp only [Option.bind_eq_some_iff, unbrace?_eq_some_iff, ofHyphenated?_eq_some_iff]
  constructor
  · rintro ⟨inner, rfl, hinner⟩
    simp [hinner]
  · intro h
    simp only [List.cons_append, List.map_eq_cons_iff, List.map_eq_append_iff,
      List.map_eq_nil_iff] at h
    obtain ⟨left, _, rfl, hleft, inner, _, rfl, hinner, right, _, rfl, hright, rfl⟩ := h
    rw [eq_of_toLower hleft (by decide), eq_of_toLower hright (by decide)]
    exact ⟨inner, rfl, hinner⟩

private theorem urn_eq_some_iff : (afterUrn? cs).bind ofHyphenated? = some u ↔
    cs.map Char.toLower = urnWords ++ u.chars := by
  simp only [Option.bind_eq_some_iff, afterUrn?_eq_some_iff, ofHyphenated?_eq_some_iff,
    List.map_eq_append_iff]
  constructor
  · rintro ⟨rest, ⟨words, hcs, hwords⟩, hrest⟩
    exact ⟨words, rest, hcs, hwords, hrest⟩
  · rintro ⟨words, rest, hcs, hwords, hrest⟩
    exact ⟨rest, ⟨words, hcs, hwords⟩, hrest⟩

/-- The forms are tried one after the other. No text has two of them, for they differ in length. -/
theorem ofChars?_eq_some_iff : ofChars? cs = some u ↔ Spells cs u := by
  rw [spells_iff]
  constructor
  · intro h
    -- The forms are tried in turn, and the one that reads the text spells the value.
    simp only [ofChars?, Option.orElse_eq_some] at h
    rw [ofSimple?_eq_some_iff, ofHyphenated?_eq_some_iff, braced_eq_some_iff,
      urn_eq_some_iff] at h
    rcases h with h | ⟨-, h | ⟨-, h | ⟨-, h⟩⟩⟩
    · exact .inl h
    · exact .inr (.inl h)
    · exact .inr (.inr (.inl h))
    · exact .inr (.inr (.inr h))
  · intro h
    -- For the other direction no earlier form may take the text. The lengths tell them apart.
    have hsimple (hlength : cs.length ≠ 32) : ofSimple? cs = none := if_neg hlength
    have hbraced (hlength : cs.length ≠ 38) : (unbrace? cs).bind ofHyphenated? = none := by
      refine Option.eq_none_iff_forall_ne_some.mpr fun v hv => hlength ?_
      rw [length_eq_of_map (braced_eq_some_iff.mp hv)]
      simp
    rcases h with h | h | h | h <;> have hlength := length_eq_of_map h <;>
      simp only [length_hexDigits, length_chars, List.length_append, List.length_cons,
        List.length_nil, urnWords] at hlength
    · rw [ofChars?, ofSimple?_eq_some_iff.mpr h]
      rfl
    · rw [ofChars?, hsimple (by omega), ofHyphenated?_eq_some_iff.mpr h]
      rfl
    · rw [ofChars?, hsimple (by omega), ofHyphenated?_of_length (by omega),
        braced_eq_some_iff.mpr h]
      rfl
    · rw [ofChars?, hsimple (by omega), ofHyphenated?_of_length (by omega), hbraced (by omega),
        urn_eq_some_iff.mpr h]
      rfl

/-- A text is read exactly if it is one of the four forms. -/
theorem parse_eq_ok_iff {s : String} : parse s = .ok u ↔ Spells s.toList u := by
  rw [← ofChars?_eq_some_iff, parse]
  cases ofChars? s.toList <;> simp

/-- What is written is the hyphenated form. -/
theorem spells_chars (u : Uuid) : Spells u.chars u := ofChars?_eq_some_iff.mp (ofChars?_chars u)

/-! ## Where the forms begin, and how they are ordered -/

private theorem mem_hexDigits {c : Char} {width : Nat} (h : c ∈ hexDigits width n) :
    ∃ d < 16, c = hexDigit d := by
  induction width generalizing n with
  | zero => cases h
  | succ width ih =>
    rcases List.mem_append.mp h with h | h
    · exact ih h
    · exact ⟨n % 16, Nat.mod_lt n (by decide), List.mem_singleton.mp h⟩

/-- The simple and the hyphenated form begin with the same digit. -/
private theorem exists_first_digit (u : Uuid) :
    ∃ d < 16, ∃ ds rest,
      hexDigits 32 u.value = hexDigit d :: ds ∧ u.chars = hexDigit d :: rest := by
  cases hdigits : hexDigits 32 u.value with
  | nil =>
    have hlength := length_hexDigits 32 u.value
    rw [hdigits] at hlength
    cases hlength
  | cons c ds =>
    obtain ⟨d, hd, rfl⟩ := mem_hexDigits (hdigits ▸ List.mem_cons_self)
    refine ⟨d, hd, ds, (hyphenate (hexDigit d :: ds)).tail, rfl, ?_⟩
    rw [chars, hdigits]
    rfl

/-- Hyphens stand at the same places in all texts, so only the digits count. -/
theorem hyphenate_lt_hyphenate {ds ds' : List Char} (h : ds.length = 32) (h' : ds'.length = 32) :
    hyphenate ds < hyphenate ds' ↔ ds < ds' := by
  obtain ⟨a, b, c, d, e, rfl, ha, hb, hc, hd⟩ := exists_groups h
  obtain ⟨a', b', c', d', e', rfl, ha', hb', hc', hd'⟩ := exists_groups h'
  rw [hyphenate_groups ha hb hc hd, hyphenate_groups ha' hb' hc' hd']
  simp only [append_lt_append_iff (ha.trans ha'.symm), append_lt_append_iff (hb.trans hb'.symm),
    append_lt_append_iff (hc.trans hc'.symm), append_lt_append_iff (hd.trans hd'.symm),
    List.cons_lt_cons_self]

theorem chars_lt_chars {u v : Uuid} : u.chars < v.chars ↔ u.value < v.value := by
  rw [chars, chars, hyphenate_lt_hyphenate (length_hexDigits 32 _) (length_hexDigits 32 _),
    hexDigits_eq_numeral, hexDigits_eq_numeral]
  exact numeral_lt_numeral (by decide) (by decide) u.isLt v.isLt

end Uuid

namespace Id

/-! ## Tags -/

/-- Characters after a tag and its hyphen. -/
def tagged (kind : Kind) (cs : List Char) : List Char := kind.tag ++ '-' :: cs

variable {kind other : Kind} {cs : List Char} {u : Uuid} {s : String}

theorem chars_eq_tagged (id : Id kind) : id.chars = tagged kind id.uuid.chars := rfl

/-- No form begins with a tag. -/
theorem not_spells_tagged : ¬ Uuid.Spells (tagged kind cs) u := by
  obtain ⟨d, hd, ds, rest, hdigits, hchars⟩ := u.exists_first_digit
  rw [Uuid.spells_iff, hdigits, hchars]
  have hletters : ∀ d < 16, 'u' ≠ Uuid.hexDigit d ∧ 'p' ≠ Uuid.hexDigit d ∧
      'l' ≠ Uuid.hexDigit d := by decide
  obtain ⟨hu, hp, hl⟩ := hletters d hd
  -- the urn form begins like the tag of users, and the second letter tells them apart
  cases kind with
  | user => simp [tagged, Kind.tag, Uuid.urnWords, hu]
  | page => simp [tagged, Kind.tag, Uuid.urnWords, hp]
  | link => simp [tagged, Kind.tag, Uuid.urnWords, hl]

theorem untag_tagged (kind : Kind) (cs : List Char) : untag kind (tagged kind cs) = cs := by
  cases kind <;> rfl

/-- What is no tagged text is left as it is. -/
theorem untag_of_ne (h : ∀ rest, cs ≠ tagged kind rest) : untag kind cs = cs := by
  rw [untag, if_neg]
  intro hprefix
  obtain ⟨rest, hrest⟩ := List.isPrefixOf_iff_prefix.mp hprefix
  exact h rest (by rw [← hrest, tagged, List.append_assoc]; rfl)

theorem untag_tagged_of_ne (h : other ≠ kind) (cs : List Char) :
    untag kind (tagged other cs) = tagged other cs := by
  refine untag_of_ne fun rest hrest => h ?_
  cases other <;> cases kind <;> first | rfl | cases hrest

/-! ## Reading identifiers -/

theorem parse_eq_ok_iff_untag {id : Id kind} :
    parse s = .ok id ↔ Uuid.Spells (untag kind s.toList) id.uuid := by
  have hparse := Uuid.parse_eq_ok_iff (s := String.ofList (untag kind s.toList)) (u := id.uuid)
  rw [String.toList_ofList] at hparse
  rw [← hparse, parse]
  cases Uuid.parse (String.ofList (untag kind s.toList)) with
  | error fault => simp [Except.map]
  | ok u =>
    obtain ⟨v⟩ := id
    simp [Except.map]

/-- A text is read exactly if it is a form of the identifier, or one tag and such a form. -/
theorem parse_eq_ok_iff {id : Id kind} : parse s = .ok id ↔ Uuid.Spells s.toList id.uuid ∨
    ∃ rest, s.toList = tagged kind rest ∧ Uuid.Spells rest id.uuid := by
  rw [parse_eq_ok_iff_untag]
  by_cases h : ∃ rest, s.toList = tagged kind rest
  · obtain ⟨rest, hrest⟩ := h
    rw [hrest, untag_tagged]
    constructor
    · exact fun hspells => .inr ⟨rest, rfl, hspells⟩
    · rintro (hspells | ⟨rest', hrest', hspells⟩)
      · exact absurd hspells not_spells_tagged
      · rwa [← untag_tagged kind rest, hrest', untag_tagged]
  · have hne : ∀ rest, s.toList ≠ tagged kind rest := fun rest hrest => h ⟨rest, hrest⟩
    rw [untag_of_ne hne]
    exact ⟨.inl, fun hspells => hspells.resolve_right fun ⟨rest, hrest, _⟩ => hne rest hrest⟩

/-- The text is no identifier of that kind. -/
def Refused (kind : Kind) (s : String) : Prop :=
  ∃ fault, (parse s : Except Uuid.Fault (Id kind)) = .error fault

theorem refused_iff : Refused kind s ↔ ∀ u, ¬ Uuid.Spells (untag kind s.toList) u := by
  constructor
  · rintro ⟨fault, hfault⟩ u hspells
    have hparse : parse s = .ok (⟨u⟩ : Id kind) := parse_eq_ok_iff_untag.mpr hspells
    rw [hfault] at hparse
    cases hparse
  · intro h
    cases hparse : (parse s : Except Uuid.Fault (Id kind)) with
    | error fault => exact ⟨fault, hparse⟩
    | ok id => exact absurd (parse_eq_ok_iff_untag.mp hparse) (h id.uuid)

/-! ## The order of identifiers -/

theorem tagged_lt_tagged {cs' : List Char} : tagged kind cs < tagged kind cs' ↔ cs < cs' := by
  rw [tagged, tagged, append_lt_append_iff rfl, List.cons_lt_cons_self]
  simp

theorem text_lt_text {a b : Id kind} : a.text < b.text ↔ a.uuid.value < b.uuid.value := by
  rw [String.lt_iff_toList_lt, text, text, String.toList_ofList, String.toList_ofList,
    chars_eq_tagged, chars_eq_tagged, tagged_lt_tagged, Uuid.chars_lt_chars]

/-- Texts compare like the numbers. -/
theorem compare_text (a b : Id kind) :
    compare a.text b.text = compare a.uuid.value b.uuid.value := by
  rcases Nat.lt_trichotomy a.uuid.value b.uuid.value with h | h | h
  · rw [compare_lt_iff_lt.mpr h, compare_lt_iff_lt.mpr (text_lt_text.mpr h)]
  · have hsame : a.text = b.text := congrArg (fun u => text ⟨u⟩) (Uuid.ext_value h)
    rw [h, hsame, compare_eq_iff_eq.mpr rfl, compare_eq_iff_eq.mpr rfl]
  · rw [compare_gt_iff_gt.mpr h, compare_gt_iff_gt.mpr (text_lt_text.mpr h)]

/-- What is written is read again and compares alike, and nothing else is read. -/
structure Coherent (kind : Kind) : Prop where
  /-- Bare identifiers are read in their four forms, with letters of either case. -/
  bare : ∀ s u, Uuid.parse s = .ok u ↔ Uuid.Spells s.toList u
  parse_text : ∀ id : Id kind, parse id.text = .ok id
  parse_form : ∀ (id : Id kind) cs, Uuid.Spells cs id.uuid → parse (String.ofList cs) = .ok id
  /-- A text is read exactly if it, or what follows one tag of its kind, is one of the forms. -/
  parse_iff : ∀ s (id : Id kind), parse s = .ok id ↔ Uuid.Spells s.toList id.uuid ∨
    ∃ rest, s.toList = tagged kind rest ∧ Uuid.Spells rest id.uuid
  other_kind : ∀ other, other ≠ kind → ∀ id : Id other, Refused kind id.text
  /-- After one tag there is no other, whatever follows. -/
  second_tag : ∀ other cs, Refused kind (String.ofList (tagged kind (tagged other cs)))
  compare_value : ∀ a b : Id kind, compare a b = compare a.uuid.value b.uuid.value
  compare_text : ∀ a b : Id kind, compare a b = compare a.text b.text

theorem texts_coherent (kind : Kind) : Coherent kind where
  bare _ _ := Uuid.parse_eq_ok_iff
  parse_text id := by
    rw [parse_eq_ok_iff, text, String.toList_ofList]
    exact .inr ⟨id.uuid.chars, rfl, Uuid.spells_chars id.uuid⟩
  parse_form id cs h := by
    rw [parse_eq_ok_iff, String.toList_ofList]
    exact .inl h
  parse_iff _ _ := parse_eq_ok_iff
  -- The text of another kind keeps its tag, and with a tag in front it is no spelling of a value.
  other_kind other h id := by
    rw [refused_iff, text, String.toList_ofList, chars_eq_tagged, untag_tagged_of_ne h]
    exact fun u => not_spells_tagged
  -- One tag is taken off, so a second one is left over.
  second_tag other cs := by
    rw [refused_iff, String.toList_ofList, untag_tagged]
    exact fun u => not_spells_tagged
  compare_value _ _ := rfl
  compare_text a b := (compare_text a b).symm

/-- A page is found under its braced form in capitals behind the tag, but not as a user, nor behind
    two tags. The digits that differ decide how pages compare. -/
theorem texts_coherent_braced :
    let page : PageId := ⟨.ofNat 0xabc⟩
    let braced := "\x7b00000000-0000-0000-0000-000000000ABC\x7d".toList
    parse (String.ofList (tagged .page braced)) = .ok page ∧ Refused .user page.text ∧
      Refused .page (String.ofList (tagged .page page.chars)) ∧
      compare page.text (⟨.ofNat 0xabd⟩ : PageId).text = .lt := by
  intro page braced
  have hpage := texts_coherent .page
  have hbraced : Uuid.Spells braced page.uuid := by
    simp only [Uuid.Spells]
    decide +kernel
  refine ⟨(hpage.parse_iff _ page).mpr (.inr ⟨braced, String.toList_ofList, hbraced⟩),
    (texts_coherent .user).other_kind .page (by decide) page,
    hpage.second_tag .page page.uuid.chars, ?_⟩
  rw [← hpage.compare_text, hpage.compare_value]
  decide +kernel

end Id

end SharedPages
