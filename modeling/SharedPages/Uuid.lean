/-! # 128-bit identifiers

A `Uuid` is the number that its sixteen bytes spell, most significant byte first, so the order of
identifiers is the order of numbers.  `Uuid.v7` builds the time-ordered form, in which identifiers
made later compare greater.  The text form is in `SharedPages.Uuid.Text`. -/

namespace SharedPages

/-- A universally unique identifier, as the number its bytes spell. -/
structure Uuid where
  value : Nat
  isLt : value < 0x100000000000000000000000000000000
deriving DecidableEq

namespace Uuid

/-- The identifier with the last 128 bits of `n`. -/
def ofNat (n : Nat) : Uuid := ⟨n % 0x100000000000000000000000000000000, Nat.mod_lt _ (by decide)⟩

@[simp] theorem value_ofNat (n : Nat) :
    (ofNat n).value = n % 0x100000000000000000000000000000000 := rfl

theorem ext_value {u v : Uuid} (h : u.value = v.value) : u = v := by
  cases u
  cases v
  cases h
  rfl

theorem ofNat_value (u : Uuid) : ofNat u.value = u := ext_value (Nat.mod_eq_of_lt u.isLt)

instance : Inhabited Uuid := ⟨ofNat 0⟩

instance : LT Uuid := ⟨fun u v => u.value < v.value⟩

instance : LE Uuid := ⟨fun u v => u.value ≤ v.value⟩

instance (u v : Uuid) : Decidable (u < v) := inferInstanceAs (Decidable (u.value < v.value))

instance (u v : Uuid) : Decidable (u ≤ v) := inferInstanceAs (Decidable (u.value ≤ v.value))

instance : Ord Uuid := ⟨fun u v => compare u.value v.value⟩

theorem lt_def {u v : Uuid} : u < v ↔ u.value < v.value := Iff.rfl

/-- The four bits that say how the identifier was made. -/
def version (u : Uuid) : Nat := u.value >>> 76 % 16

/-- The identifier of version 7 for a time in milliseconds and a 74-bit tail.  The tail fills the
    twelve bits after the version and the sixty-two bits after the variant `10`. -/
def v7 (millis tail : Nat) : Uuid :=
  ofNat ((millis % 0x1000000000000) <<< 80 + 7 <<< 76 + (tail >>> 62 % 0x1000) <<< 64 +
    2 <<< 62 + tail % 0x4000000000000000)

theorem version_v7 (millis tail : Nat) : (v7 millis tail).version = 7 := by
  simp only [version, v7, value_ofNat]
  omega

/-- A tail of 74 bits is split in two, at the variant. -/
theorem value_v7 (millis : Nat) {tail : Nat} (h : tail < 0x4000000000000000000) :
    (v7 millis tail).value = millis % 0x1000000000000 * 0x100000000000000000000 +
      0x70000000000000000000 + tail / 0x4000000000000000 * 0x10000000000000000 +
      0x8000000000000000 + tail % 0x4000000000000000 := by
  have hfirst : tail / 0x4000000000000000 % 0x1000 = tail / 0x4000000000000000 := by omega
  simp only [v7, value_ofNat, Nat.shiftLeft_eq, Nat.shiftRight_eq_div_pow, Nat.reducePow, hfirst]
  omega

/-- Of two tails that fit, the greater one makes the greater identifier. -/
theorem v7_lt_v7 (millis : Nat) {tail tail' : Nat} (h : tail < tail')
    (hfits : tail' < 0x4000000000000000000) : v7 millis tail < v7 millis tail' := by
  rw [lt_def, value_v7 millis (Nat.lt_trans h hfits), value_v7 millis hfits]
  omega
end Uuid

end SharedPages
