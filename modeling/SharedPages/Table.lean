import SharedPages.Id

/-! # Tables

A table holds values under identifiers of one kind, in the order of the identifiers.  Storing a
value under an identifier replaces what was there.  The look-up of a table tells what each operation
does to it:

* `find?_insert`: storing a value changes what is found under its own identifier, and nothing else;
* `find?_erase`: removing a value leaves nothing under its own identifier, and all else stays. -/

namespace SharedPages

/-- Values under identifiers, in order. -/
structure Table (kind : Kind) (α : Type) where
  entries : List (Id kind × α)
  sorted : entries.Pairwise fun a b => a.1.uuid < b.1.uuid

namespace Table

variable {kind : Kind} {α : Type}

/-- The table that holds nothing. -/
def empty : Table kind α := ⟨[], List.Pairwise.nil⟩

instance : Inhabited (Table kind α) := ⟨empty⟩

/-- Puts a value in its place among sorted entries. -/
def insertEntry (id : Id kind) (a : α) : List (Id kind × α) → List (Id kind × α)
  | [] => [(id, a)]
  | e :: rest =>
    if id.uuid < e.1.uuid then (id, a) :: e :: rest
    else if e.1.uuid < id.uuid then e :: insertEntry id a rest
    else (id, a) :: rest

theorem mem_insertEntry {id : Id kind} {a : α} {es : List (Id kind × α)} {e : Id kind × α}
    (h : e ∈ insertEntry id a es) : e = (id, a) ∨ e ∈ es := by
  induction es with
  | nil => simpa [insertEntry] using h
  | cons f es ih =>
    simp only [insertEntry] at h
    split at h
    · simpa using h
    · split at h
      · rcases List.mem_cons.mp h with h | h
        · exact .inr (by simp [h])
        · rcases ih h with h | h
          · exact .inl h
          · exact .inr (List.mem_cons_of_mem _ h)
      · rcases List.mem_cons.mp h with h | h
        · exact .inl h
        · exact .inr (List.mem_cons_of_mem _ h)

theorem sorted_insertEntry (id : Id kind) (a : α) {es : List (Id kind × α)}
    (h : es.Pairwise fun a b => a.1.uuid < b.1.uuid) :
    (insertEntry id a es).Pairwise fun a b => a.1.uuid < b.1.uuid := by
  induction es with
  | nil => simp [insertEntry]
  | cons f es ih =>
    have ⟨hf, hes⟩ := List.pairwise_cons.mp h
    simp only [insertEntry]
    split
    · rename_i hlt
      refine List.pairwise_cons.mpr ⟨fun e he => ?_, h⟩
      rcases List.mem_cons.mp he with rfl | he
      · exact hlt
      · exact Nat.lt_trans hlt (hf e he)
    · rename_i hge
      split
      · rename_i hlt
        refine List.pairwise_cons.mpr ⟨fun e he => ?_, ih hes⟩
        rcases mem_insertEntry he with rfl | he
        · exact hlt
        · exact hf e he
      · rename_i hge'
        have heq : f.1.uuid.value = id.uuid.value :=
          Nat.le_antisymm (Nat.le_of_not_lt hge) (Nat.le_of_not_lt hge')
        refine List.pairwise_cons.mpr ⟨fun e he => ?_, hes⟩
        have := hf e he
        simp only [Uuid.lt_def] at this ⊢
        omega

/-- Stores a value under an identifier. -/
def insert (t : Table kind α) (id : Id kind) (a : α) : Table kind α :=
  ⟨insertEntry id a t.entries, sorted_insertEntry id a t.sorted⟩

/-- Removes what is stored under an identifier. -/
def erase (t : Table kind α) (id : Id kind) : Table kind α :=
  ⟨t.entries.filter (·.1 ≠ id), t.sorted.filter _⟩

/-- What is stored under an identifier. -/
def find? (t : Table kind α) (id : Id kind) : Option α :=
  (t.entries.find? (·.1 = id)).map (·.2)

/-- The values, in the order of their identifiers. -/
def values (t : Table kind α) : List α := t.entries.map (·.2)

theorem find?_insertEntry (id other : Id kind) (a : α) (es : List (Id kind × α)) :
    (insertEntry id a es).find? (·.1 = other) =
      if id = other then some (id, a) else es.find? (·.1 = other) := by
  induction es with
  | nil => by_cases h : id = other <;> simp [insertEntry, h]
  | cons e es ih =>
    simp only [insertEntry]
    split
    · by_cases h : id = other <;> simp [h]
    · rename_i hge
      split
      · rename_i hlt
        -- An entry that stands before the place of `id` has another identifier.
        have hne : e.1 ≠ id := by
          rintro rfl
          exact Nat.lt_irrefl _ hlt
        by_cases he : e.1 = other
        · have hid : id ≠ other := fun h => hne (he.trans h.symm)
          simp [he, hid]
        · simp [he, ih]
      · rename_i hge'
        have huuid : e.1.uuid = id.uuid :=
          Uuid.ext_value (Nat.le_antisymm (Nat.le_of_not_lt hge) (Nat.le_of_not_lt hge'))
        have hid : e.1 = id := congrArg Id.mk huuid
        by_cases h : id = other <;> simp [hid, h]

theorem find?_insert (t : Table kind α) (id other : Id kind) (a : α) :
    (t.insert id a).find? other = if id = other then some a else t.find? other := by
  simp only [find?, insert, find?_insertEntry]
  split <;> rfl

theorem find?_erase (t : Table kind α) (id other : Id kind) :
    (t.erase id).find? other = if id = other then none else t.find? other := by
  simp only [find?, erase, List.find?_filter]
  by_cases h : id = other
  · simp [h]
  · have heq : (fun e : Id kind × α => !decide (e.1 = id) && decide (e.1 = other)) =
        fun e => decide (e.1 = other) := by
      funext e
      by_cases he : e.1 = other
      · simp [he, Ne.symm h]
      · simp [he]
    simp [h, heq]

end Table

end SharedPages
