import SharedPages.Proofs.OpenTransaction

/-!
# The stack of savepoints

The savepoints on a transaction's stack stand in the order of their numbers,
and none of them marks more rows than there are (`Ordered`). Whatever an
operation does to an open transaction is a sequence of moves (`Move`), and a
move that takes savepoints off the stack also keeps what the others mark
(`TrimmedTo`).

## Key results

- `Ordered.move`: every move keeps the stack ordered
- `TrimmedTo.take_eq`: going back keeps the rows below every mark that is left
-/

namespace SharedPages.OpenTransaction

/-- The savepoints on the stack are ordered, and mark rows that are there. -/
structure Ordered (t : OpenTransaction) : Prop where
  descending : t.marks.Pairwise fun m m' => m'.1.seq < m.1.seq ∧ m'.2 ≤ m.2
  seq_le : ∀ m ∈ t.marks, m.1.seq ≤ t.issued
  length_le : ∀ m ∈ t.marks, m.2 ≤ t.rows.length

/-- A transaction that was just begun on a pool. -/
def fresh (label : String) : OpenTransaction := { label }

theorem ordered_fresh (label : String) : (fresh label).Ordered := by
  constructor <;> simp [fresh]

/-! ## Looking a savepoint up -/

variable {t t' : OpenTransaction} {sp : Savepoint} {m : Savepoint × Nat}
  {rest : List (Savepoint × Nat)}

/-- The stack from a savepoint on is the end of the stack, and begins with that savepoint. -/
theorem marksFrom_spec (h : t.marksFrom sp = m :: rest) : m.1 = sp ∧ m :: rest <:+ t.marks := by
  have hsuffix : t.marksFrom sp <:+ t.marks := List.dropWhile_suffix _
  -- The search stops at the first savepoint that is `sp`.
  have hhead := List.head?_dropWhile_not (fun m : Savepoint × Nat => decide (m.1 ≠ sp)) t.marks
  rw [← marksFrom, h] at hhead
  exact ⟨by simpa using hhead, h ▸ hsuffix⟩

theorem mem_of_marksFrom (h : t.marksFrom sp = m :: rest) : m ∈ t.marks :=
  (marksFrom_spec h).2.subset List.mem_cons_self

theorem Ordered.le_of_mem_rest (ht : t.Ordered) (h : t.marksFrom sp = m :: rest) :
    ∀ m' ∈ rest, m'.2 ≤ m.2 := by
  have hpairwise := ht.descending.sublist (marksFrom_spec h).2.sublist
  exact fun m' hm' => ((List.pairwise_cons.mp hpairwise).1 m' hm').2

/-! ## Going back -/

/-- The second transaction kept the first `n` rows of the first, and of its stack an end that
    marks no more rows. -/
def TrimmedTo (n : Nat) (t t' : OpenTransaction) : Prop :=
  t'.rows = t.rows.take n ∧ t'.marks <:+ t.marks ∧ ∀ m ∈ t'.marks, m.2 ≤ n

/-- Keeping all rows and marks is going back nowhere. -/
theorem Ordered.trimmedTo_length (ht : t.Ordered) : TrimmedTo t.rows.length t t :=
  ⟨(List.take_length).symm, List.suffix_rfl, ht.length_le⟩

theorem Ordered.trimmedTo_rollbackTo (ht : t.Ordered) (sp : Savepoint) :
    ∃ n, TrimmedTo n t (t.after (.rollbackTo sp)) := by
  simp only [after, obey]
  cases h : t.marksFrom sp with
  | nil =>
    -- The savepoint is not open, and the order changes nothing.
    exact ⟨_, ht.trimmedTo_length⟩
  | cons m rest =>
    refine ⟨m.2, rfl, (marksFrom_spec h).2, ?_⟩
    intro m' hm'
    rcases List.mem_cons.mp hm' with rfl | hm'
    · exact Nat.le_refl _
    · exact ht.le_of_mem_rest h m' hm'

theorem Ordered.trimmedTo_release (ht : t.Ordered) (sp : Savepoint) :
    ∃ n, TrimmedTo n t (t.after (.release sp)) := by
  simp only [after, obey]
  cases h : t.marksFrom sp with
  | nil => exact ⟨_, ht.trimmedTo_length⟩
  | cons m rest =>
    have hsuffix : rest <:+ t.marks := (List.suffix_cons m rest).trans (marksFrom_spec h).2
    -- A release keeps all rows.
    exact ⟨t.rows.length, (List.take_length).symm, hsuffix,
      fun m' hm' => ht.length_le m' (hsuffix.subset hm')⟩

theorem Ordered.trimmedTo_settled (ht : t.Ordered) : ∃ n, TrimmedTo n t t.settled := by
  simp only [settled]
  split
  · exact ⟨_, ht.trimmedTo_length⟩
  · exact ht.trimmedTo_rollbackTo _

/-- Going back keeps the rows below every mark that is left. -/
theorem TrimmedTo.take_eq {n : Nat} (h : TrimmedTo n t t') (hm : m ∈ t'.marks) :
    t'.rows.take m.2 = t.rows.take m.2 := by
  rw [h.1, List.take_take, Nat.min_eq_left (h.2.2 m hm)]

theorem Ordered.trimmed {n : Nat} (ht : t.Ordered) (h : TrimmedTo n t t')
    (hissued : t'.issued = t.issued) : t'.Ordered where
  descending := ht.descending.sublist h.2.1.sublist
  seq_le m hm := hissued ▸ ht.seq_le m (h.2.1.subset hm)
  length_le m hm := by
    rw [h.1, List.length_take]
    exact Nat.le_min.mpr ⟨h.2.2 m hm, ht.length_le m (h.2.1.subset hm)⟩

theorem Ordered.settled (ht : t.Ordered) : t.settled.Ordered := by
  obtain ⟨n, hn⟩ := ht.trimmedTo_settled
  exact ht.trimmed hn (issued_settled t)

/-! ## Moves -/

/-- The transaction once it opened its next savepoint. -/
def opened (t : OpenTransaction) : OpenTransaction :=
  { t with issued := t.issued + 1, marks := (t.next, t.rows.length) :: t.marks }

/-- The least that an operation can do to an open transaction, with the rows that it writes. -/
inductive Move : OpenTransaction → List String → OpenTransaction → Prop where
  /-- Rows and stack stay, and no abandoned savepoint is forgotten. -/
  | rest {t t' : OpenTransaction} (rows : t'.rows = t.rows) (marks : t'.marks = t.marks)
      (issued : t.issued ≤ t'.issued) (abandoned : t.abandoned ⊆ t'.abandoned) : Move t [] t'
  | insert (t : OpenTransaction) (row : String) : Move t [row] (t.after (.insert row))
  | create (t : OpenTransaction) : Move t [] t.opened
  | rollbackTo (t : OpenTransaction) (sp : Savepoint) : Move t [] (t.after (.rollbackTo sp))
  | release (t : OpenTransaction) (sp : Savepoint) : Move t [] (t.after (.release sp))
  /-- Abandoned savepoints are forgotten once the transaction went back to the earliest. -/
  | settle (t : OpenTransaction) {s : Store} (h : t.obstacle? s = none) : Move t [] t.settled

/-- Moves one after another, with all the rows that they write. -/
inductive Moves : OpenTransaction → List String → OpenTransaction → Prop where
  | refl (t : OpenTransaction) : Moves t [] t
  | tail {t t' t'' : OpenTransaction} {written more : List String} (moves : Moves t written t')
      (move : Move t' more t'') : Moves t (written ++ more) t''

theorem Moves.single {written : List String} (h : Move t written t') : Moves t written t' :=
  .tail (.refl t) h

/-- What single moves preserve is preserved by moves one after another. -/
theorem Moves.preserves {J : List String → OpenTransaction → Prop}
    (hmove : ∀ {t written more t'}, J written t → Move t more t' → J (written ++ more) t')
    {written more : List String} (h : Moves t more t') (hJ : J written t) :
    J (written ++ more) t' := by
  -- Induction on the sequence, whose last move is split off.
  induction h with
  | refl => simpa using hJ
  | tail _ move ih => simpa only [List.append_assoc] using hmove ih move

/-- The savepoint that the gate's other side opens. -/
theorem numbered_after_create (t : OpenTransaction) :
    t.numbered.after (.create t.next) = t.settled.opened := by
  simp [numbered, after, obey, opened, next]

theorem Ordered.opened (ht : t.Ordered) : t.opened.Ordered where
  descending := by
    -- The number of the new savepoint is one that was not issued before.
    refine List.pairwise_cons.mpr ⟨fun m hm => ⟨?_, ht.length_le m hm⟩, ht.descending⟩
    exact Nat.lt_succ_of_le (ht.seq_le m hm)
  seq_le := by
    intro m hm
    rcases List.mem_cons.mp hm with rfl | hm
    · exact Nat.le_refl _
    · exact Nat.le_succ_of_le (ht.seq_le m hm)
  length_le := by
    intro m hm
    rcases List.mem_cons.mp hm with rfl | hm
    · exact Nat.le_refl _
    · exact ht.length_le m hm

theorem Ordered.insert (ht : t.Ordered) (row : String) : (t.after (.insert row)).Ordered where
  descending := ht.descending
  seq_le := ht.seq_le
  length_le m hm := by
    have := ht.length_le m hm
    simp only [after, obey, List.length_append]
    omega

/-- Every move keeps the stack ordered. -/
theorem Ordered.move {written : List String} (ht : t.Ordered) (h : Move t written t') :
    t'.Ordered := by
  cases h with
  | rest rows marks issued abandoned =>
    refine ⟨marks ▸ ht.descending, ?_, ?_⟩
    · exact fun m hm => Nat.le_trans (ht.seq_le m (marks ▸ hm)) issued
    · exact fun m hm => rows ▸ ht.length_le m (marks ▸ hm)
  | insert row => exact ht.insert row
  | create => exact ht.opened
  | rollbackTo sp =>
    -- What is left after going back or releasing is the lower end of the stack.
    obtain ⟨n, hn⟩ := ht.trimmedTo_rollbackTo sp
    exact ht.trimmed hn (issued_after t _)
  | release sp =>
    obtain ⟨n, hn⟩ := ht.trimmedTo_release sp
    exact ht.trimmed hn (issued_after t _)
  | settle h => exact ht.settled

end SharedPages.OpenTransaction
