import SharedPages.Proofs.SavepointStack

/-!
# Levels of nesting

A unit that runs in an open transaction opens a savepoint, and all that happens
until it ends happens above that savepoint: later savepoints come and go, rows
are added, savepoints are abandoned, but what the unit found stays below its
*floor*, the number of its savepoint (`Level`).

What the steps of a unit do to the transaction is described without mention of
savepoints: they add rows (`Grows`). The rows that count are those of the
settled transaction, since what is abandoned will be undone before anything
else happens. Taking the unit back adds nothing, whichever way it is done:
`Grows.rolledBack` goes back to its savepoint at once, and `Grows.abandoned`
leaves that to whoever settles the transaction.

## Key results

- `Grows.trans`: steps one after another
- `Level.settled`: settling adds nothing
- `Grows.released`, `Grows.rolledBack`, `Grows.abandoned`: the three ways in which a unit ends
-/

namespace SharedPages.OpenTransaction

variable {t t₀ t₁ t₂ : OpenTransaction} {sp : Savepoint} {n floor : Nat}
  {rows more : List String}

/-! ## Savepoints that are open -/

/-- The savepoint is on the stack and marks `n` rows. -/
def Marks (t : OpenTransaction) (sp : Savepoint) (n : Nat) : Prop := (sp, n) ∈ t.marks

/-- The stack is what was opened later than a savepoint, the savepoint, and what was opened
    earlier. -/
theorem Ordered.exists_split (ht : t.Ordered) (hmarks : t.Marks sp n) :
    ∃ later earlier, t.marks = later ++ (sp, n) :: earlier ∧
      t.marksFrom sp = (sp, n) :: earlier ∧ ∀ m ∈ later, sp.seq < m.1.seq := by
  obtain ⟨later, earlier, hsplit⟩ := List.append_of_mem hmarks
  have hdescending := ht.descending
  rw [hsplit, List.pairwise_append] at hdescending
  have hlater : ∀ m ∈ later, sp.seq < m.1.seq :=
    fun m hm => (hdescending.2.2 m hm (sp, n) List.mem_cons_self).1
  refine ⟨later, earlier, hsplit, ?_, hlater⟩
  -- Numbers fall along the stack, so the search passes over all that is later.
  have hne : ∀ m ∈ later, decide (m.1 ≠ sp) = true := by
    intro m hm
    have := hlater m hm
    simp only [decide_eq_true_eq]
    rintro rfl
    omega
  rw [marksFrom, hsplit, List.dropWhile_append_of_pos hne, List.dropWhile_cons_of_neg (by simp)]

theorem Ordered.marks_unique {n' : Nat} (ht : t.Ordered) (hmarks : t.Marks sp n)
    (hmarks' : t.Marks sp n') : n = n' := by
  obtain ⟨_, _, -, hfrom, -⟩ := ht.exists_split hmarks
  obtain ⟨_, _, -, hfrom', -⟩ := ht.exists_split hmarks'
  rw [hfrom] at hfrom'
  exact congrArg Prod.snd (List.cons.inj hfrom').1

/-- A savepoint that is open can be gone back to, unless the statement fails. -/
theorem Ordered.refusal?_rollbackTo (ht : t.Ordered) (hmarks : t.Marks sp n) (s : Store) :
    t.refusal? s (.rollbackTo sp) =
      if s.isFailing ⟨t.label, sp.rollbackStatement⟩ then
        some (Store.injected sp.rollbackStatement)
      else none := by
  obtain ⟨_, _, -, hfrom, -⟩ := ht.exists_split hmarks
  simp only [refusal?, obey, hfrom, Order.text]

/-- A savepoint that is open can be released, unless the statement fails. -/
theorem Ordered.refusal?_release (ht : t.Ordered) (hmarks : t.Marks sp n) (s : Store) :
    t.refusal? s (.release sp) =
      if s.isFailing ⟨t.label, sp.releaseStatement⟩ then
        some (Store.injected sp.releaseStatement)
      else none := by
  obtain ⟨_, _, -, hfrom, -⟩ := ht.exists_split hmarks
  simp only [refusal?, obey, hfrom, Order.text]

theorem Ordered.after_rollbackTo (ht : t.Ordered) (hmarks : t.Marks sp n) :
    t.after (.rollbackTo sp) = { t with rows := t.rows.take n, marks := t.marksFrom sp } := by
  obtain ⟨_, _, -, hfrom, -⟩ := ht.exists_split hmarks
  simp only [after, obey, hfrom]

theorem Ordered.after_release (ht : t.Ordered) (hmarks : t.Marks sp n) :
    t.after (.release sp) = { t with marks := (t.marksFrom sp).tail } := by
  obtain ⟨_, _, -, hfrom, -⟩ := ht.exists_split hmarks
  simp only [after, obey, hfrom, List.tail_cons]

/-! ## Levels -/

/-- The marks that are not above a floor. -/
def below (floor : Nat) (t : OpenTransaction) : List (Savepoint × Nat) :=
  t.marks.filter (·.1.seq ≤ floor)

/-- All that is abandoned was opened above the floor, and can be gone back to. -/
structure Level (floor : Nat) (t : OpenTransaction) : Prop where
  ordered : t.Ordered
  le_issued : floor ≤ t.issued
  above : ∀ sp ∈ t.abandoned, floor < sp.seq
  isOpen : ∀ sp ∈ t.abandoned, ∃ n, t.Marks sp n

/-- From the first transaction to the second, nothing changed below the floor, and `rows` were
    added that are not abandoned. -/
structure Grows (floor : Nat) (t : OpenTransaction) (rows : List String) (t' : OpenTransaction) :
    Prop where
  level : Level floor t'
  below_eq : t'.below floor = t.below floor
  issued_le : t.issued ≤ t'.issued
  rows_eq : t'.settled.rows = t.settled.rows ++ rows

theorem Ordered.level (ht : t.Ordered) (hle : floor ≤ t.issued) (hnone : t.abandoned = []) :
    Level floor t :=
  ⟨ht, hle, by simp [hnone], by simp [hnone]⟩

theorem Level.lower {floor' : Nat} (h : Level floor t) (hle : floor' ≤ floor) :
    Level floor' t where
  ordered := h.ordered
  le_issued := Nat.le_trans hle h.le_issued
  above sp hsp := Nat.lt_of_le_of_lt hle (h.above sp hsp)
  isOpen := h.isOpen

private theorem below_of_le {floor' : Nat} (t : OpenTransaction) (hle : floor' ≤ floor) :
    t.below floor' = (t.below floor).filter (·.1.seq ≤ floor') := by
  rw [below, below, List.filter_filter]
  apply List.filter_congr
  intro m _
  rw [← Bool.decide_and, decide_eq_decide]
  omega

theorem Grows.lower {floor' : Nat} (h : Grows floor t rows t₁) (hle : floor' ≤ floor) :
    Grows floor' t rows t₁ where
  level := h.level.lower hle
  below_eq := by rw [below_of_le t₁ hle, h.below_eq, ← below_of_le t hle]
  issued_le := h.issued_le
  rows_eq := h.rows_eq

theorem Level.refl (h : Level floor t) : Grows floor t [] t :=
  ⟨h, rfl, Nat.le_refl _, (List.append_nil _).symm⟩

/-- Steps one after another. -/
theorem Grows.trans (h₁ : Grows floor t rows t₁) (h₂ : Grows floor t₁ more t₂) :
    Grows floor t (rows ++ more) t₂ where
  level := h₂.level
  below_eq := h₂.below_eq.trans h₁.below_eq
  issued_le := Nat.le_trans h₁.issued_le h₂.issued_le
  rows_eq := by rw [h₂.rows_eq, h₁.rows_eq, List.append_assoc]

/-! ## Steps inside a unit -/

/-- What was opened since an open savepoint is above every floor that is below it. -/
private theorem Ordered.filter_marksFrom (ht : t.Ordered) (hmarks : t.Marks sp n)
    (hlt : floor < sp.seq) :
    (t.marksFrom sp).filter (·.1.seq ≤ floor) = t.below floor ∧
      (t.marksFrom sp).tail.filter (·.1.seq ≤ floor) = t.below floor := by
  obtain ⟨later, earlier, hsplit, hfrom, hlater⟩ := ht.exists_split hmarks
  -- What is later than `sp` is above the floor as well.
  have hnil : later.filter (·.1.seq ≤ floor) = [] := by
    rw [List.filter_eq_nil_iff]
    intro m hm
    have := hlater m hm
    simp only [decide_eq_true_eq]
    omega
  have hsp : ¬ sp.seq ≤ floor := by omega
  simp [below, hsplit, hfrom, hnil, hsp]

/-- Settling goes back to the earliest of the abandoned savepoints. -/
private theorem Level.settled_eq (h : Level floor t) (hearliest : t.earliest? = some sp) :
    ∃ n, t.Marks sp n ∧
      t.settled = { t with rows := t.rows.take n, marks := t.marksFrom sp, abandoned := [] } := by
  obtain ⟨n, hmarks⟩ := h.isOpen sp (mem_of_earliest? hearliest)
  refine ⟨n, hmarks, ?_⟩
  simp only [OpenTransaction.settled, hearliest, h.ordered.after_rollbackTo hmarks]

private theorem earliest?_congr (h : t₁.abandoned = t.abandoned) : t₁.earliest? = t.earliest? := by
  simp only [earliest?, toTransaction, Transaction.earliest?, h]

/-- Settling adds nothing. -/
theorem Level.settled (h : Level floor t) : Grows floor t [] t.settled := by
  cases hearliest : t.earliest? with
  | none =>
    -- With nothing abandoned, nothing is to be done.
    rw [settled_of_abandoned_nil (earliest?_eq_none.mp hearliest)]
    exact h.refl
  | some first =>
    -- What is abandoned lies above the floor, so going back to it leaves what the floor guards.
    have habove := h.above first (mem_of_earliest? hearliest)
    obtain ⟨n, hmarks, hsettled⟩ := h.settled_eq hearliest
    have hlevel : Level floor t.settled :=
      h.ordered.settled.level (by simpa using h.le_issued) (abandoned_settled t)
    refine ⟨hlevel, ?_, ?_, ?_⟩
    · rw [hsettled]
      exact (h.ordered.filter_marksFrom hmarks habove).1
    · simp
    · rw [settled_of_abandoned_nil (abandoned_settled t), List.append_nil]

/-- What does not change rows, stack and abandoned savepoints adds nothing. -/
theorem Level.resting (h : Level floor t) (hrows : t₁.rows = t.rows) (hmarks : t₁.marks = t.marks)
    (habandoned : t₁.abandoned = t.abandoned) (hissued : t.issued ≤ t₁.issued) :
    Grows floor t [] t₁ := by
  have hordered : t₁.Ordered :=
    h.ordered.move (.rest hrows hmarks hissued (habandoned ▸ List.Subset.refl _))
  have hlevel : Level floor t₁ := by
    refine ⟨hordered, Nat.le_trans h.le_issued hissued, ?_, ?_⟩
    · exact fun sp hsp => h.above sp (habandoned ▸ hsp)
    · intro sp hsp
      obtain ⟨n, hn⟩ := h.isOpen sp (habandoned ▸ hsp)
      exact ⟨n, by rwa [Marks, hmarks]⟩
  refine ⟨hlevel, by rw [below, below, hmarks], hissued, ?_⟩
  cases hearliest : t.earliest? with
  | none =>
    have hnone := earliest?_eq_none.mp hearliest
    rw [settled_of_abandoned_nil hnone, settled_of_abandoned_nil (habandoned.trans hnone), hrows,
      List.append_nil]
  | some first =>
    -- Both settle by going back to one savepoint, which marks one number of rows.
    obtain ⟨n, hn, hsettled⟩ := h.settled_eq hearliest
    obtain ⟨n₁, hn₁, hsettled₁⟩ := hlevel.settled_eq ((earliest?_congr habandoned).trans hearliest)
    rw [Marks, hmarks] at hn₁
    obtain rfl : n₁ = n := h.ordered.marks_unique hn₁ hn
    rw [hsettled, hsettled₁, hrows, List.append_nil]

/-- A new savepoint adds nothing, and is a floor for what follows. -/
theorem Level.opened (h : Level floor t) (hnone : t.abandoned = []) :
    Grows floor t [] t.opened ∧ Level t.next.seq t.opened := by
  have hlt : ¬ t.next.seq ≤ floor := by
    have := h.le_issued
    simp only [next]
    omega
  have hnone' : t.opened.abandoned = [] := hnone
  have hissued : t.issued ≤ t.opened.issued := Nat.le_succ _
  refine ⟨⟨h.ordered.opened.level (Nat.le_trans h.le_issued hissued) hnone', ?_, hissued, ?_⟩,
    h.ordered.opened.level (Nat.le_refl _) hnone'⟩
  · simp [below, OpenTransaction.opened, hlt]
  · rw [settled_of_abandoned_nil hnone, settled_of_abandoned_nil hnone', List.append_nil]
    rfl

/-- What is abandoned can be settled where nothing fails. -/
theorem Level.obstacle?_eq_none {s : Store} (h : Level floor t) (hnil : s.failures = []) :
    t.obstacle? s = none := by
  simp only [obstacle?]
  split
  · rfl
  · rename_i first hearliest
    obtain ⟨n, hmarks⟩ := h.isOpen first (mem_of_earliest? hearliest)
    rw [h.ordered.refusal?_rollbackTo hmarks, Store.isFailing_of_failures_nil hnil]
    rfl

/-- What is abandoned can be settled, unless the statement fails. -/
theorem Level.busy_or_failing_of_gate? {s : Store} {e : DatabaseError} (h : Level floor t)
    (hgate : t.gate? s = some e) : t.busy = true ∨ s.failures ≠ [] := by
  cases hbusy : t.busy with
  | true => exact .inl rfl
  | false =>
    refine .inr fun hnil => ?_
    simp only [gate?, hbusy, Bool.false_eq_true, if_false, h.obstacle?_eq_none hnil] at hgate
    cases hgate

/-- A row that is written while nothing waits to be settled is there to stay. -/
theorem Level.insert (h : Level floor t) (hnone : t.abandoned = []) (row : String) :
    Grows floor t [row] (t.after (.insert row)) := by
  have hnone' : (t.after (.insert row)).abandoned = [] := by rw [abandoned_after, hnone]
  refine ⟨(h.ordered.insert row).level h.le_issued hnone', rfl, Nat.le_refl _, ?_⟩
  rw [settled_of_abandoned_nil hnone, settled_of_abandoned_nil hnone']
  rfl

/-- A row that is written while something waits to be settled goes with it. -/
theorem Level.insert_doomed (h : Level floor t) (hsome : t.abandoned ≠ []) (row : String) :
    Grows floor t [] (t.after (.insert row)) := by
  have hlevel : Level floor (t.after (.insert row)) :=
    ⟨h.ordered.insert row, h.le_issued, h.above, h.isOpen⟩
  refine ⟨hlevel, rfl, Nat.le_refl _, ?_⟩
  obtain ⟨first, hearliest⟩ := Option.ne_none_iff_exists'.mp (mt earliest?_eq_none.mp hsome)
  obtain ⟨n, hmarks, hsettled⟩ := h.settled_eq hearliest
  obtain ⟨n', hmarks', hsettled'⟩ :=
    hlevel.settled_eq ((earliest?_congr (abandoned_after t _)).trans hearliest)
  obtain rfl : n' = n := h.ordered.marks_unique hmarks' hmarks
  -- The savepoint was opened before the row was written, so settling goes back past it.
  rw [hsettled, hsettled', List.append_nil]
  exact List.take_append_of_le_length (h.ordered.length_le _ hmarks)

/-! ## The end of a unit -/

section Unit

variable (h : Level floor t₀) (hnone : t₀.abandoned = [])
  (hgrows : Grows t₀.next.seq t₀.opened rows t₂)

include hgrows in
/-- The savepoint of a unit is still open when the unit ends, and marks what the unit found. -/
theorem Grows.marks_next : t₂.Marks t₀.next t₀.rows.length := by
  have hmem : (t₀.next, t₀.rows.length) ∈ t₀.opened.below t₀.next.seq := by
    simp [below, OpenTransaction.opened]
  rw [← hgrows.below_eq] at hmem
  exact (List.mem_filter.mp hmem).1

omit hgrows in
include h in
theorem Level.floor_lt : floor < t₀.next.seq := Nat.lt_succ_of_le h.le_issued

include h hnone hgrows

/-- What a unit does, seen from around it. -/
theorem Grows.outer : Grows floor t₀ rows t₂ := by
  have hopened := (h.opened hnone).1
  exact hopened.trans (hgrows.lower (Nat.le_of_lt h.floor_lt))

/-- Of the rows at the end of a unit, the first are those that the unit found. -/
private theorem Grows.take_rows : t₂.rows.take t₀.rows.length = t₀.rows := by
  obtain ⟨n, htrim⟩ := hgrows.level.ordered.trimmedTo_settled
  have hrows := htrim.1
  rw [(hgrows.outer h hnone).rows_eq, settled_of_abandoned_nil hnone] at hrows
  -- The settled transaction has what the unit found, and its rows are first rows of `t₂`.
  have hprefix : t₀.rows <+: t₂.rows :=
    (List.prefix_append t₀.rows rows).trans (hrows ▸ List.take_prefix n t₂.rows)
  exact (List.prefix_iff_eq_take.mp hprefix).symm

/-- A unit ends with an order to the session that changes nothing below the floor. -/
private theorem Grows.ended {o : Order} (hnone₂ : t₂.abandoned = [])
    (hordered : (t₂.after o).Ordered) (hbelow : (t₂.after o).below floor = t₂.below floor)
    (hrows : (t₂.after o).rows = t₀.rows ++ more) : Grows floor t₀ more (t₂.after o) := by
  have houter := hgrows.outer h hnone
  have hnone' : (t₂.after o).abandoned = [] := by rw [abandoned_after, hnone₂]
  refine ⟨hordered.level (by simpa using houter.level.le_issued) hnone', ?_, ?_, ?_⟩
  · rw [hbelow, houter.below_eq]
  · simpa using houter.issued_le
  · rw [settled_of_abandoned_nil hnone', settled_of_abandoned_nil hnone, hrows]

/-- Releasing the savepoint keeps what the unit wrote. -/
theorem Grows.released (hnone₂ : t₂.abandoned = []) :
    Grows floor t₀ rows (t₂.after (.release t₀.next)) := by
  have hmarks := hgrows.marks_next
  have hafter := hgrows.level.ordered.after_release hmarks
  have hordered := hgrows.level.ordered.move (.release _ t₀.next)
  refine hgrows.ended h hnone hnone₂ hordered ?_ ?_
  · rw [hafter]
    exact (hgrows.level.ordered.filter_marksFrom hmarks h.floor_lt).2
  · have hrows := (hgrows.outer h hnone).rows_eq
    rw [settled_of_abandoned_nil hnone₂, settled_of_abandoned_nil hnone] at hrows
    rw [hafter, hrows]

/-- Going back to the savepoint undoes what the unit wrote. -/
theorem Grows.rolledBack (hnone₂ : t₂.abandoned = []) :
    Grows floor t₀ [] (t₂.after (.rollbackTo t₀.next)) := by
  have hmarks := hgrows.marks_next
  have hafter := hgrows.level.ordered.after_rollbackTo hmarks
  have hordered := hgrows.level.ordered.move (.rollbackTo _ t₀.next)
  refine hgrows.ended h hnone hnone₂ hordered ?_ ?_
  · rw [hafter]
    exact (hgrows.level.ordered.filter_marksFrom hmarks h.floor_lt).1
  · have htake : t₂.rows.take t₀.rows.length = t₀.rows := hgrows.take_rows h hnone
    rw [hafter, List.append_nil]
    exact htake

/-- Abandoning the savepoint undoes what the unit wrote as soon as the transaction is settled. -/
theorem Grows.abandoned :
    Grows floor t₀ [] { t₂ with abandoned := t₀.next :: t₂.abandoned } := by
  have houter := hgrows.outer h hnone
  have hmarks := hgrows.marks_next
  have hlevel : Level floor { t₂ with abandoned := t₀.next :: t₂.abandoned } := by
    refine ⟨hgrows.level.ordered.move (.rest rfl rfl (Nat.le_refl _) (List.subset_cons_self _ _)),
      houter.level.le_issued, ?_, ?_⟩
    · intro sp hsp
      rcases List.mem_cons.mp hsp with rfl | hsp
      · exact h.floor_lt
      · exact houter.level.above sp hsp
    · intro sp hsp
      rcases List.mem_cons.mp hsp with rfl | hsp
      · exact ⟨_, hmarks⟩
      · exact houter.level.isOpen sp hsp
  refine ⟨hlevel, houter.below_eq, houter.issued_le, ?_⟩
  -- Everything else that is abandoned was opened in the unit, so its savepoint is the earliest.
  have hearliest : OpenTransaction.earliest? { t₂ with abandoned := t₀.next :: t₂.abandoned } =
      some t₀.next := by
    cases hfirst : OpenTransaction.earliest? { t₂ with abandoned := t₀.next :: t₂.abandoned } with
    | none => cases earliest?_eq_none.mp hfirst
    | some first =>
      have hle := earliest?_le hfirst List.mem_cons_self
      rcases List.mem_cons.mp (mem_of_earliest? hfirst) with rfl | hmem
      · rfl
      · have := hgrows.level.above first hmem
        omega
  obtain ⟨n, hmarks', hsettled⟩ := hlevel.settled_eq hearliest
  obtain rfl : n = t₀.rows.length := hgrows.level.ordered.marks_unique hmarks' hmarks
  have htake : t₂.rows.take t₀.rows.length = t₀.rows := hgrows.take_rows h hnone
  rw [hsettled, settled_of_abandoned_nil hnone, List.append_nil]
  exact htake

end Unit

end SharedPages.OpenTransaction
