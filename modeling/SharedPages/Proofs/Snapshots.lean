import SharedPages.Proofs.Statement

/-!
# The store and a database of snapshots

The store keeps of a savepoint only how many rows its transaction had by then,
and goes back to it by cutting off the rows that came later. This file sets a
plainer database beside it (`Snapshot`), where a savepoint keeps a copy of all
these rows, and lets both serve the same clients: any number of connections, of
any pools, whose statements come in any order (`Clients.play`).

A connection of the store shows a connection of the other database
(`Session.snapshot`): the copy that belongs to a mark is what the mark would cut
the rows down to. That this copy is still the one that was taken needs marks
that never grow towards the bottom of the stack (`Session.Marked`), for then
going back to one of them leaves the rows below all the others as they were.

## Key results

- `Session.apply_snapshot`: what a statement does to what a connection shows, and to its marks
- `Clients.play_of_simulates`: what holds of single statements holds of every run
- `Store.play_snapshot`: the store gives what the database of snapshots gives
-/

namespace SharedPages

/-! ## Clients of a database -/

/-- A way to serve connections of type `γ` on the state of a store. -/
structure Engine (γ : Type) where
  /-- A connection of the pool of that label, where every statement stands alone. -/
  connect : String → γ
  /-- A connection of the pool of that label, with a transaction that was just begun. -/
  begin : String → Work Store DatabaseError γ
  /-- A transaction is open on the connection. -/
  isOpen : γ → Bool
  /-- The rows that the connection sees. -/
  visible : γ → Store → List String
  execute : String → Work (γ × Store) DatabaseError Unit
  /-- Commits the transaction of a connection, which is gone afterwards in any case. -/
  commit : γ → Work Store DatabaseError Unit
  /-- Undoes the transaction of a connection, which is gone afterwards in any case. -/
  rollback : γ → Work Store DatabaseError Unit

/-- What clients do. Connections are numbered in the order in which they came to be. -/
inductive ClientStep where
  | connect (label : String)
  | begin (label : String)
  | execute (connection : Nat) (text : String)
  /-- Looks at the rows that a connection sees. -/
  | look (connection : Nat)
  | commit (connection : Nat)
  | rollback (connection : Nat)
  /-- Drops a connection, and with it the transaction that is open on it. -/
  | drop (connection : Nat)
  | ping (label : String)
  | close (label : String)
  /-- Makes a statement fail from now on. -/
  | fail (statement : String)
  /-- Lets all statements succeed again. -/
  | heal

/-- What clients learn from a step. -/
inductive ClientAnswer where
  /-- A connection came to be. -/
  | connected (connection : Nat)
  /-- There is no such connection, or no transaction on it that could be ended. -/
  | absent
  | ended (outcome : Outcome DatabaseError Unit)
  | seen (rows : List String)
deriving DecidableEq

/-- A store, and all connections that ever came to be, without those that are gone. -/
structure Clients (γ : Type) where
  store : Store
  connections : List (Option γ) := []

namespace Clients

variable {γ γ' : Type}

/-- The connection of that number. -/
def connection? (d : Clients γ) (n : Nat) : Option γ := (d.connections[n]?).join

/-- Adds a connection. -/
def add (d : Clients γ) (c : γ) : Clients γ := { d with connections := d.connections ++ [some c] }

/-- Takes a connection away. -/
def remove (d : Clients γ) (n : Nat) : Clients γ :=
  { d with connections := d.connections.set n none }

/-- Ends the transaction of a connection in one way or another. -/
def finish (e : Engine γ) (ending : γ → Work Store DatabaseError Unit) (n : Nat)
    (d : Clients γ) : ClientAnswer × Clients γ :=
  match d.connection? n with
  | some c =>
    if e.isOpen c then
      (.ended (ending c d.store).1, { d.remove n with store := (ending c d.store).2 })
    else (.absent, d)
  | none => (.absent, d)

/-- One step of the clients. -/
def step (e : Engine γ) (d : Clients γ) : ClientStep → ClientAnswer × Clients γ
  | .connect label => (.connected d.connections.length, d.add (e.connect label))
  | .begin label =>
    match e.begin label d.store with
    | (.done c, s) => (.connected d.connections.length, { d.add c with store := s })
    | (o, s) => (.ended (o.map fun _ => ()), { d with store := s })
  | .execute n text =>
    match d.connection? n with
    | some c =>
      let (o, c, s) := e.execute text (c, d.store)
      (.ended o, { store := s, connections := d.connections.set n (some c) })
    | none => (.absent, d)
  | .look n =>
    match d.connection? n with
    | some c => (.seen (e.visible c d.store), d)
    | none => (.absent, d)
  | .commit n => d.finish e e.commit n
  | .rollback n => d.finish e e.rollback n
  | .drop n => (.ended (.done ()), d.remove n)
  | .ping label =>
    (.ended (Store.ping label d.store).1, { d with store := (Store.ping label d.store).2 })
  | .close label =>
    (.ended (Store.close label d.store).1, { d with store := (Store.close label d.store).2 })
  | .fail statement => (.ended (.done ()), { d with store := d.store.fail statement })
  | .heal => (.ended (.done ()), { d with store := d.store.heal })

/-- All that clients learn from some steps, and what is left in the end. -/
def play (e : Engine γ) (d : Clients γ) : List ClientStep → List ClientAnswer × Clients γ
  | [] => ([], d)
  | step :: steps =>
    let (answer, d) := d.step e step
    let (answers, d) := play e d steps
    (answer :: answers, d)

end Clients

/-- The store, with all its pools. -/
def Store.engine : Engine Session where
  connect := Store.connection
  begin := Store.begin
  isOpen := Session.inTransaction
  visible := Session.visible
  execute := Store.execute
  commit := Store.commit
  rollback := Store.rollback

/-! ## A database of snapshots -/

namespace Snapshot

/-- An open transaction. -/
structure Transaction where
  /-- The rows that it has written, oldest first. Nobody else sees them. -/
  own : List String := []
  /-- The open savepoints, topmost first, each with a copy of these rows as they were. -/
  savepoints : List (String × List String) := []
deriving DecidableEq

/-- A connection. -/
structure Connection where
  label : String
  /-- The open transaction. Without one, rows are committed at once. -/
  transaction : Option Transaction := none
deriving DecidableEq

/-- The topmost savepoint of that name: its copy, and the savepoints below it. -/
def topmost (name : String) :
    List (String × List String) → Option (List String × List (String × List String))
  | [] => none
  | (other, copy) :: below => if other = name then some (copy, below) else topmost name below

/-- The error for a savepoint that is not on the stack. -/
def missing (name : String) : DatabaseError :=
  .queryFailed ("savepoint \"" ++ name ++ "\" does not exist")

/-- The error for a savepoint outside of a transaction. -/
def outside : DatabaseError := .queryFailed "SAVEPOINT can only be used in transaction blocks"

namespace Connection

/-- The savepoints of the open transaction, topmost first. -/
def savepoints (c : Connection) : List (String × List String) :=
  (c.transaction.map (·.savepoints)).getD []

/-- The rows that the connection sees: the committed ones, and then its own. -/
def visible (c : Connection) (s : Store) : List String :=
  s.rows ++ (c.transaction.map (·.own)).getD []

/-- What a statement does that is not made to fail. -/
def obey (c : Connection) (s : Store) : Command → Except DatabaseError (Connection × Store)
  | .insert row =>
    match c.transaction with
    | some t => .ok ({ c with transaction := some { t with own := t.own ++ [row] } }, s)
    | none => .ok (c, { s with rows := s.rows ++ [row] })
  | .savepoint name =>
    match c.transaction with
    | some t =>
      .ok ({ c with transaction := some { t with savepoints := (name, t.own) :: t.savepoints } }, s)
    | none => .error outside
  | .rollbackTo name =>
    match topmost name c.savepoints with
    | some (copy, below) =>
      .ok ({ c with transaction := some { own := copy, savepoints := (name, copy) :: below } }, s)
    | none => .error (missing name)
  | .release name =>
    match topmost name c.savepoints with
    | some (_, below) =>
      .ok ({ c with transaction := c.transaction.map ({ · with savepoints := below }) }, s)
    | none => .error (missing name)
  | .other => .ok (c, s)

end Connection

/-- Runs a statement on a connection. One that fails changes nothing but the journal. -/
def execute (text : String) : Work (Connection × Store) DatabaseError Unit := fun (c, s) =>
  match Store.record c.label text s with
  | (.done _, s) =>
    match c.obey s (.ofText text) with
    | .ok (c, s) => (.done (), c, s)
    | .error e => (.failed e, c, s)
  | (o, s) => (o, c, s)

/-- A statement that fails changes nothing but the journal. -/
theorem execute_of_failed {text : String} {c : Connection} {s : Store} {e : DatabaseError}
    (h : (execute text (c, s)).1 = .failed e) :
    (execute text (c, s)).2 = (c, s.noted c.label text) := by
  simp only [execute, Store.record_eq] at h ⊢
  cases hfailing : s.isFailing ⟨c.label, text⟩ with
  | true => rfl
  | false =>
    simp only [hfailing, Bool.false_eq_true, if_false] at h ⊢
    cases hobey : c.obey (s.noted c.label text) (.ofText text) with
    | error e' => rfl
    | ok r =>
      rw [hobey] at h
      cases h

/-- The database of snapshots. -/
def engine : Engine Connection where
  connect label := { label }
  begin label := do
    Store.record label "BEGIN"
    return { label, transaction := some {} }
  isOpen c := c.transaction.isSome
  visible := Connection.visible
  execute := execute
  commit c := do
    Store.record c.label "COMMIT"
    Work.modify fun s => { s with rows := c.visible s }
  rollback c := Store.record c.label "ROLLBACK"

end Snapshot

/-! ## What a connection of the store shows -/

/-- The rows that marks leave of the given ones, under the names of the marks. -/
def Mark.copies (own : List String) (marks : List Mark) : List (String × List String) :=
  marks.map fun m => (m.name, own.take m.length)

namespace Session

variable {c c' : Session} {s s' : Store} {name : String} {m : Mark} {below : List Mark}

/-- The connection with copies in place of marks. -/
def snapshot (c : Session) : Snapshot.Connection where
  label := c.label
  transaction := c.pending.map fun own => ⟨own, Mark.copies own c.marks⟩

/-- The marks leave ever fewer rows towards the bottom of the stack, and none leaves more rows than
    there are. Without a transaction there are no marks. -/
structure Marked (c : Session) : Prop where
  descending : c.marks.Pairwise fun m m' => m'.length ≤ m.length
  length_le : ∀ m ∈ c.marks, m.length ≤ (c.pending.getD []).length
  inTransaction : c.pending = none → c.marks = []

/-- A connection with marks has a transaction. -/
theorem Marked.exists_pending (h : c.Marked) (hm : m ∈ c.marks) : ∃ own, c.pending = some own := by
  cases hpending : c.pending with
  | none =>
    rw [h.inTransaction hpending] at hm
    cases hm
  | some own => exact ⟨own, rfl⟩

theorem visible_snapshot (c : Session) (s : Store) : c.snapshot.visible s = c.visible s := by
  simp only [Snapshot.Connection.visible, snapshot, visible]
  cases c.pending <;> rfl

theorem savepoints_snapshot (h : c.Marked) :
    c.snapshot.savepoints = Mark.copies (c.pending.getD []) c.marks := by
  cases hpending : c.pending with
  | none =>
    simp only [Snapshot.Connection.savepoints, snapshot, hpending, h.inTransaction hpending]
    rfl
  | some own =>
    simp only [Snapshot.Connection.savepoints, snapshot, hpending]
    rfl

/-- The copies are as long as the marks say. -/
theorem marks_eq (h : c.Marked) :
    c.marks = c.snapshot.savepoints.map fun sp => ⟨sp.1, sp.2.length⟩ := by
  have hsame : ∀ m ∈ c.marks, Mark.mk m.name ((c.pending.getD []).take m.length).length = m := by
    intro m hm
    rw [List.length_take, Nat.min_eq_left (h.length_le m hm)]
  rw [savepoints_snapshot h, Mark.copies, List.map_map]
  exact (List.map_id _).symm.trans (List.map_congr_left fun m hm => (hsame m hm).symm)

end Session

/-! ## Copies that stay as they were -/

namespace Mark

variable {own : List String} {marks : List Mark}

/-- No mark leaves a row that was written after it. -/
theorem copies_append (h : ∀ m ∈ marks, m.length ≤ own.length) (more : List String) :
    copies (own ++ more) marks = copies own marks := by
  refine List.map_congr_left fun m hm => ?_
  rw [List.take_append_of_le_length (h m hm)]

/-- Going back leaves the rows below every mark that leaves no more of them. -/
theorem copies_take {n : Nat} (h : ∀ m ∈ marks, m.length ≤ n) (own : List String) :
    copies (own.take n) marks = copies own marks := by
  refine List.map_congr_left fun m hm => ?_
  rw [List.take_take, Nat.min_eq_left (h m hm)]

/-- The topmost copy under a name belongs to the topmost mark of that name. -/
theorem topmost_copies (name : String) (own : List String) (marks : List Mark) :
    Snapshot.topmost name (copies own marks) =
      match marks.dropWhile (·.name ≠ name) with
      | m :: below => some (own.take m.length, copies own below)
      | [] => none := by
  induction marks with
  | nil => rfl
  | cons m marks ih =>
    by_cases hname : m.name = name
    · simp [copies, Snapshot.topmost, hname]
    · simpa [copies, Snapshot.topmost, hname] using ih

end Mark

/-! ## Statements -/

namespace Session

variable {c c' : Session} {s s' : Store} {name : String} {m : Mark} {below : List Mark}

/-- The marks from a name on are the end of the stack, and begin with a mark of that name. -/
theorem marksFrom_spec (h : c.marksFrom name = m :: below) :
    m.name = name ∧ m :: below <:+ c.marks := by
  have hsuffix : c.marksFrom name <:+ c.marks := List.dropWhile_suffix _
  have hhead := List.head?_dropWhile_not (fun m : Mark => decide (m.name ≠ name)) c.marks
  rw [← marksFrom, h] at hhead
  exact ⟨by simpa using hhead, h ▸ hsuffix⟩

theorem topmost_snapshot (h : c.Marked) (name : String) :
    Snapshot.topmost name c.snapshot.savepoints =
      match c.marksFrom name with
      | m :: below =>
        some ((c.pending.getD []).take m.length, Mark.copies (c.pending.getD []) below)
      | [] => none := by
  rw [savepoints_snapshot h, Mark.topmost_copies]
  rfl

/-- What lies on a mark's stack below it leaves no more rows than the mark. -/
theorem Marked.length_le_of_below (h : c.Marked) (hfrom : c.marksFrom name = m :: below) :
    ∀ m' ∈ m :: below, m'.length ≤ m.length := by
  have hdescending := h.descending.sublist (marksFrom_spec hfrom).2.sublist
  intro m' hm'
  rcases List.mem_cons.mp hm' with rfl | hm'
  · exact Nat.le_refl _
  · exact (List.pairwise_cons.mp hdescending).1 m' hm'

theorem Marked.insert {own : List String} (h : c.Marked) (hpending : c.pending = some own)
    (row : String) : { c with pending := some (own ++ [row]) : Session }.Marked where
  descending := h.descending
  length_le m hm := by
    have hlength := h.length_le m hm
    simp only [hpending, Option.getD_some, List.length_append] at hlength ⊢
    omega
  inTransaction := nofun

theorem Marked.savepoint {own : List String} (h : c.Marked) (hpending : c.pending = some own)
    (name : String) : { c with marks := ⟨name, own.length⟩ :: c.marks : Session }.Marked where
  descending := by
    have hlength : ∀ m ∈ c.marks, m.length ≤ own.length := by simpa [hpending] using h.length_le
    exact List.pairwise_cons.mpr ⟨hlength, h.descending⟩
  length_le m hm := by
    rcases List.mem_cons.mp hm with rfl | hm
    · simp [hpending]
    · exact h.length_le m hm
  inTransaction hnone := by simp [hpending] at hnone

theorem Marked.rollbackTo (h : c.Marked) (hfrom : c.marksFrom name = m :: below) :
    { c with
      pending := c.pending.map (·.take m.length)
      marks := m :: below : Session }.Marked := by
  have hsuffix := (marksFrom_spec hfrom).2
  obtain ⟨own, hown⟩ := h.exists_pending (hsuffix.subset List.mem_cons_self)
  have hlength : m.length ≤ own.length := by
    simpa [hown] using h.length_le m (hsuffix.subset List.mem_cons_self)
  refine ⟨h.descending.sublist hsuffix.sublist, ?_, fun hnone => by simp [hown] at hnone⟩
  intro m' hm'
  have hle := h.length_le_of_below hfrom m' hm'
  simp only [hown, Option.map_some, Option.getD_some, List.length_take]
  omega

theorem Marked.release (h : c.Marked) (hfrom : c.marksFrom name = m :: below) :
    { c with marks := below : Session }.Marked := by
  have hsuffix : below <:+ c.marks := (List.suffix_cons m below).trans (marksFrom_spec hfrom).2
  obtain ⟨own, hown⟩ := h.exists_pending ((marksFrom_spec hfrom).2.subset List.mem_cons_self)
  exact ⟨h.descending.sublist hsuffix.sublist, fun m hm => h.length_le m (hsuffix.subset hm),
    fun hnone => by simp [hown] at hnone⟩

/-- What a statement does to the connection, it does to what the connection shows, and the marks
    stay in order. -/
theorem apply_snapshot (h : c.Marked) (s : Store) (command : Command) :
    c.snapshot.obey s command = (c.apply s command).map (fun r => (r.1.snapshot, r.2)) ∧
      ∀ r, c.apply s command = .ok r → r.1.Marked := by
  cases command with
  | insert row =>
    simp only [apply, Snapshot.Connection.obey]
    cases hpending : c.pending with
    | none =>
      refine ⟨by simp only [snapshot, hpending, Except.map, Option.map_none], ?_⟩
      rintro _ ⟨⟩
      exact h
    | some own =>
      have hlength : ∀ m ∈ c.marks, m.length ≤ own.length := by simpa [hpending] using h.length_le
      refine ⟨?_, ?_⟩
      · simp only [snapshot, hpending, Except.map, Option.map_some, Mark.copies_append hlength]
      · rintro _ ⟨⟩
        exact h.insert hpending row
  | savepoint name =>
    simp only [apply, Snapshot.Connection.obey]
    cases hpending : c.pending with
    | none =>
      refine ⟨?_, ?_⟩
      · simp only [snapshot, hpending, Except.map, Option.map_none]
        rfl
      · rintro _ ⟨⟩
    | some own =>
      -- The new mark leaves all the rows that there are.
      have hcopies : Mark.copies own (⟨name, own.length⟩ :: c.marks) =
          (name, own) :: Mark.copies own c.marks := by
        simp only [Mark.copies, List.map_cons, List.take_length]
      refine ⟨?_, ?_⟩
      · simp only [snapshot, hpending, Except.map, Option.map_some, hcopies]
      · rintro _ ⟨⟩
        exact hpending ▸ h.savepoint hpending name
  | rollbackTo name =>
    simp only [apply, Snapshot.Connection.obey, topmost_snapshot h]
    cases hfrom : c.marksFrom name with
    | nil =>
      refine ⟨rfl, ?_⟩
      rintro _ ⟨⟩
    | cons m below =>
      obtain ⟨hname, hsuffix⟩ := marksFrom_spec hfrom
      obtain ⟨own, hown⟩ := h.exists_pending (hsuffix.subset List.mem_cons_self)
      -- The marks that are left leave the same of the rows that are left.
      have hcopies : Mark.copies (own.take m.length) (m :: below) =
          (name, own.take m.length) :: Mark.copies own below := by
        rw [Mark.copies_take (h.length_le_of_below hfrom), ← hname]
        rfl
      refine ⟨?_, ?_⟩
      · simp only [snapshot, hown, Except.map, Option.map_some, Option.getD_some, hcopies]
      · rintro _ ⟨⟩
        exact h.rollbackTo hfrom
  | release name =>
    simp only [apply, Snapshot.Connection.obey, topmost_snapshot h]
    cases hfrom : c.marksFrom name with
    | nil =>
      refine ⟨rfl, ?_⟩
      rintro _ ⟨⟩
    | cons m below =>
      obtain ⟨own, hown⟩ := h.exists_pending ((marksFrom_spec hfrom).2.subset List.mem_cons_self)
      refine ⟨?_, ?_⟩
      · simp only [snapshot, hown, Except.map, Option.map_some, Option.getD_some]
      · rintro _ ⟨⟩
        exact h.release hfrom
  | other =>
    refine ⟨rfl, ?_⟩
    rintro _ ⟨⟩
    exact h

/-- The same for a statement as it is sent, which may be one that is made to fail. -/
theorem execute_snapshot (h : c.Marked) (text : String) (s : Store) :
    Snapshot.execute text (c.snapshot, s) =
        ((Store.execute text (c, s)).1, (Store.execute text (c, s)).2.1.snapshot,
          (Store.execute text (c, s)).2.2) ∧
      (Store.execute text (c, s)).2.1.Marked := by
  have hlabel : c.snapshot.label = c.label := rfl
  simp only [Snapshot.execute, Store.execute, Store.record_eq, hlabel]
  -- Both record the statement, so it fails for both or for neither.
  cases hfailing : s.isFailing ⟨c.label, text⟩ with
  | true => exact ⟨rfl, h⟩
  | false =>
    -- What remains is the statement itself, on marks and on copies.
    obtain ⟨hobey, hmarked⟩ := apply_snapshot h (s.noted c.label text) (.ofText text)
    cases happly : c.apply (s.noted c.label text) (.ofText text) with
    | error e =>
      rw [happly] at hobey
      simp only [Bool.false_eq_true, if_false, hobey, happly, Except.map]
      exact ⟨trivial, h⟩
    | ok r =>
      rw [happly] at hobey
      simp only [Bool.false_eq_true, if_false, hobey, happly, Except.map]
      exact ⟨trivial, hmarked r happly⟩

end Session

/-! ## Runs -/

/-- The second engine does to what the connections of the first one show what the first one does to
    them, as long as they are as `I` says. -/
structure Engine.Simulates {γ γ' : Type} (e : Engine γ) (e' : Engine γ') (view : γ → γ')
    (I : γ → Prop) : Prop where
  connect (label : String) : e'.connect label = view (e.connect label) ∧ I (e.connect label)
  begin (label : String) (s : Store) :
    e'.begin label s = ((e.begin label s).1.map view, (e.begin label s).2) ∧
      ∀ c, (e.begin label s).1 = .done c → I c
  isOpen {c : γ} (h : I c) : e'.isOpen (view c) = e.isOpen c
  visible {c : γ} (h : I c) (s : Store) : e'.visible (view c) s = e.visible c s
  execute {c : γ} (h : I c) (text : String) (s : Store) :
    e'.execute text (view c, s) =
        ((e.execute text (c, s)).1, view (e.execute text (c, s)).2.1,
          (e.execute text (c, s)).2.2) ∧
      I (e.execute text (c, s)).2.1
  commit {c : γ} (h : I c) (s : Store) : e'.commit (view c) s = e.commit c s
  rollback {c : γ} (h : I c) (s : Store) : e'.rollback (view c) s = e.rollback c s

namespace Clients

variable {γ γ' : Type} {e : Engine γ} {e' : Engine γ'} {view : γ → γ'} {I : γ → Prop}
  {d : Clients γ}

/-- The same store, with what its connections show. -/
def map (view : γ → γ') (d : Clients γ) : Clients γ' where
  store := d.store
  connections := d.connections.map (·.map view)

/-- All connections are as `I` says. -/
def All (I : γ → Prop) (d : Clients γ) : Prop := ∀ c, some c ∈ d.connections → I c

theorem connection?_map (view : γ → γ') (d : Clients γ) (n : Nat) :
    (d.map view).connection? n = (d.connection? n).map view := by
  simp only [connection?, map, List.getElem?_map]
  cases d.connections[n]? with
  | none => rfl
  | some c => cases c <;> rfl

theorem All.of_connection? {c : γ} {n : Nat} (h : d.All I) (hc : d.connection? n = some c) :
    I c := by
  have hget : d.connections[n]? = some (some c) := by
    simpa [connection?, Option.join_eq_some_iff] using hc
  exact h c (List.mem_of_getElem? hget)

theorem All.set {n : Nat} {o : Option γ} {s : Store} (h : d.All I) (ho : ∀ c, o = some c → I c) :
    Clients.All I { store := s, connections := d.connections.set n o } := by
  intro c hc
  rcases List.mem_or_eq_of_mem_set hc with hmem | heq
  · exact h c hmem
  · exact ho c heq.symm

theorem All.add {c : γ} {s : Store} (h : d.All I) (hc : I c) :
    Clients.All I { d.add c with store := s } := by
  intro c' hc'
  rcases List.mem_append.mp hc' with hmem | hlast
  · exact h c' hmem
  · obtain rfl : c' = c := by simpa using hlast
    exact hc

theorem finish_of_simulates (h : e.Simulates e' view I) (hd : d.All I) (n : Nat)
    {ending : γ → Work Store DatabaseError Unit} {ending' : γ' → Work Store DatabaseError Unit}
    (hending : ∀ c, I c → ∀ s, ending' (view c) s = ending c s) :
    (d.map view).finish e' ending' n =
        ((d.finish e ending n).1, (d.finish e ending n).2.map view) ∧
      (d.finish e ending n).2.All I := by
  simp only [finish, connection?_map]
  cases hc : d.connection? n with
  | none => exact ⟨rfl, hd⟩
  | some c =>
    have hI := hd.of_connection? hc
    have hstore : (d.map view).store = d.store := rfl
    simp only [Option.map_some, h.isOpen hI, hending c hI, hstore]
    by_cases hopen : e.isOpen c
    · simp only [hopen, if_true]
      refine ⟨?_, hd.set nofun⟩
      simp only [map, remove, List.map_set, Option.map_none]
    · simp only [hopen]
      exact ⟨rfl, hd⟩

/-- One step of the clients, of both engines. -/
theorem step_of_simulates (h : e.Simulates e' view I) (hd : d.All I) (step : ClientStep) :
    (d.map view).step e' step = ((d.step e step).1, (d.step e step).2.map view) ∧
      (d.step e step).2.All I := by
  have hstore : (d.map view).store = d.store := rfl
  have hlength : (d.map view).connections.length = d.connections.length := List.length_map ..
  -- Adding a client commutes with the view, whatever became of the store.
  have hadd (c : γ) (s : Store) :
      { (d.map view).add (view c) with store := s } =
        Clients.map view { d.add c with store := s } := by
    simp only [add, map, List.map_append, List.map_cons, List.map_nil, Option.map_some]
  cases step with
  | connect label =>
    -- A step that makes a session needs the invariant for the new one.
    obtain ⟨hconnect, hI⟩ := h.connect label
    refine ⟨?_, hd.add hI⟩
    simp only [Clients.step, hlength, hconnect]
    exact congrArg (Prod.mk _) (hadd _ d.store)
  | begin label =>
    obtain ⟨hbegin, hI⟩ := h.begin label d.store
    simp only [Clients.step, hstore, hbegin, hlength]
    cases hbegun : e.begin label d.store with
    | mk o s =>
      rw [hbegun] at hI
      cases o with
      | done c => exact ⟨congrArg (Prod.mk _) (hadd c s), hd.add (hI c rfl)⟩
      | failed e => exact ⟨rfl, hd⟩
      | panicked p => exact ⟨rfl, hd⟩
      | suspended => exact ⟨rfl, hd⟩
  | execute n text =>
    -- A session that is used keeps the invariant.
    simp only [Clients.step, connection?_map, hstore]
    cases hc : d.connection? n with
    | none => exact ⟨rfl, hd⟩
    | some c =>
      obtain ⟨hexecute, hI⟩ := h.execute (hd.of_connection? hc) text d.store
      simp only [Option.map_some, hexecute]
      refine ⟨?_, hd.set fun c' hc' => Option.some.inj hc' ▸ hI⟩
      simp only [map, List.map_set, Option.map_some]
  | look n =>
    simp only [Clients.step, connection?_map, hstore]
    cases hc : d.connection? n with
    | none => exact ⟨rfl, hd⟩
    | some c =>
      simp only [Option.map_some, h.visible (hd.of_connection? hc)]
      exact ⟨trivial, hd⟩
  | commit n => exact finish_of_simulates h hd n fun c hI => h.commit hI
  | rollback n => exact finish_of_simulates h hd n fun c hI => h.rollback hI
  | drop n =>
    -- Removing a session asks for nothing.
    refine ⟨?_, hd.set nofun⟩
    simp only [Clients.step, remove, map, List.map_set, Option.map_none]
  -- The other steps are about the store alone.
  | ping label => exact ⟨rfl, hd⟩
  | close label => exact ⟨rfl, hd⟩
  | fail statement => exact ⟨rfl, hd⟩
  | heal => exact ⟨rfl, hd⟩

/-- What holds of single steps holds of every run. -/
theorem play_of_simulates (h : e.Simulates e' view I) (hd : d.All I) (steps : List ClientStep) :
    (d.map view).play e' steps = ((d.play e steps).1, (d.play e steps).2.map view) ∧
      (d.play e steps).2.All I := by
  induction steps generalizing d with
  | nil => exact ⟨rfl, hd⟩
  | cons step steps ih =>
    obtain ⟨hstep, hd'⟩ := step_of_simulates h hd step
    obtain ⟨hplay, hall⟩ := ih hd'
    simp only [Clients.play, hstep, hplay]
    exact ⟨trivial, hall⟩

end Clients

namespace Store

theorem engine_simulates : engine.Simulates Snapshot.engine Session.snapshot Session.Marked where
  connect label := ⟨rfl, List.Pairwise.nil, nofun, fun _ => rfl⟩
  begin label s := by
    simp only [engine, Snapshot.engine, Store.begin]
    cases hfailing : s.isFailing ⟨label, "BEGIN"⟩ with
    | true =>
      -- The statement that opens the session is the same for both, and both start without marks.
      have hrecord : record label "BEGIN" s = (.failed (injected "BEGIN"), s.noted label "BEGIN") :=
        by rw [record_eq, if_pos hfailing]
      rw [Work.bind_of_failed hrecord, Work.bind_of_failed hrecord]
      exact ⟨rfl, nofun⟩
    | false =>
      have hrecord : record label "BEGIN" s = (.done (), s.noted label "BEGIN") := by
        rw [record_eq, if_neg (by simp [hfailing])]
      rw [Work.bind_of_done hrecord, Work.bind_of_done hrecord]
      refine ⟨rfl, ?_⟩
      rintro _ ⟨⟩
      exact ⟨List.Pairwise.nil, nofun, fun _ => rfl⟩
  isOpen {c} _ := by
    simp only [engine, Snapshot.engine, Session.snapshot, Session.inTransaction, Option.isSome_map]
  visible _ s := Session.visible_snapshot _ s
  execute h text s := Session.execute_snapshot h text s
  commit {c} _ s := by
    -- Committing publishes what the session sees, which is the committed rows and its own.
    have hpublish (s : Store) :
        { s with rows := c.snapshot.visible s } =
          { s with rows := s.rows ++ c.pending.getD [] } := by
      rw [Session.visible_snapshot]
      rfl
    simp only [engine, Snapshot.engine, Store.commit, hpublish]
    rfl
  rollback _ s := rfl

/-- However clients of the store and of its pools interleave their statements, whatever texts they
    send, and whatever is made to fail, they learn what a database of snapshots would tell them.
    They are left with the same committed rows, journal and failures, and every connection with the
    same rows in sight and the same savepoints, of which the store has kept the names and how many
    rows their copies have. Texts are read by their first words, and a statement that fails changes
    nothing but the journal. What both do first with any statement is to note it, and to refuse it
    exactly if it was made to fail, everywhere or on its pool. -/
theorem play_snapshot (s : Store) (steps : List ClientStep) :
    let (answers, d) := Clients.play engine { store := s } steps
    let (answers', d') := Clients.play Snapshot.engine { store := s } steps
    (answers = answers' ∧ d.store = d'.store ∧
        d'.connections = d.connections.map (·.map Session.snapshot) ∧
        ∀ c, some c ∈ d.connections →
          c.visible d.store = c.snapshot.visible d'.store ∧
            c.marks = c.snapshot.savepoints.map fun (name, copy) => ⟨name, copy.length⟩) ∧
      (∀ text command, Command.ofText text = command ↔ Command.Says text command) ∧
      (∀ text c s e, (Snapshot.execute text (c, s)).1 = .failed e →
        (Snapshot.execute text (c, s)).2 = (c, s.noted c.label text)) ∧
      ∀ label text (s : Store), record label text s =
        (if text ∈ s.failures ∨ label ++ ": " ++ text ∈ s.failures then
          .failed (.queryFailed ("injected failure: " ++ text)) else .done (),
          s.noted label text) := by
  have hnone : Clients.All Session.Marked { store := s } := nofun
  obtain ⟨hplay, hall⟩ := Clients.play_of_simulates engine_simulates hnone steps
  have hstart : Clients.map Session.snapshot { store := s } = { store := s } := rfl
  rw [hstart] at hplay
  rw [hplay]
  refine ⟨⟨rfl, rfl, rfl, fun c hc => ⟨?_, ?_⟩⟩, fun _ _ => Command.ofText_eq_iff,
    fun _ _ _ _ => Snapshot.execute_of_failed, fun label text s => ?_⟩
  · exact (Session.visible_snapshot c _).symm
  · exact Session.marks_eq (hall c hc)
  · simp only [record_eq, isFailing_iff]
    rfl

/-- A name that is used twice, and rows that are gone back behind: the second `sp` hides the first
    one until it is released. -/
example :
    let steps : List ClientStep :=
      [.begin "write", .execute 0 "INSERT a", .execute 0 "SAVEPOINT sp", .execute 0 "INSERT b",
        .execute 0 "SAVEPOINT sp", .execute 0 "INSERT c", .execute 0 "ROLLBACK TO SAVEPOINT sp",
        .look 0, .execute 0 "RELEASE SAVEPOINT sp", .execute 0 "ROLLBACK TO SAVEPOINT sp", .look 0,
        .connect "read", .look 1, .commit 0, .look 1]
    (Clients.play engine { store := {} } steps).1.filterMap (fun
      | .seen rows => some rows
      | _ => none) = [["a", "b"], ["a"], [], ["a"]] := by
  rfl

end Store

end SharedPages
