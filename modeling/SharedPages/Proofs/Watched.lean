import SharedPages.Connection
import SharedPages.Proofs.OpenTransaction

/-!
# A store under watch

A `Watched` store is a recording store that takes down what reaches it: from
which session a statement came, what that session was like when the statement
arrived, what became of it, and which rows it committed (`Event`). Sessions are
numbered in the order in which they were begun. It is a backend like any other,
so units of work run on it as they run on the store itself.

A watched store also has faults: statements that fail although nothing was
injected for them, by their place in the run. They stand for statements that
are made to fail, or allowed to succeed again, at any moment, also between two
statements of one operation.

## Key results

- `Watched.observe_eq`: a statement adds one event, and it fails or is answered
- `Watched.Gains`: the events account for the journal and for the committed rows
-/

namespace SharedPages

@[simp] theorem Store.rows_fail (s : Store) (text : String) : (s.fail text).rows = s.rows := rfl

@[simp] theorem Store.journal_fail (s : Store) (text : String) :
    (s.fail text).journal = s.journal := rfl

/-- Why work was refused, if it was. -/
def Outcome.error? {ε α : Type} : Outcome ε α → Option ε
  | failed e => some e
  | _ => none

/-! ## Events -/

/-- What is asked of a session. -/
inductive Request where
  | begin
  | statement (text : String)
  | commit
  | rollback
deriving DecidableEq

namespace Request

/-- The statement that asks for it. -/
def text : Request → String
  | begin => "BEGIN"
  | statement text => text
  | commit => "COMMIT"
  | rollback => "ROLLBACK"

end Request

/-- What is taken down of one statement. -/
structure Event where
  /-- The number of the session, or nothing for a statement that stands alone. -/
  number : Option Nat
  /-- The session as the statement found it. -/
  session : Session
  request : Request
  /-- Why the statement was refused, if it was. -/
  error : Option DatabaseError
  /-- The rows that the statement committed. -/
  published : List String
deriving DecidableEq

/-- The event in the journal. -/
def Event.entry (e : Event) : JournalEntry := ⟨e.session.label, e.request.text⟩

/-- A session with its number. -/
structure Numbered where
  number : Nat
  session : Session
deriving DecidableEq

/-- A store under watch. A statement fails if it is made to fail, or if there is a fault at its
    place in the run. -/
structure Watched (faults : Nat → Bool) where
  store : Store
  /-- Sessions begun so far, or at least tried to. -/
  begun : Nat := 0
  /-- What was taken down, newest first. -/
  events : List Event := []

/-! ## Watching a store -/

namespace Watched

variable {faults : Nat → Bool} {ε α : Type}

/-- No statement fails that is not made to. -/
def faultless (_ : Nat) : Bool := false

/-- Work on the store behind a session, which stays as it is. -/
def behind (w : Work Store ε α) : Work (Session × Store) ε α := fun (c, s) =>
  let (o, s) := w s
  (o, c, s)

/-- Runs work that sends one statement, and takes it down. -/
def observe (number : Option Nat) (request : Request)
    (w : Work (Session × Store) DatabaseError α) :
    Work (Session × Watched faults) DatabaseError α := fun (c, b) =>
  let fault := faults b.events.length
  -- A fault is a failure that was injected for this one statement.
  let (o, c', s) := w (c, if fault then b.store.fail request.text else b.store)
  let s := if fault then { s with failures := b.store.failures } else s
  (o, c', { b with
    store := s
    events := ⟨number, c, request, o.error?, s.rows.drop b.store.rows.length⟩ :: b.events })

/-- Watches the last statement of a session, which is thrown away afterwards. -/
def observeLast (number : Option Nat) (c : Session) (request : Request)
    (w : Work (Session × Store) DatabaseError α) : Work (Watched faults) DatabaseError α := fun b =>
  let (o, _, b) := observe number request w (c, b)
  (o, b)

/-- Watches a statement that stands alone, on a connection of its own. -/
def observeAlone (label text : String) :
    Work (Session × Store) DatabaseError α → Work (Watched faults) DatabaseError α :=
  observeLast none (Store.connection label) (.statement text)

instance : Backend (Watched faults) Numbered where
  acquire _ := Work.done ()
  executeAlone role text := observeAlone role.name text (Store.execute text)
  begin role := fun b =>
    let (o, b') := observeLast (some b.begun) (Store.connection role.name) .begin
      (behind (Store.begin role.name)) b
    (o.map (⟨b.begun, ·⟩), { b' with begun := b.begun + 1 })
  execute text := fun (c, b) =>
    let (o, c', b) := observe (some c.number) (.statement text) (Store.execute text) (c.session, b)
    (o, ⟨c.number, c'⟩, b)
  commit c := observeLast (some c.number) c.session .commit (behind (Store.commit c.session))
  rollback c := observeLast (some c.number) c.session .rollback (behind (Store.rollback c.session))
  ping role := observeAlone role.name "SELECT 1" (behind (Store.ping role.name))
  close role := observeAlone role.name "CLOSE" (behind (Store.close role.name))

/-! ## What the events account for -/

/-- From the first store to the second, the events `new` were added, newest first. They are what was
    added to the journal, and what they published was added to the committed rows. -/
structure Gains (b : Watched faults) (new : List Event) (b' : Watched faults) : Prop where
  events : b'.events = new ++ b.events
  journal : b'.store.journal = new.map Event.entry ++ b.store.journal
  rows : b'.store.rows = b.store.rows ++ new.reverse.flatMap Event.published
  begun : b.begun ≤ b'.begun

variable {b b₁ b₂ : Watched faults} {new more : List Event}

theorem Gains.refl (b : Watched faults) : b.Gains [] b :=
  ⟨rfl, rfl, (List.append_nil _).symm, Nat.le_refl _⟩

/-- Steps one after another. -/
theorem Gains.trans (h₁ : b.Gains new b₁) (h₂ : b₁.Gains more b₂) : b.Gains (more ++ new) b₂ where
  events := by rw [h₂.events, h₁.events, List.append_assoc]
  journal := by rw [h₂.journal, h₁.journal, List.map_append, List.append_assoc]
  rows := by
    rw [h₂.rows, h₁.rows, List.reverse_append, List.flatMap_append, List.append_assoc]
  begun := Nat.le_trans h₁.begun h₂.begun

/-- The store with one more event. -/
def noted (b : Watched faults) (e : Event) : Watched faults :=
  { b with
    store := { b.store with
      rows := b.store.rows ++ e.published
      journal := e.entry :: b.store.journal }
    events := e :: b.events }

theorem gains_noted (b : Watched faults) (e : Event) : b.Gains [e] (b.noted e) :=
  ⟨rfl, rfl, by simp [noted], Nat.le_refl _⟩

/-! ## Single statements -/

/-- The statement fails when it arrives next. -/
def isFailing (b : Watched faults) (e : JournalEntry) : Bool :=
  faults b.events.length || b.store.isFailing e

/-- The work sends one statement. Unless that fails, session `c` answers `o`, becomes `c'`, and rows
    are committed. -/
def Answers (c : Session) (text : String) (w : Work (Session × Store) DatabaseError α)
    (o : Outcome DatabaseError α) (c' : Session) (rows : List String) : Prop :=
  ∀ s, w (c, s) =
    if s.isFailing ⟨c.label, text⟩ then
      (.failed (Store.injected text), c, s.noted c.label text)
    else (o, c', { s.noted c.label text with rows := s.rows ++ rows })

/-- What is taken down of a statement that fails. -/
def refused (number : Option Nat) (c : Session) (request : Request) : Event :=
  ⟨number, c, request, some (Store.injected request.text), []⟩

/-- What is taken down of a statement that a session answers. -/
def answered (number : Option Nat) (c : Session) (request : Request)
    (o : Outcome DatabaseError α) (rows : List String) : Event :=
  ⟨number, c, request, o.error?, rows⟩

/-- A statement that is watched adds one event, and it fails or is answered. -/
theorem observe_eq {c c' : Session} {request : Request}
    {w : Work (Session × Store) DatabaseError α} {o : Outcome DatabaseError α}
    {rows : List String} (h : Answers c request.text w o c' rows) (number : Option Nat)
    (b : Watched faults) :
    observe number request w (c, b) =
      if b.isFailing ⟨c.label, request.text⟩ then
        (.failed (Store.injected request.text), c, b.noted (refused number c request))
      else (o, c', b.noted (answered number c request o rows)) := by
  by_cases hfault : faults b.events.length = true
  · -- For the time of this statement it is made to fail.
    have hfailing : (b.store.fail request.text).isFailing ⟨c.label, request.text⟩ = true := by
      simp [Store.isFailing, Store.fail]
    have hw := h (b.store.fail request.text)
    rw [if_pos hfailing] at hw
    simp [observe, isFailing, hfault, hw, noted, refused, Store.noted, Event.entry, Outcome.error?]
  · -- Otherwise only the failures that were injected before count.
    have hw := h b.store
    by_cases hfailing : b.store.isFailing ⟨c.label, request.text⟩ = true
    · rw [if_pos hfailing] at hw
      simp [observe, isFailing, hfault, hfailing, hw, noted, refused, Store.noted, Event.entry,
        Outcome.error?]
    · rw [if_neg hfailing] at hw
      simp [observe, isFailing, hfault, hfailing, hw, noted, answered, Store.noted, Event.entry]

/-- The same of the last statement of a session. -/
theorem observeLast_eq {c c' : Session} {request : Request}
    {w : Work (Session × Store) DatabaseError α} {o : Outcome DatabaseError α}
    {rows : List String} (h : Answers c request.text w o c' rows) (number : Option Nat)
    (b : Watched faults) :
    observeLast number c request w b =
      if b.isFailing ⟨c.label, request.text⟩ then
        (.failed (Store.injected request.text), b.noted (refused number c request))
      else (o, b.noted (answered number c request o rows)) := by
  simp only [observeLast, observe_eq h number b]
  split <;> rfl

/-! ## What sessions answer -/

/-- What a store records, and then answers unless that fails. -/
private theorem record_bind {label text : String} {next : Unit → Work Store DatabaseError α}
    {a : α} {rows : List String} {s : Store}
    (h : next () (s.noted label text) =
      (.done a, { s.noted label text with rows := s.rows ++ rows })) :
    (Store.record label text >>= next) s =
      if s.isFailing ⟨label, text⟩ then (.failed (Store.injected text), s.noted label text)
      else (.done a, { s.noted label text with rows := s.rows ++ rows }) := by
  have hrecord := Store.record_eq label text s
  by_cases hfailing : s.isFailing ⟨label, text⟩ = true
  · rw [if_pos hfailing] at hrecord ⊢
    exact Work.bind_of_failed hrecord _
  · rw [if_neg hfailing] at hrecord ⊢
    exact (Work.bind_of_done hrecord _).trans h

/-- Work on the store sends one statement if it does so from behind a session. -/
private theorem answers_behind {c : Session} {text : String} {w : Work Store DatabaseError α}
    {a : α} {rows : List String}
    (h : ∀ s, w s =
      if s.isFailing ⟨c.label, text⟩ then (.failed (Store.injected text), s.noted c.label text)
      else (.done a, { s.noted c.label text with rows := s.rows ++ rows })) :
    Answers c text (behind w) (.done a) c rows := by
  intro s
  simp only [behind, h]
  split <;> rfl

theorem answers_begin (label : String) :
    Answers (Store.connection label) Request.begin.text (behind (Store.begin label))
      (.done { label, pending := some [] }) (Store.connection label) [] :=
  answers_behind fun _ => record_bind (by simp [pure, Work.done, Store.noted])

/-- A commit makes all rows visible that are pending. -/
theorem answers_commit (c : Session) :
    Answers c Request.commit.text (behind (Store.commit c)) (.done ()) c (c.pending.getD []) :=
  answers_behind fun _ => record_bind rfl

theorem answers_rollback (c : Session) :
    Answers c Request.rollback.text (behind (Store.rollback c)) (.done ()) c [] := by
  refine answers_behind fun s => ?_
  simp only [Store.rollback, Store.record_eq, Request.text, List.append_nil]
  split <;> rfl

/-- A statement that a session carries out whenever it does not fail. -/
private theorem answers_execute {c c' : Session} {text : String} {rows : List String}
    (h : ∀ s, c.apply s (.ofText text) = .ok (c', { s with rows := s.rows ++ rows })) :
    Answers c text (Store.execute text) (.done ()) c' rows := by
  intro s
  simp only [Store.execute, Store.record_eq]
  by_cases hfailing : s.isFailing ⟨c.label, text⟩ = true
  · simp only [hfailing, if_true]
  · simp only [hfailing, Bool.false_eq_true, if_false, h]
    rfl

/-- A plain statement that stands alone commits its row at once. -/
theorem answers_alone (label : String) (p : PlainStatement) :
    Answers (Store.connection label) (Request.statement p.text).text (Store.execute p.text)
      (.done ()) (Store.connection label) p.row?.toList := by
  refine answers_execute fun s => ?_
  rw [Request.text, p.ofText_eq]
  cases p.row? <;> simp [Session.apply, Store.connection]

end Watched

/-- What a session answers to an order. -/
def OpenTransaction.answer (t : OpenTransaction) (o : Order) : Outcome DatabaseError Unit :=
  .ofExcept ((t.obey o).map fun _ => ())

/-- The transaction after a plain statement. -/
def OpenTransaction.afterPlain (t : OpenTransaction) (p : PlainStatement) : OpenTransaction :=
  match p.row? with
  | some row => t.after (.insert row)
  | none => t

namespace Watched

theorem answers_order (t : OpenTransaction) (o : Order) :
    Answers t.session (Request.statement o.text).text (Store.execute o.text) (t.answer o)
      (t.after o).session [] := by
  intro s
  have hlabel : t.session.label = t.label := rfl
  rw [Request.text, t.execute_text, hlabel, OpenTransaction.refusal?]
  by_cases hfailing : s.isFailing ⟨t.label, o.text⟩ = true
  · rw [if_pos hfailing, if_pos hfailing]
  · rw [if_neg hfailing, if_neg hfailing]
    simp only [OpenTransaction.answer, OpenTransaction.after, List.append_nil]
    cases t.obey o <;> rfl

/-- A plain statement in a transaction adds its row to those that are pending. -/
theorem answers_plain (t : OpenTransaction) (p : PlainStatement) :
    Answers t.session (Request.statement p.text).text (Store.execute p.text) (.done ())
      (t.afterPlain p).session [] := by
  refine answers_execute fun s => ?_
  rw [Request.text, p.ofText_eq, OpenTransaction.afterPlain]
  cases p.row? <;>
    simp [Session.apply, OpenTransaction.session, OpenTransaction.after, OpenTransaction.obey]

end Watched

end SharedPages
