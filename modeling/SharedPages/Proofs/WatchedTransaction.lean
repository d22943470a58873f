import SharedPages.Proofs.Handle
import SharedPages.Proofs.Nesting
import SharedPages.Proofs.Watched

/-!
# Transactions on a watched store

An open transaction runs its statements in a session that has a number. What an
operation does to it and to the store is described by the open transaction that
it leaves and by the events that it adds, all of which are sound: a statement
that needs a savepoint finds it open, and nothing becomes visible but through a
commit (`Event.Sound`).

An operation either ends the transaction or keeps everything that is below its
floor, as the steps of a unit do. `Transaction.Tame` says so once for all those
that anyone may use inside a unit; the operations that end a unit come with
lemmas of their own.

## Key results

- `Watched.Sees.trans`: events of steps one after another
- `OpenTransaction.gate_watched`: the gate before the operations
- `Transaction.tame_checkOut`, `Transaction.tame_openSavepoint`, `Transaction.tame_send`
- `OpenTransaction.rollbackTo_watched`, `OpenTransaction.release_watched`: the ends of a unit
- `OpenTransaction.commit_watched`, `OpenTransaction.rollback_watched`: the ends of a transaction
-/

namespace SharedPages

/-! ## Sound events -/

/-- The savepoint that the statement needs, if any, was open when it arrived. -/
def Event.NamesOpen (e : Event) : Prop :=
  ∀ name, (Command.ofText e.request.text).needed? = some name →
    name ∈ e.session.marks.map Mark.name

/-- A statement names only savepoints that are open, is not refused for want of one, publishes
    rows only if it stands alone or is a commit, and commits only a session whose number is at least
    `since`. -/
structure Event.Sound (since : Nat) (e : Event) : Prop where
  namesOpen : e.NamesOpen
  found : ∀ name, e.error ≠ some (Session.missingSavepoint name)
  published : e.published ≠ [] → e.number = none ∨ e.request = .commit
  commits : e.request = .commit → ∃ n, e.number = some n ∧ since ≤ n

theorem Event.Sound.weaken {since since' : Nat} {e : Event} (h : e.Sound since)
    (hle : since' ≤ since) : e.Sound since' where
  namesOpen := h.namesOpen
  found := h.found
  published := h.published
  commits hcommit := by
    obtain ⟨n, hn, hsince⟩ := h.commits hcommit
    exact ⟨n, hn, Nat.le_trans hle hsince⟩

/-- A failure that was injected is not the failure to find a savepoint. -/
private theorem injected_ne_missingSavepoint (text name : String) :
    Store.injected text ≠ Session.missingSavepoint name := by
  simp [Store.injected, Session.missingSavepoint, ← String.toList_inj]

namespace Watched

variable {faults : Nat → Bool} {b b₁ b₂ : Watched faults} {since : Nat} {α : Type}

/-- From the first store to the second there were only sound events, of sessions that were begun. -/
def Sees (since : Nat) (b b' : Watched faults) : Prop :=
  ∃ new, b.Gains new b' ∧ ∀ e ∈ new, e.Sound since ∧ ∀ n, e.number = some n → n < b'.begun

theorem Sees.refl (since : Nat) (b : Watched faults) : b.Sees since b :=
  ⟨[], .refl b, by simp⟩

/-- Steps one after another. -/
theorem Sees.trans (h₁ : b.Sees since b₁) (h₂ : b₁.Sees since b₂) : b.Sees since b₂ := by
  obtain ⟨new, hnew, hsound⟩ := h₁
  obtain ⟨more, hmore, hsound'⟩ := h₂
  refine ⟨more ++ new, hnew.trans hmore, fun e he => ?_⟩
  rcases List.mem_append.mp he with he | he
  · exact hsound' e he
  · obtain ⟨hs, hn⟩ := hsound e he
    exact ⟨hs, fun n h => Nat.lt_of_lt_of_le (hn n h) hmore.begun⟩

theorem Sees.weaken {since' : Nat} (h : b.Sees since b₁) (hle : since' ≤ since) :
    b.Sees since' b₁ := by
  obtain ⟨new, hnew, hsound⟩ := h
  exact ⟨new, hnew, fun e he => ⟨(hsound e he).1.weaken hle, (hsound e he).2⟩⟩

theorem Sees.begun_le (h : b.Sees since b₁) : b.begun ≤ b₁.begun := by
  obtain ⟨_, hnew, -⟩ := h
  exact hnew.begun

/-- What a request may be, so that its event is sound whatever becomes of it. -/
structure Proper (since : Nat) (number : Option Nat) (c : Session) (request : Request) :
    Prop where
  namesOpen : ∀ name, (Command.ofText request.text).needed? = some name →
    name ∈ c.marks.map Mark.name
  commits : request = .commit → ∃ n, number = some n ∧ since ≤ n

/-- Only the statements of units need savepoints. -/
theorem proper_of_ne_statement {number : Option Nat} {c : Session} {request : Request}
    (hrequest : ∀ text, request ≠ .statement text)
    (hcommits : request = .commit → ∃ n, number = some n ∧ since ≤ n) :
    Proper since number c request := by
  refine ⟨fun name hname => ?_, hcommits⟩
  cases request with
  | statement text => exact absurd rfl (hrequest text)
  | begin | commit | rollback => cases hname

section Noted

variable {number : Option Nat} {c : Session} {request : Request}
  (hproper : Proper since number c request) (hnumber : ∀ n, number = some n → n < b.begun)
include hproper hnumber

/-- A proper request that fails. -/
theorem sees_refused : b.Sees since (b.noted (refused number c request)) := by
  refine ⟨_, gains_noted b _, ?_⟩
  simp only [List.mem_singleton, forall_eq]
  refine ⟨⟨hproper.namesOpen, ?_, fun h => absurd rfl h, hproper.commits⟩, hnumber⟩
  exact fun name hname => injected_ne_missingSavepoint _ _ (Option.some.inj hname)

/-- A proper request that is carried out. -/
theorem sees_answered (a : α) {rows : List String}
    (hrows : rows ≠ [] → number = none ∨ request = .commit) :
    b.Sees since
      (b.noted (answered number c request (.done a : Outcome DatabaseError α) rows)) := by
  refine ⟨_, gains_noted b _, ?_⟩
  simp only [List.mem_singleton, forall_eq]
  exact ⟨⟨hproper.namesOpen, fun name hname => (by cases hname), hrows, hproper.commits⟩, hnumber⟩

end Noted

/-- A plain statement that stands alone. -/
theorem executeAlone_sees (b : Watched faults) (role : PoolRole) (p : PlainStatement) :
    b.Sees since (Backend.executeAlone role p.text b).2 := by
  have hproper : Proper since none (Store.connection role.name) (.statement p.text) := by
    refine ⟨fun name hname => ?_, fun h => by cases h⟩
    rw [Request.text, p.needed?_eq_none] at hname
    cases hname
  have hnumber : ∀ n, none = some n → n < b.begun := fun n hn => by cases hn
  have halone : Backend.executeAlone role p.text b = observeLast none (Store.connection role.name)
    (.statement p.text) (Store.execute p.text) b := rfl
  rw [halone, observeLast_eq (answers_alone role.name p)]
  split
  · exact sees_refused hproper hnumber
  · exact sees_answered hproper hnumber () fun _ => .inl rfl

end Watched

/-! ## Open transactions -/

namespace OpenTransaction

variable {faults : Nat → Bool} {b : Watched faults} {t t₀ t₂ : OpenTransaction}
  {n floor since : Nat} {α : Type}

/-- The transaction itself, on a session with a number. -/
def watched (n : Nat) (t : OpenTransaction) : Transaction Numbered where
  session := some ⟨n, t.session⟩
  issued := t.issued
  abandoned := t.abandoned
  busy := t.busy

/-- Marks tell savepoints apart, since names do. -/
private theorem markOf_injective : Function.Injective markOf := by
  rintro ⟨sp, k⟩ ⟨sp', k'⟩ h
  simpa [markOf] using h

/-- A transaction is open in one way only. -/
theorem watched_inj {m : Nat} (h : t.watched n = t₂.watched m) : n = m ∧ t = t₂ := by
  obtain ⟨label, rows, marks, issued, abandoned, busy⟩ := t
  obtain ⟨label', rows', marks', issued', abandoned', busy'⟩ := t₂
  simp only [watched, session, Transaction.mk.injEq, Option.some.injEq, Numbered.mk.injEq,
    Session.mk.injEq, List.map_inj_right fun _ _ h => markOf_injective h] at h
  simp [h]

/-- The order is about a savepoint that is open, if it is about one that has to be. -/
def Ready (t : OpenTransaction) : Order → Prop
  | .rollbackTo sp | .release sp => ∃ m, t.Marks sp m
  | _ => True

/-- An order for which everything is ready is carried out. -/
theorem Ready.answer_eq {o : Order} (h : t.Ready o) (ht : t.Ordered) : t.answer o = .done () := by
  cases o with
  | insert row => rfl
  | create sp => rfl
  | rollbackTo sp =>
    obtain ⟨m, hmarks⟩ := h
    obtain ⟨_, _, -, hfrom, -⟩ := ht.exists_split hmarks
    simp [answer, obey, hfrom, Except.map, Outcome.ofExcept]
  | release sp =>
    obtain ⟨m, hmarks⟩ := h
    obtain ⟨_, _, -, hfrom, -⟩ := ht.exists_split hmarks
    simp [answer, obey, hfrom, Except.map, Outcome.ofExcept]

theorem Ready.proper {o : Order} (h : t.Ready o) (since n : Nat) :
    Watched.Proper since (some n) t.session (.statement o.text) := by
  refine ⟨fun name hname => ?_, fun h => by cases h⟩
  -- The session marks the savepoints of the stack by their names.
  have hmem {sp : Savepoint} (hmarks : ∃ m, t.Marks sp m) :
      sp.name ∈ t.session.marks.map Mark.name := by
    obtain ⟨m, hmarks⟩ := hmarks
    exact List.mem_map.mpr ⟨⟨sp.name, m⟩, List.mem_map.mpr ⟨(sp, m), hmarks, rfl⟩, rfl⟩
  rw [Request.text, o.ofText_text] at hname
  cases o with
  | insert row => cases hname
  | create sp => cases hname
  | rollbackTo sp => cases hname; exact hmem h
  | release sp => cases hname; exact hmem h

/-- What a transaction sends is answered in its session, unless it fails. -/
private theorem send_of_answers {t' : OpenTransaction} {text : String}
    (hanswers : Watched.Answers t.session (Request.statement text).text (Store.execute text)
      (.done ()) t'.session [])
    (hproper : Watched.Proper since (some n) t.session (.statement text)) (hn : n < b.begun)
    (hframe : t'.issued = t.issued ∧ t'.abandoned = t.abandoned ∧ t'.busy = t.busy) :
    ∃ b', b.Sees since b' ∧ b'.begun = b.begun ∧
      ((∃ e, Transaction.send text (t.watched n, b) = (.failed e, t.watched n, b')) ∨
        Transaction.send text (t.watched n, b) = (.done (), t'.watched n, b')) := by
  have hnumber : ∀ m, some n = some m → m < b.begun := fun m hm => by cases hm; exact hn
  have hsend {o : Outcome DatabaseError Unit} {c' : Session} {b' : Watched faults}
      (h : Watched.observe (some n) (.statement text) (Store.execute text) (t.session, b) =
        (o, c', b')) :
      Transaction.send text (t.watched n, b) =
        (o, { t.watched n with session := some ⟨n, c'⟩ }, b') := by
    simp only [Transaction.send, watched, Backend.execute, h]
  have hobserve := Watched.observe_eq hanswers (some n) b
  split at hobserve
  · exact ⟨_, Watched.sees_refused hproper hnumber, rfl, .inl ⟨_, hsend hobserve⟩⟩
  · refine ⟨_, Watched.sees_answered hproper hnumber () (absurd rfl), rfl, .inr ?_⟩
    rw [hsend hobserve]
    simp only [watched, hframe]

/-- An order for which everything is ready is carried out, unless it fails. -/
theorem send_watched {o : Order} (hready : t.Ready o) (ht : t.Ordered) (hn : n < b.begun)
    (since : Nat) :
    ∃ b', b.Sees since b' ∧ b'.begun = b.begun ∧
      ((∃ e, Transaction.send o.text (t.watched n, b) = (.failed e, t.watched n, b')) ∨
        Transaction.send o.text (t.watched n, b) = (.done (), (t.after o).watched n, b')) := by
  have hanswers := Watched.answers_order t o
  rw [hready.answer_eq ht] at hanswers
  exact send_of_answers hanswers (hready.proper since n) hn
    ⟨issued_after t o, abandoned_after t o, busy_after t o⟩

/-- A plain statement is carried out, unless it fails. -/
theorem send_plain_watched (t : OpenTransaction) (p : PlainStatement) (hn : n < b.begun)
    (since : Nat) :
    ∃ b', b.Sees since b' ∧ b'.begun = b.begun ∧
      ((∃ e, Transaction.send p.text (t.watched n, b) = (.failed e, t.watched n, b')) ∨
        Transaction.send p.text (t.watched n, b) = (.done (), (t.afterPlain p).watched n, b')) := by
  refine send_of_answers (Watched.answers_plain t p) ⟨?_, fun h => by cases h⟩ hn ?_
  · intro name hname
    rw [Request.text, p.needed?_eq_none] at hname
    cases hname
  · simp only [afterPlain]
    split <;> exact ⟨rfl, rfl, rfl⟩

/-- A row that is written never changes what is below the floor. -/
theorem Level.afterPlain (h : Level floor t) (p : PlainStatement) :
    ∃ rows, Grows floor t rows (t.afterPlain p) := by
  simp only [OpenTransaction.afterPlain]
  split
  · rename_i row _
    by_cases hnone : t.abandoned = []
    · exact ⟨_, h.insert hnone row⟩
    · exact ⟨_, h.insert_doomed hnone row⟩
  · exact ⟨_, h.refl⟩

/-! ## The gate -/

/-- Settling goes back to a savepoint that is open. -/
theorem settle_watched (hlevel : Level floor t) (hn : n < b.begun) (since : Nat) :
    ∃ b', b.Sees since b' ∧ b'.begun = b.begun ∧
      ((∃ e, Transaction.settle (t.watched n, b) = (.failed e, t.watched n, b')) ∨
        Transaction.settle (t.watched n, b) = (.done (), t.settled.watched n, b')) := by
  have hearliest : (t.watched n).earliest? = t.earliest? := rfl
  have hsession : (t.watched n).session = some ⟨n, t.session⟩ := rfl
  simp only [Transaction.settle, hearliest, hsession]
  cases h : t.earliest? with
  | none =>
    refine ⟨b, .refl since b, rfl, .inr ?_⟩
    rw [settled_of_abandoned_nil (earliest?_eq_none.mp h)]
  | some sp =>
    -- What is abandoned is still open, so the way back to it can only fail by injection.
    have hready : t.Ready (.rollbackTo sp) := hlevel.isOpen sp (mem_of_earliest? h)
    obtain ⟨b', hsees, hbegun, ⟨e, hfailed⟩ | hdone⟩ :=
      send_watched hready hlevel.ordered hn since
    · exact ⟨b', hsees, hbegun, .inl ⟨_, Work.bind_of_failed (Work.mapError_of_failed hfailed _) _⟩⟩
    · refine ⟨b', hsees, hbegun,
        .inr ((Work.bind_of_done (Work.mapError_of_done hdone _) _).trans ?_)⟩
      simp only [Transaction.update, Work.modify, settled, h]
      rfl

/-- An operation is refused by the gate, or it finds the transaction settled. -/
theorem gate_watched (hlevel : Level floor t) (hn : n < b.begun) (since : Nat)
    (next : Work (Transaction Numbered × Watched faults) DatabaseError α) :
    ∃ b', b.Sees since b' ∧ b'.begun = b.begun ∧
      ((∃ e, (do Transaction.unlessBusy; Transaction.settle; next : Work _ _ _) (t.watched n, b) =
          (.failed e, t.watched n, b')) ∨
        t.busy = false ∧ Transaction.settle (t.watched n, b) = (.done (), t.settled.watched n, b') ∧
          (do Transaction.unlessBusy; Transaction.settle; next : Work _ _ _) (t.watched n, b) =
            next (t.settled.watched n, b')) := by
  cases hbusy : t.busy with
  | true =>
    have hunless := Transaction.unlessBusy_of_busy (t := t.watched n) hbusy b
    exact ⟨b, .refl since b, rfl, .inl ⟨_, Work.bind_of_failed hunless _⟩⟩
  | false =>
    have hunless := Transaction.unlessBusy_of_idle (t := t.watched n) hbusy b
    obtain ⟨b', hsees, hbegun, ⟨e, hfailed⟩ | hdone⟩ := settle_watched hlevel hn since
    · refine ⟨b', hsees, hbegun, .inl ⟨e, ?_⟩⟩
      rw [Work.bind_of_done hunless, Work.bind_of_failed hfailed]
    · refine ⟨b', hsees, hbegun, .inr ⟨rfl, hdone, ?_⟩⟩
      rw [Work.bind_of_done hunless, Work.bind_of_done hdone]

/-! ## The beginning and the ends of a unit -/

/-- A savepoint is opened behind the gate, or the transaction is at most settled and numbered. -/
theorem openSavepoint_watched (hlevel : Level floor t) (hn : n < b.begun) (since : Nat) :
    ∃ t' b', b.Sees since b' ∧ b'.begun = b.begun ∧
      ((∃ e, Transaction.openSavepoint (t.watched n, b) = (.failed e, t'.watched n, b')) ∧
          Grows floor t [] t' ∨
        Transaction.openSavepoint (t.watched n, b) = (.done t.next, t'.watched n, b') ∧
          t' = t.settled.opened) := by
  have hsettled := hlevel.settled
  obtain ⟨b₁, hsees, hbegun, ⟨e, hfailed⟩ | ⟨-, -, hopen⟩⟩ := gate_watched hlevel hn since _
  · exact ⟨t, b₁, hsees, hbegun, .inl ⟨⟨e, hfailed⟩, hlevel.refl⟩⟩
  · have hactive : Transaction.ifActive (t.settled.watched n, b₁) =
        (.done (), t.settled.watched n, b₁) := rfl
    have hnumber : Transaction.update (fun t => { t with issued := t.issued + 1 })
        (t.settled.watched n, b₁) = (.done (), t.numbered.watched n, b₁) := by
      simp [Transaction.update, Work.modify, watched, numbered, session]
    rw [Work.bind_of_done hactive, Work.bind_of_done hnumber, Work.bind_state] at hopen
    -- The statement is sent once the number is used up, so it is answered by `numbered`.
    have hnumbered : Grows floor t.settled [] t.numbered :=
      hsettled.level.resting rfl rfl rfl (by simp [numbered])
    obtain ⟨b₂, hsees₂, hbegun₂, ⟨e, hfailed⟩ | hdone⟩ :=
      send_watched (o := .create t.next) trivial hnumbered.level.ordered (hbegun ▸ hn) since
    · exact ⟨t.numbered, b₂, hsees.trans hsees₂, hbegun₂.trans hbegun,
        .inl ⟨⟨_, hopen.trans (Work.bind_of_failed (Work.mapError_of_failed hfailed _) _)⟩,
          hsettled.trans hnumbered⟩⟩
    · rw [numbered_after_create] at hdone
      exact ⟨_, b₂, hsees.trans hsees₂, hbegun₂.trans hbegun,
        .inr ⟨hopen.trans (Work.bind_of_done (Work.mapError_of_done hdone _) _), rfl⟩⟩

section Unit

variable {rows : List String} (h : Level floor t₀) (hnone : t₀.abandoned = [])
  (hgrows : Grows t₀.next.seq t₀.opened rows t₂) (hn : n < b.begun) (since : Nat)
include h hnone hgrows hn

/-- A unit ends with an order that is carried out behind the gate, unless that fails, and then the
    transaction is at most settled. -/
private theorem ended_watched {o : Order} {more : List String} (f : DatabaseError → DatabaseError)
    (hready : t₂.settled.Ready o) (hended : Grows floor t₀ more (t₂.settled.after o)) :
    ∃ t₃ b' rows, (Work.mapError f
        (do Transaction.unlessBusy; Transaction.settle; Transaction.send o.text)
          (t₂.watched n, b)).2 = (t₃.watched n, b') ∧
      b.Sees since b' ∧ b'.begun = b.begun ∧ Grows floor t₀ rows t₃ := by
  have hsettled := hgrows.level.settled
  obtain ⟨b₁, hsees, hbegun, ⟨e, hfailed⟩ | ⟨-, -, hopen⟩⟩ :=
    gate_watched hgrows.level hn since (Transaction.send o.text)
  · exact ⟨t₂, b₁, _, congrArg Prod.snd hfailed, hsees, hbegun, hgrows.outer h hnone⟩
  · obtain ⟨b₂, hsees₂, hbegun₂, hsend⟩ :=
      send_watched hready hsettled.level.ordered (hbegun ▸ hn) since
    rcases hsend with ⟨e, hfailed⟩ | hdone
    · exact ⟨_, b₂, _, congrArg Prod.snd (hopen.trans hfailed), hsees.trans hsees₂,
        hbegun₂.trans hbegun, (hgrows.trans hsettled).outer h hnone⟩
    · exact ⟨_, b₂, _, congrArg Prod.snd (hopen.trans hdone), hsees.trans hsees₂,
        hbegun₂.trans hbegun, hended⟩

/-- Going back to the savepoint of a unit. -/
theorem rollbackTo_watched :
    ∃ t₃ b' rows, (Transaction.rollbackTo t₀.next (t₂.watched n, b)).2 = (t₃.watched n, b') ∧
      b.Sees since b' ∧ b'.begun = b.begun ∧ Grows floor t₀ rows t₃ :=
  have hsettled := hgrows.trans hgrows.level.settled
  ended_watched (o := .rollbackTo t₀.next) h hnone hgrows hn since _ ⟨_, hsettled.marks_next⟩
    (hsettled.rolledBack h hnone (abandoned_settled t₂))

/-- Releasing the savepoint of a unit. -/
theorem release_watched :
    ∃ t₃ b' rows, (Transaction.release t₀.next (t₂.watched n, b)).2 = (t₃.watched n, b') ∧
      b.Sees since b' ∧ b'.begun = b.begun ∧ Grows floor t₀ rows t₃ :=
  have hsettled := hgrows.trans hgrows.level.settled
  ended_watched (o := .release t₀.next) h hnone hgrows hn since _ ⟨_, hsettled.marks_next⟩
    (hsettled.released h hnone (abandoned_settled t₂))

end Unit

/-! ## The beginning of a transaction -/

/-- A session takes the next number, whether it can be begun or not. -/
theorem begin_watched (b : Watched faults) (since : Nat) :
    ∃ b' : Watched faults, b.Sees since b' ∧ b'.begun = b.begun + 1 ∧
      ((∃ e, Backend.begin PoolRole.write b = (.failed e, b')) ∨
        Backend.begin PoolRole.write b = (.done ⟨b.begun, (fresh "write").session⟩, b')) := by
  -- The number of the session is used up whether or not the statement succeeds.
  let numbered : Watched faults := { b with begun := b.begun + 1 }
  have hnumbered : b.Sees since numbered :=
    ⟨[], ⟨rfl, rfl, by simp [numbered], Nat.le_succ _⟩, by simp⟩
  have hproper : Watched.Proper since (some b.begun) (Store.connection "write") .begin :=
    Watched.proper_of_ne_statement (fun _ h => by cases h) fun h => by cases h
  have hnumber : ∀ n, some b.begun = some n → n < numbered.begun :=
    fun n hn => by cases hn; exact Nat.lt_succ_self _
  -- The statement fails or not, and in both ways it is noted under this number.
  have hobserve := Watched.observeLast_eq (Watched.answers_begin "write") (some b.begun) b
  have hbegin {o : Outcome DatabaseError Session} {b' : Watched faults}
      (h : Watched.observeLast (some b.begun) (Store.connection "write") .begin
        (Watched.behind (Store.begin "write")) b = (o, b')) :
      Backend.begin PoolRole.write b =
        (o.map (Numbered.mk b.begun), { b' with begun := b.begun + 1 }) := by
    simp only [Backend.begin, PoolRole.name, h]
  split at hobserve
  · exact ⟨_, hnumbered.trans (Watched.sees_refused hproper hnumber), rfl,
      .inl ⟨_, hbegin hobserve⟩⟩
  · exact ⟨_, hnumbered.trans (Watched.sees_answered hproper hnumber () (absurd rfl)), rfl,
      .inr (hbegin hobserve)⟩

/-! ## The ends of a transaction -/

/-- A commit is refused by the gate, or it consumes the session: then either it fails, or it
    publishes what is pending once the transaction is settled. -/
theorem commit_watched (hlevel : Level floor t) (hn : n < b.begun) (since : Nat) :
    ∃ b₁, b.Sees since b₁ ∧ b₁.begun = b.begun ∧
      ((∃ e, Transaction.commit (t.watched n, b) = (.failed e, t.watched n, b₁)) ∨
        Transaction.settle (t.watched n, b) = (.done (), t.settled.watched n, b₁) ∧
          ∃ t' : Transaction Numbered, t'.session = none ∧
            (Transaction.commit (t.watched n, b) = (.failed (Store.injected "COMMIT"), t',
                b₁.noted (Watched.refused (some n) t.settled.session .commit)) ∨
              Transaction.commit (t.watched n, b) = (.done (), t',
                b₁.noted (Watched.answered (some n) t.settled.session .commit
                  (.done () : Outcome DatabaseError Unit) t.settled.rows)))) := by
  obtain ⟨b₁, hsees, hbegun, ⟨e, hfailed⟩ | ⟨-, hsettle, hopen⟩⟩ := gate_watched hlevel hn since _
  · exact ⟨b₁, hsees, hbegun, .inl ⟨e, hfailed⟩⟩
  · have htake := Transaction.take_of_some (t := t.settled.watched n) rfl b₁
    rw [Work.bind_of_done htake] at hopen
    have hcommit : (Backend.commit ⟨n, t.settled.session⟩ : Work (Watched faults) _ _) =
      Watched.observeLast (some n) t.settled.session .commit
        (Watched.behind (Store.commit t.settled.session)) := rfl
    rw [Transaction.onBackend, hcommit, Watched.observeLast_eq (Watched.answers_commit _)] at hopen
    refine ⟨b₁, hsees, hbegun,
      .inr ⟨hsettle, { t.settled.watched n with session := none }, rfl, ?_⟩⟩
    split at hopen
    · exact .inl hopen
    · exact .inr hopen

section Ends

variable (hn : n < b.begun)
include hn

/-- A commit leaves the transaction open or over. -/
theorem commit_ends (hlevel : Level floor t) (hsince : since ≤ n) :
    ∃ t' b', (Transaction.commit (t.watched n, b)).2 = (t', b') ∧ b.Sees since b' ∧
      b'.begun = b.begun ∧ (t' = t.watched n ∨ t'.session = none) := by
  have hproper : Watched.Proper since (some n) t.settled.session .commit :=
    Watched.proper_of_ne_statement (fun _ h => by cases h) fun _ => ⟨n, rfl, hsince⟩
  obtain ⟨b₁, hsees, hbegun, ⟨e, hfailed⟩ | ⟨-, t', hover, hcommit⟩⟩ :=
    commit_watched hlevel hn since
  · exact ⟨_, b₁, by rw [hfailed], hsees, hbegun, .inl rfl⟩
  · have hnumber : ∀ m, some n = some m → m < b₁.begun := fun m hm => by cases hm; omega
    rcases hcommit with hfailed | hdone
    · exact ⟨t', _, by rw [hfailed], hsees.trans (Watched.sees_refused hproper hnumber), hbegun,
        .inr hover⟩
    · exact ⟨t', _, by rw [hdone], hsees.trans (Watched.sees_answered hproper hnumber () fun _ =>
        .inr rfl), hbegun, .inr hover⟩

/-- A rollback leaves the transaction open or over. -/
theorem rollback_ends (t : OpenTransaction) (since : Nat) :
    ∃ t' b', (Transaction.rollback (t.watched n, b)).2 = (t', b') ∧ b.Sees since b' ∧
      b'.begun = b.begun ∧ (t' = t.watched n ∨ t'.session = none) := by
  cases hbusy : t.busy with
  | true =>
    have hunless := Transaction.unlessBusy_of_busy (t := t.watched n) hbusy b
    exact ⟨_, b, by rw [Transaction.rollback, Work.bind_of_failed hunless], .refl since b, rfl,
      .inl rfl⟩
  | false =>
    have hunless := Transaction.unlessBusy_of_idle (t := t.watched n) hbusy b
    -- The session is taken first, so it is gone whether or not the statement succeeds.
    have htake := Transaction.take_of_some (t := t.watched n) rfl b
    have hrollback : (Backend.rollback ⟨n, t.session⟩ : Work (Watched faults) _ _) =
      Watched.observeLast (some n) t.session .rollback
        (Watched.behind (Store.rollback t.session)) := rfl
    have hproper : Watched.Proper since (some n) t.session .rollback :=
      Watched.proper_of_ne_statement (fun _ h => by cases h) fun h => by cases h
    have hnumber : ∀ m, some n = some m → m < b.begun := fun m hm => by cases hm; exact hn
    have hobserve := Watched.observeLast_eq (Watched.answers_rollback t.session) (some n) b
    rw [Transaction.rollback, Work.bind_of_done hunless, Work.bind_of_done htake]
    simp only [Transaction.update, Work.bind_modify, Transaction.onBackend, hrollback]
    split at hobserve
    · exact ⟨_, _, by rw [hobserve], Watched.sees_refused hproper hnumber, rfl, .inr rfl⟩
    · exact ⟨_, _, by rw [hobserve], Watched.sees_answered hproper hnumber () (absurd rfl), rfl,
        .inr rfl⟩

end Ends

end OpenTransaction

/-! ## What anyone may do in a unit -/

namespace Transaction

open OpenTransaction

variable {faults : Nat → Bool} {α : Type}

/-- The work leaves a transaction alone that is over, and keeps an open one open and what is below
    its floor as it is. -/
structure Tame (w : Work (Transaction Numbered × Watched faults) DatabaseError α) : Prop where
  inert (t : Transaction Numbered) (b : Watched faults) : t.session = none → (w (t, b)).2 = (t, b)
  grows {floor n : Nat} {t : OpenTransaction} {b : Watched faults} (since : Nat) :
    Level floor t → n < b.begun → ∃ t' b' rows, (w (t.watched n, b)).2 = (t'.watched n, b') ∧
      b.Sees since b' ∧ b'.begun = b.begun ∧ Grows floor t rows t'

theorem tame_send (p : PlainStatement) :
    Tame (send p.text : Work (_ × Watched faults) _ _) where
  inert t b h := by rw [send_of_over h]
  grows {floor n t b} since hlevel hn := by
    obtain ⟨b', hsees, hbegun, ⟨e, hfailed⟩ | hdone⟩ := t.send_plain_watched p hn since
    · exact ⟨t, b', _, by rw [hfailed], hsees, hbegun, hlevel.refl⟩
    · obtain ⟨rows, hgrows⟩ := hlevel.afterPlain p
      exact ⟨_, b', rows, by rw [hdone], hsees, hbegun, hgrows⟩

theorem tame_checkOut : Tame (checkOut : Work (_ × Watched faults) _ _) where
  inert t b h := by rw [checkOut_of_over h]
  grows {floor n t b} since hlevel hn := by
    obtain ⟨b', hsees, hbegun, ⟨e, hfailed⟩ | ⟨-, -, hopen⟩⟩ := gate_watched hlevel hn since _
    · exact ⟨t, b', _, congrArg Prod.snd hfailed, hsees, hbegun, hlevel.refl⟩
    · have hsettled := hlevel.settled
      refine ⟨{ t.settled with busy := true }, b', _, congrArg Prod.snd hopen, hsees, hbegun,
        hsettled.trans (hsettled.level.resting rfl rfl rfl (Nat.le_refl _))⟩

theorem tame_openSavepoint : Tame (openSavepoint : Work (_ × Watched faults) _ _) where
  inert t b h := by rw [openSavepoint_of_over h]
  grows {floor n t b} since hlevel hn := by
    have hsettled := hlevel.settled
    obtain ⟨t', b', hsees, hbegun, ⟨⟨e, hfailed⟩, hgrows⟩ | ⟨hdone, rfl⟩⟩ :=
      openSavepoint_watched hlevel hn since
    · exact ⟨t', b', _, by rw [hfailed], hsees, hbegun, hgrows⟩
    · exact ⟨_, b', _, by rw [hdone], hsees, hbegun,
        hsettled.trans (hsettled.level.opened (abandoned_settled t)).1⟩

end Transaction

end SharedPages
