import SharedPages.Proofs.Routine
import SharedPages.Proofs.Watched

/-!
# Databases that mirror each other

Work on one state mirrors work on another, along a map from the one state to
the other, if it gives the same and leaves states that the map takes to each
other (`Work.Mirrors`). A backend whose sessions and statements mirror those of
the recording store at its bottom (`LawfulRecorder`) runs everything just as
that store does: transactions, units of work, and whole routines.

A store that is watched, without faults, is such a backend. So what is taken
down of a routine there is what happens when the routine plays on the store
itself.

## Key results

- `Work.Mirrors.bind`: work one after another
- `Database.mirrors_run`: units of work
- `Routine.mirrors_play`: a routine does the same on a backend and on the store at its bottom
-/

namespace SharedPages

/-! ## Work that mirrors other work -/

namespace Work

variable {σ σ' ε ε' α β : Type} {f : σ → σ'} {w : Work σ ε α} {w' : Work σ' ε α}

/-- Along `f`, the second work gives what the first one gives, and leaves the state that it
    leaves. -/
def Mirrors (f : σ → σ') (w : Work σ ε α) (w' : Work σ' ε α) : Prop :=
  ∀ s, w' (f s) = ((w s).1, f (w s).2)

theorem mirrors_done (a : α) : Mirrors f (Work.done a : Work σ ε α) (Work.done a) := fun _ => rfl

theorem mirrors_fail (e : ε) : Mirrors f (Work.fail e : Work σ ε α) (Work.fail e) := fun _ => rfl

theorem mirrors_panic (p : Panic) : Mirrors f (Work.panic p : Work σ ε α) (Work.panic p) :=
  fun _ => rfl

theorem mirrors_pend : Mirrors f (Work.pend : Work σ ε α) Work.pend := fun _ => rfl

theorem mirrors_modify {g : σ → σ} {g' : σ' → σ'} (h : ∀ s, g' (f s) = f (g s)) :
    Mirrors f (Work.modify g : Work σ ε Unit) (Work.modify g') := fun s => by
  simp only [modify, h]

/-- Work one after another. -/
theorem Mirrors.bind {next : α → Work σ ε β} {next' : α → Work σ' ε β} (hw : Mirrors f w w')
    (hnext : ∀ a, Mirrors f (next a) (next' a)) : Mirrors f (w >>= next) (w' >>= next') := by
  intro s
  have hws := hw s
  -- Both end alike, so both go on or neither does.
  cases h : w s with
  | mk o s' =>
    rw [h] at hws
    cases o with
    | done a => rw [bind_of_done h, bind_of_done hws, hnext a s']
    | failed e => rw [bind_of_failed h, bind_of_failed hws]
    | panicked p => rw [bind_of_panicked h, bind_of_panicked hws]
    | suspended => rw [bind_of_suspended h, bind_of_suspended hws]

theorem Mirrors.mapError (hw : Mirrors f w w') (g : ε → ε') :
    Mirrors f (w.mapError g) (w'.mapError g) := fun s => by
  simp only [Work.mapError, mapOutcome, hw s]

theorem Mirrors.outcome (hw : Mirrors f w w') :
    Mirrors f (w.outcome : Work σ ε' _) w'.outcome := fun s => by
  simp only [Work.outcome, mapOutcome, hw s]

theorem Mirrors.ensuring {last : σ → σ} {last' : σ' → σ'} (hw : Mirrors f w w')
    (hlast : ∀ s, last' (f s) = f (last s)) :
    Mirrors f (w.ensuring last) (w'.ensuring last') := fun s => by
  simp only [Work.ensuring, hw s, hlast]

end Work

open Work

/-! ## Backends -/

/-- A backend does what the recording store at its bottom does. -/
class LawfulRecorder (β : Type) {τ : Type} [Recorder β τ] : Prop where
  acquire (role : PoolRole) :
    Mirrors (Recorder.store (β := β)) (Backend.acquire role) (Backend.acquire role)
  executeAlone (role : PoolRole) (text : String) :
    Mirrors (Recorder.store (β := β)) (Backend.executeAlone role text)
      (Backend.executeAlone role text)
  begin (role : PoolRole) :
    Mirrors (Recorder.store (β := β))
      ((Backend.begin role : Work β _ _).mapOutcome (·.map (Recorder.session β)))
      (Backend.begin role)
  execute (text : String) :
    Mirrors (Prod.map (Recorder.session β) (Recorder.store (β := β))) (Backend.execute text)
      (Backend.execute text)
  commit (c : τ) :
    Mirrors (Recorder.store (β := β)) (Backend.commit c) (Backend.commit (Recorder.session β c))
  rollback (c : τ) :
    Mirrors (Recorder.store (β := β)) (Backend.rollback c) (Backend.rollback (Recorder.session β c))
  inject (failures : List String) (b : β) :
    Recorder.inject failures (Recorder.store b) = Recorder.store (Recorder.inject failures b)

section Mirror

variable {β τ : Type} [Recorder β τ]

/-! ## Transactions -/

namespace Transaction

/-- A transaction and the database behind it, on the store at the bottom. -/
def bare (p : Transaction τ × β) : Transaction Session × Store :=
  p.map (.map (Recorder.session β)) Recorder.store

theorem mirrors_unlessBusy : Mirrors (bare (β := β)) unlessBusy unlessBusy := by
  rintro ⟨t, b⟩
  cases hbusy : t.busy <;> simp [unlessBusy, bare, map, hbusy]

theorem mirrors_ifActive : Mirrors (bare (β := β)) ifActive ifActive := by
  rintro ⟨t, b⟩
  cases h : t.session <;> simp [ifActive, bare, map, h]

theorem mirrors_update {f : Transaction τ → Transaction τ}
    {f' : Transaction Session → Transaction Session}
    (h : ∀ t, f' (t.map (Recorder.session β)) = (f t).map (Recorder.session β)) :
    Mirrors (bare (β := β)) (update f) (update f') :=
  mirrors_modify fun p => by simp only [bare, Prod.map, h]

/-- Taking the session away and going on with it. -/
private theorem mirrors_take {α : Type} {next : τ → Work (Transaction τ × β) DatabaseError α}
    {next' : Session → Work (Transaction Session × Store) DatabaseError α}
    (h : ∀ c, Mirrors (bare (β := β)) (next c) (next' (Recorder.session β c))) :
    Mirrors (bare (β := β)) (take >>= next) (take >>= next') := by
  rintro ⟨t, b⟩
  have hmap : (t.map (Recorder.session β)).session = t.session.map (Recorder.session β) := rfl
  cases hsession : t.session with
  | none =>
    rw [hsession] at hmap
    rw [bind_of_failed (take_of_none hsession b)]
    exact bind_of_failed (take_of_none hmap _) _
  | some c =>
    rw [hsession] at hmap
    rw [bind_of_done (take_of_some hsession b), ← h c]
    exact bind_of_done (take_of_some hmap _) _

variable [LawfulRecorder β]

theorem mirrors_send (text : String) : Mirrors (bare (β := β)) (send text) (send text) := by
  rintro ⟨t, b⟩
  cases h : t.session with
  | none => simp [send, bare, map, h]
  | some c =>
    have hexecute := LawfulRecorder.execute (β := β) text (c, b)
    simp only [Prod.map] at hexecute
    simp [send, bare, map, h, hexecute]

theorem mirrors_settle : Mirrors (bare (β := β)) settle settle := by
  rintro ⟨t, b⟩
  -- Which savepoint is the earliest does not depend on the session.
  have hearliest : (t.map (Recorder.session β)).earliest? = t.earliest? := rfl
  simp only [settle, bare, Prod.map, hearliest]
  cases t.earliest? with
  | none => rfl
  | some sp =>
    cases h : t.session with
    | none => simp [map, h]
    | some c =>
      -- With a session, settling is sending followed by forgetting what was abandoned.
      have hsession : (t.map (Recorder.session β)).session = some (Recorder.session β c) := by
        simp [map, h]
      rw [hsession]
      refine Mirrors.bind ((mirrors_send sp.rollbackStatement).mapError _) ?_ (t, b)
      exact fun _ => mirrors_update fun _ => rfl

theorem mirrors_gate {α : Type} {next : Work (Transaction τ × β) DatabaseError α}
    {next' : Work (Transaction Session × Store) DatabaseError α}
    (h : Mirrors (bare (β := β)) next next') :
    Mirrors (bare (β := β)) (do unlessBusy; settle; next) (do unlessBusy; settle; next') :=
  mirrors_unlessBusy.bind fun _ => mirrors_settle.bind fun _ => h

theorem mirrors_checkOut : Mirrors (bare (β := β)) checkOut checkOut :=
  mirrors_gate <| mirrors_ifActive.bind fun _ => mirrors_update fun _ => rfl

theorem mirrors_openSavepoint : Mirrors (bare (β := β)) openSavepoint openSavepoint := by
  refine mirrors_gate <| mirrors_ifActive.bind fun _ => .bind ?_ ?_
  · exact mirrors_update fun _ => rfl
  intro _ p
  rw [bind_state, bind_state]
  exact ((mirrors_send _).mapError _).bind (fun _ => mirrors_done _) p

theorem mirrors_rollbackTo (sp : Savepoint) :
    Mirrors (bare (β := β)) (rollbackTo sp) (rollbackTo sp) :=
  (mirrors_gate (mirrors_send _)).mapError _

theorem mirrors_release (sp : Savepoint) : Mirrors (bare (β := β)) (release sp) (release sp) :=
  (mirrors_gate (mirrors_send _)).mapError _

theorem mirrors_commit : Mirrors (bare (β := β)) commit commit :=
  mirrors_gate <| mirrors_take fun c => fun (t, b) => by
    simp only [onBackend, bare, Prod.map, LawfulRecorder.commit c b]

theorem mirrors_rollback : Mirrors (bare (β := β)) rollback rollback := by
  refine mirrors_unlessBusy.bind fun _ => mirrors_take fun c => .bind ?_ ?_
  · exact mirrors_update fun _ => rfl
  rintro - ⟨t, b⟩
  simp only [onBackend, bare, Prod.map, LawfulRecorder.rollback c b]

end Transaction

/-! ## Databases -/

namespace Database

open Transaction

variable {ε α : Type}

theorem mirrors_onBackend {w : Work β ε α} {w' : Work Store ε α}
    (h : Mirrors Recorder.store w w') :
    Mirrors (bare (β := β)) (onBackend w) (onBackend w') := fun d => by
  simp only [onBackend, bare, h d.backend]

theorem mirrors_within {w : Work (Transaction τ × β) DatabaseError α}
    {w' : Work (Transaction Session × Store) DatabaseError α} (id : TransactionId)
    (h : Mirrors Transaction.bare w w') : Mirrors (bare (β := β)) (within id w) (within id w') := by
  intro d
  have ht : d.bare.transactions[id.index]? =
      d.transactions[id.index]?.map (.map (Recorder.session β)) := by
    simp [bare]
  simp only [within, ht]
  cases d.transactions[id.index]? with
  | none => rfl
  | some t =>
    have hwt := h (t, d.backend)
    simp only [Transaction.bare, Prod.map] at hwt
    simp only [Option.map_some, bare, hwt]
    simp

theorem bare_bare (d : Database β τ) : d.bare.bare = d.bare := by
  have hmap : (Transaction.map (Recorder.session Store) : Transaction Session → _) = id := by
    funext t
    simp [Transaction.map, Recorder.session]
  simp [bare, Recorder.store, hmap]

theorem bare_change {f : Transaction τ → Transaction τ}
    {f' : Transaction Session → Transaction Session} (id : TransactionId)
    (h : ∀ t, f' (t.map (Recorder.session β)) = (f t).map (Recorder.session β))
    (d : Database β τ) : change id f' d.bare = (change id f d).bare := by
  simp only [change, bare, mk.injEq, true_and]
  refine Array.ext (by simp) fun i hi hi' => ?_
  simp only [Array.getElem_modify, Array.getElem_map]
  split
  · exact h _
  · rfl

theorem bare_giveBack (client : Client) (d : Database β τ) :
    giveBack client d.bare = (giveBack client d).bare := by
  cases client with
  | pool role => rfl
  | transaction id => exact bare_change (f := .giveBack) id (fun _ => rfl) d

variable [LawfulRecorder β]

theorem mirrors_begin : Mirrors (bare (β := β)) begin begin := by
  intro d
  have hbegin : Backend.begin .write (Recorder.store d.backend) =
      ((Backend.begin .write d.backend).1.map (Recorder.session β),
        Recorder.store (Backend.begin .write d.backend).2) :=
    LawfulRecorder.begin .write d.backend
  -- The recorder begins as the store does, so what is done with the session is left to compare.
  cases h : Backend.begin .write d.backend with
  | mk o b =>
    have hopen : (onBackend (Backend.begin .write) : Work (Database β τ) _ _) d =
        (o, { d with backend := b }) := by
      simp only [onBackend, h]
    have hopen' : (onBackend (Backend.begin .write) : Work (Database Store Session) _ _) d.bare =
        (o.map (Recorder.session β), { d.bare with backend := Recorder.store b }) := by
      have hbackend : d.bare.backend = Recorder.store d.backend := rfl
      simp only [onBackend, hbackend, hbegin, h]
    rw [begin, begin]
    cases o with
    | done c =>
      rw [bind_of_done hopen, bind_of_done hopen']
      simp [adopt, bare, Transaction.map]
    | failed e => rw [bind_of_failed hopen, bind_of_failed hopen']; rfl
    | panicked p => rw [bind_of_panicked hopen, bind_of_panicked hopen']; rfl
    | suspended => rw [bind_of_suspended hopen, bind_of_suspended hopen']; rfl

theorem mirrors_checkOut (client : Client) :
    Mirrors (bare (β := β)) (checkOut client) (checkOut client) := by
  cases client with
  | pool role => exact mirrors_onBackend (LawfulRecorder.acquire role)
  | transaction id => exact mirrors_within id Transaction.mirrors_checkOut

theorem mirrors_execute (text : String) (client : Client) :
    Mirrors (bare (β := β)) (execute text client) (execute text client) := by
  cases client with
  | pool role => exact mirrors_onBackend (LawfulRecorder.executeAlone role text)
  | transaction id => exact mirrors_within id (mirrors_send text)

theorem mirrors_statement (client : Client) (text : String) :
    Mirrors (bare (β := β)) (statement client text) (statement client text) :=
  ((mirrors_checkOut client).mapError _).bind fun _ =>
    (mirrors_execute text client).ensuring (bare_giveBack client)

/-! ## Units of work -/

theorem mirrors_runNested (id : TransactionId) {steps : Work (Database β τ) ε α}
    {steps' : Work (Database Store Session) ε α} (h : Mirrors bare steps steps') :
    Mirrors bare (runNested β id steps) (runNested Store id steps') := by
  refine ((mirrors_within id mirrors_openSavepoint).mapError _).bind fun sp => ?_
  refine h.outcome.bind fun o => ?_
  have hrollback := mirrors_within id (mirrors_rollbackTo (β := β) sp)
  cases o with
  | done a =>
    exact ((mirrors_within id (mirrors_release sp)).mapError _).bind fun _ => mirrors_done a
  | failed e =>
    refine hrollback.outcome.bind fun o => ?_
    cases o <;> exact mirrors_fail _
  | panicked p => exact hrollback.outcome.bind fun _ => mirrors_panic p
  | suspended =>
    refine (mirrors_modify fun d => ?_).bind fun _ => mirrors_pend
    exact bare_change (f := .abandon sp) id (fun _ => rfl) d

theorem mirrors_runOutermost {steps : TransactionId → Work (Database β τ) ε α}
    {steps' : TransactionId → Work (Database Store Session) ε α}
    (h : ∀ id, Mirrors bare (steps id) (steps' id)) :
    Mirrors bare (runOutermost β steps) (runOutermost Store steps') := by
  refine (mirrors_begin.mapError _).bind fun id => ?_
  refine (h id).outcome.bind fun o => ?_
  have hrollback := mirrors_within id (mirrors_rollback (β := β))
  cases o with
  | done a => exact ((mirrors_within id mirrors_commit).mapError _).bind fun _ => mirrors_done a
  | failed e =>
    refine hrollback.outcome.bind fun o => ?_
    cases o <;> exact mirrors_fail _
  | panicked p => exact hrollback.outcome.bind fun _ => mirrors_panic p
  | suspended => exact mirrors_pend

/-- Units of work whose steps mirror each other. -/
theorem mirrors_run (ctx : Context) {steps : Context → Work (Database β τ) ε α}
    {steps' : Context → Work (Database Store Session) ε α}
    (h : ∀ ctx, Mirrors bare (steps ctx) (steps' ctx)) :
    Mirrors bare (run β ctx steps) (run Store ctx steps') := by
  simp only [run]
  split
  · exact mirrors_runNested _ (h ctx)
  · exact mirrors_runOutermost fun id => h _

end Database

/-! ## Routines -/

variable [LawfulRecorder β]

theorem Deed.mirrors_perform {γ : Type} (deed : Deed γ) :
    Mirrors (Database.bare (β := β)) deed.perform deed.perform := by
  cases deed with
  | statement client p => exact Database.mirrors_statement client p.text
  | execute client p => exact Database.mirrors_execute p.text client
  | checkOut client => exact Database.mirrors_checkOut client
  | giveBack client => exact mirrors_modify (Database.bare_giveBack client)
  | look f =>
    intro d
    simp only [perform, Database.bare_bare]
  | inject failures =>
    exact Database.mirrors_onBackend (mirrors_modify (LawfulRecorder.inject failures))

/-- A routine does the same on a backend and on the store at its bottom. -/
theorem Routine.mirrors_play {ε α : Type} (r : Routine ε α) :
    Mirrors (Database.bare (β := β)) r.play r.play := by
  induction r with
  | done value => exact mirrors_done value
  | fail error => exact mirrors_fail error
  | panic payload => exact mirrors_panic payload
  | pend => exact mirrors_pend
  | act deed next ih => exact deed.mirrors_perform.outcome.bind ih
  | unit ctx body next ihbody ihnext => exact (Database.mirrors_run ctx ihbody).outcome.bind ihnext

end Mirror

/-! ## Stores under watch -/

namespace Watched

variable {faults : Nat → Bool}

instance : Recorder (Watched faults) Numbered where
  store := store
  session := Numbered.session
  inject failures b := { b with store := { b.store with failures } }

/-- Without faults, a store that is watched does what it does by itself. -/
instance : LawfulRecorder (Watched faultless) where
  acquire _ _ := rfl
  executeAlone _ _ _ := rfl
  begin role b := by
    -- The session is begun in the store and numbered, and then the number is forgotten.
    have hnumber (o : Outcome DatabaseError Session) :
        (o.map (Numbered.mk b.begun)).map Numbered.session = o := by
      cases o <;> rfl
    exact congrArg (·, (Store.begin role.name b.store).2) (hnumber _).symm
  execute _ _ := rfl
  commit _ _ := rfl
  rollback _ _ := rfl
  inject _ _ := rfl

end Watched

end SharedPages
