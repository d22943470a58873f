import SharedPages.Proofs.Preservation
import SharedPages.Proofs.Units
import SharedPages.Scenario.World
import SharedPages.Sql.Pages

/-!
# Statements that are sent

What a repository sends to a server are statements with parameters, one after the
other, until one of them is refused (`sendAll`). Around them are statements
without parameters, which open and close units of work. The server logs both, and
only the former take a reply. So what is seen of the server by looking at its
replies, or at the statements with parameters that it got (`Endpoint.bound`),
depends on nothing but the steps of a unit.

## Key results

- `Work.exists_of_bind_done`: work that is done was done step by step
- `Database.exists_steps_of_run`: a unit that is done has done its steps
- `Sql.bound_of_sendAll`: what a server got, once all statements were sent
-/

namespace SharedPages

open Scenario (World)

/-! ## Work that is done -/

namespace Work

variable {σ ε ε' α β : Type} {w : Work σ ε α} {s s' : σ}

/-- Work that is done was done step by step. -/
theorem exists_of_bind_done {next : α → Work σ ε β} {b : β}
    (h : (w >>= next) s = (.done b, s')) :
    ∃ a s₁, w s = (.done a, s₁) ∧ next a s₁ = (.done b, s') := by
  cases hw : w s with
  | mk o s₁ =>
    cases o with
    | done a =>
      rw [bind_of_done hw] at h
      exact ⟨a, s₁, rfl, h⟩
    | failed e => rw [bind_of_failed hw] at h; cases h
    | panicked p => rw [bind_of_panicked hw] at h; cases h
    | suspended => rw [bind_of_suspended hw] at h; cases h

/-- Work cannot be done whose last step cannot. -/
theorem bind_not_done {next : α → Work σ ε β} {b : β} (h : ∀ a s, (next a s).1 ≠ .done b) (s : σ) :
    ((w >>= next) s).1 ≠ .done b := by
  intro hdone
  obtain ⟨a, s₁, -, hnext⟩ := exists_of_bind_done (Prod.ext hdone rfl)
  exact h a s₁ (congrArg Prod.fst hnext)

/-- Work that looked at an outcome and is done, where no outcome but one that is done leads to
    that. -/
theorem exists_of_outcome_done {next : Outcome ε α → Work σ ε' β} {b : β}
    (h : (w.outcome >>= next) s = (.done b, s'))
    (hnext : ∀ o s₁, (∀ a, o ≠ .done a) → (next o s₁).1 ≠ .done b) :
    ∃ a s₁, w s = (.done a, s₁) ∧ next (.done a) s₁ = (.done b, s') := by
  rw [bind_outcome] at h
  cases hw : (w s).1 with
  | done a =>
    rw [hw] at h
    exact ⟨a, (w s).2, Prod.ext hw rfl, h⟩
  | failed e => exact absurd (congrArg Prod.fst h) (hnext _ _ (by simp [hw]))
  | panicked p => exact absurd (congrArg Prod.fst h) (hnext _ _ (by simp [hw]))
  | suspended => exact absurd (congrArg Prod.fst h) (hnext _ _ (by simp [hw]))

end Work

/-! ## What is seen of a backend -/

/-- Nothing that opens or closes units of work and connections changes what is seen of a backend. -/
structure Backend.Hides {β τ γ : Type} [Backend β τ] (see : β → γ) : Prop where
  acquire (role : PoolRole) (b : β) : see ((Backend.acquire role : Work β _ _) b).2 = see b
  begin (role : PoolRole) (b : β) : see ((Backend.begin role : Work β _ τ) b).2 = see b
  execute (text : String) (s : τ × β) : see ((Backend.execute text : Work _ _ _) s).2.2 = see s.2
  commit (session : τ) (b : β) : see ((Backend.commit session : Work β _ _) b).2 = see b

section Hides

open Work

variable {β τ γ ε α : Type} [Backend β τ] {see : β → γ}

namespace Transaction

variable {x : γ}

omit [Backend β τ] in
private theorem keeps_unlessBusy :
    (unlessBusy : Work (Transaction τ × β) _ _).Keeps (see ·.2 = x) := by
  rintro ⟨t, b⟩ h
  simp only [unlessBusy]
  split <;> exact h

omit [Backend β τ] in
private theorem keeps_ifActive :
    (ifActive : Work (Transaction τ × β) _ _).Keeps (see ·.2 = x) := by
  rintro ⟨t, b⟩ h
  simp only [ifActive]
  split <;> exact h

omit [Backend β τ] in
private theorem keeps_update (f : Transaction τ → Transaction τ) :
    (update f : Work (Transaction τ × β) _ _).Keeps (see ·.2 = x) := fun _ h => h

omit [Backend β τ] in
private theorem keeps_take : (take : Work (Transaction τ × β) _ _).Keeps (see ·.2 = x) := by
  rintro ⟨t, b⟩ h
  simp only [take]
  split <;> exact h

variable (h : Backend.Hides see)
include h

private theorem keeps_send (text : String) :
    (send text : Work (Transaction τ × β) _ _).Keeps (see ·.2 = x) := by
  rintro ⟨t, b⟩ hb
  simp only [send]
  split
  · exact (h.execute text _).trans hb
  · exact hb

private theorem keeps_settle : (settle : Work (Transaction τ × β) _ _).Keeps (see ·.2 = x) := by
  rintro ⟨t, b⟩ hb
  simp only [settle]
  split
  · exact ((keeps_send h _).mapError _).bind (fun _ => keeps_update _) _ hb
  · exact hb

theorem keeps_checkOut : (checkOut : Work (Transaction τ × β) _ _).Keeps (see ·.2 = x) :=
  keeps_unlessBusy.bind fun _ => (keeps_settle h).bind fun _ => keeps_ifActive.bind fun _ =>
    keeps_update _

theorem keeps_openSavepoint :
    (openSavepoint : Work (Transaction τ × β) _ _).Keeps (see ·.2 = x) :=
  keeps_unlessBusy.bind fun _ => (keeps_settle h).bind fun _ => keeps_ifActive.bind fun _ =>
    (keeps_update _).bind fun _ => Keeps.bind (fun _ hb => hb) fun _ =>
      ((keeps_send h _).mapError _).bind fun _ => keeps_done _

theorem keeps_release (sp : Savepoint) :
    (release sp : Work (Transaction τ × β) _ _).Keeps (see ·.2 = x) :=
  (keeps_unlessBusy.bind fun _ => (keeps_settle h).bind fun _ => keeps_send h _).mapError _

theorem keeps_commit : (commit : Work (Transaction τ × β) _ _).Keeps (see ·.2 = x) :=
  keeps_unlessBusy.bind fun _ => (keeps_settle h).bind fun _ => keeps_take.bind fun session =>
    fun _ hb => (h.commit session _).trans hb

end Transaction

namespace Database

variable {id : TransactionId} (h : Backend.Hides see)

omit [Backend β τ] in
/-- Work on a transaction changes nothing that is seen, if it does not on what it is made of. -/
private theorem see_within {w : Work (Transaction τ × β) DatabaseError α}
    (hw : ∀ x, w.Keeps (see ·.2 = x)) (d : Database β τ) :
    see (within id w d).2.backend = see d.backend := by
  simp only [within]
  cases d.transactions[id.index]? with
  | none => rfl
  | some t => exact hw (see d.backend) (t, d.backend) rfl

omit [Backend β τ] in
theorem backend_giveBack (client : Client) (d : Database β τ) :
    (giveBack client d).backend = d.backend := by
  cases client <;> rfl

include h

theorem see_checkOut (client : Client) (d : Database β τ) :
    see ((checkOut client : Work (Database β τ) _ _) d).2.backend = see d.backend := by
  cases client with
  | pool role => exact h.acquire role d.backend
  | transaction id => exact see_within (fun _ => Transaction.keeps_checkOut h) d

theorem see_openSavepoint (id : TransactionId) (d : Database β τ) :
    see (within id Transaction.openSavepoint d).2.backend = see d.backend :=
  see_within (fun _ => Transaction.keeps_openSavepoint h) d

theorem see_begin (d : Database β τ) :
    see ((begin : Work (Database β τ) _ _) d).2.backend = see d.backend := by
  have hbegin : ((begin : Work (Database β τ) _ _)).Keeps (see ·.backend = see d.backend) :=
    Keeps.bind (fun d' hd => (h.begin .write d'.backend).trans hd) fun _ _ hd => hd
  exact hbegin d rfl

variable {ℓ : Type} {ctx : Context} {id : TransactionId} {w w' : World β τ ℓ} {a : α}

/-- What opens and commits a transaction around steps is not seen. -/
theorem exists_steps_of_runOutermost {steps : TransactionId → Work (World β τ ℓ) ε α}
    (hrun : runOutermost β steps w = (.done a, w')) :
    ∃ id w₁ w₂, see w₁.database.backend = see w.database.backend ∧ w₁.supply = w.supply ∧
      steps id w₁ = (.done a, w₂) ∧ see w'.database.backend = see w₂.database.backend := by
  obtain ⟨id, w₁, hopen, hrun⟩ := exists_of_bind_done hrun
  have hw₁ : _ = w₁ := congrArg Prod.snd hopen
  obtain ⟨a', w₂, hsteps, hrun⟩ := exists_of_outcome_done hrun (by
    -- steps that are rolled back do not make a unit that is done
    intro o s₁ ho
    cases o with
    | done a => exact absurd rfl (ho a)
    | failed e => exact bind_not_done (fun o s => by cases o <;> simp [Work.fail]) s₁
    | panicked p => exact bind_not_done (fun o s => by simp [Work.panic]) s₁
    | suspended => simp [Work.pend])
  obtain ⟨_, w₃, hclose, hrun⟩ := exists_of_bind_done hrun
  cases hrun
  have hw₃ : _ = w' := congrArg Prod.snd hclose
  refine ⟨id, w₁, w₂, ?_, ?_, hsteps, ?_⟩
  · rw [← hw₁]
    exact see_begin h w.database
  · rw [← hw₁]
    rfl
  · rw [← hw₃]
    exact see_within (fun _ => Transaction.keeps_commit h) w₂.database

/-- What opens and releases a savepoint around steps is not seen. -/
theorem exists_steps_of_runNested {steps : Work (World β τ ℓ) ε α}
    (hrun : runNested β id steps w = (.done a, w')) :
    ∃ w₁ w₂, see w₁.database.backend = see w.database.backend ∧ w₁.supply = w.supply ∧
      steps w₁ = (.done a, w₂) ∧ see w'.database.backend = see w₂.database.backend := by
  obtain ⟨sp, w₁, hopen, hrun⟩ := exists_of_bind_done hrun
  have hw₁ : _ = w₁ := congrArg Prod.snd hopen
  obtain ⟨a', w₂, hsteps, hrun⟩ := exists_of_outcome_done hrun (by
    -- nor do steps that go back to the savepoint, or leave it to others to do so
    intro o s₁ ho
    cases o with
    | done a => exact absurd rfl (ho a)
    | failed e => exact bind_not_done (fun o s => by cases o <;> simp [Work.fail]) s₁
    | panicked p => exact bind_not_done (fun o s => by simp [Work.panic]) s₁
    | suspended => exact bind_not_done (fun o s => by simp [Work.pend]) s₁)
  obtain ⟨_, w₃, hclose, hrun⟩ := exists_of_bind_done hrun
  cases hrun
  have hw₃ : _ = w' := congrArg Prod.snd hclose
  refine ⟨w₁, w₂, ?_, ?_, hsteps, ?_⟩
  · rw [← hw₁]
    exact see_openSavepoint h id w.database
  · rw [← hw₁]
    rfl
  · rw [← hw₃]
    exact see_within (fun _ => Transaction.keeps_release h sp) w₂.database

/-- What a unit of work does around its steps is not seen. -/
theorem exists_steps_of_run {steps : Context → Work (World β τ ℓ) ε α}
    (hrun : run β ctx steps w = (.done a, w')) :
    ∃ ctx' w₁ w₂, see w₁.database.backend = see w.database.backend ∧ w₁.supply = w.supply ∧
      steps ctx' w₁ = (.done a, w₂) ∧ see w'.database.backend = see w₂.database.backend := by
  simp only [run] at hrun
  cases hctx : ctx.transaction? with
  | some id =>
    rw [hctx] at hrun
    exact ⟨ctx, exists_steps_of_runNested h hrun⟩
  | none =>
    rw [hctx] at hrun
    obtain ⟨id, hsteps⟩ := exists_steps_of_runOutermost h hrun
    exact ⟨ctx.withTransaction id, hsteps⟩

variable {client : Client} {fault : DatabaseError → ε} {body : Work (World β τ ℓ) ε α}

/-- What is done with a connection that was checked out, apart from the work, is not seen. -/
theorem exists_body_of_withConnection
    (hwork : withConnection β client fault body w = (.done a, w')) :
    ∃ w₁ w₂, see w₁.database.backend = see w.database.backend ∧ w₁.supply = w.supply ∧
      body w₁ = (.done a, w₂) ∧ see w'.database.backend = see w₂.database.backend := by
  obtain ⟨_, w₁, hcheckOut, hwork⟩ := exists_of_bind_done hwork
  have hw₁ : _ = w₁ := congrArg Prod.snd hcheckOut
  obtain ⟨hbody, hgiveBack⟩ := Prod.mk.inj hwork
  refine ⟨w₁, (body w₁).2, ?_, ?_, Prod.ext hbody rfl, ?_⟩
  · rw [← hw₁]
    exact see_checkOut h client w.database
  · rw [← hw₁]
    rfl
  · rw [← hgiveBack]
    exact congrArg see (backend_giveBack client _)

/-- Work is done with a connection that can be checked out. -/
theorem exists_withConnection_of_body
    (hcheckOut : ((checkOut client : Work (Database β τ) _ _) w.database).1 = .done ()) :
    ∃ w₁ : World β τ ℓ, see w₁.database.backend = see w.database.backend ∧
      ∀ w₂, body w₁ = (.done a, w₂) → ∃ w', withConnection β client fault body w = (.done a, w') ∧
        see w'.database.backend = see w₂.database.backend := by
  have hon : (((checkOut client : Work (Database β τ) _ _).mapError fault).on : Work _ ε Unit) w =
      (.done (), { w with database := (checkOut client w.database).2 }) := by
    have hmap := mapError_of_done (Prod.ext hcheckOut rfl) fault
    simp only [Work.on]
    exact congrArg (fun r => (r.1, Holds.set r.2 w)) hmap
  refine ⟨{ w with database := (checkOut client w.database).2 },
    see_checkOut h client w.database, fun w₂ hbody => ?_⟩
  refine ⟨{ w₂ with database := giveBack client w₂.database }, ?_,
    congrArg see (backend_giveBack client _)⟩
  rw [withConnection, bind_of_done hon]
  simp only [Work.ensuring, hbody]
  rfl

end Database

end Hides

/-! ## Statements with parameters -/

namespace Sql

/-- The statements with parameters that the server got, oldest first. -/
def Endpoint.bound (e : Endpoint) : List Statement :=
  (e.log.reverse.map (·.statement)).filter (·.params ≠ [])

theorem Endpoint.bound_note (pool : PoolRole) (s : Statement) (e : Endpoint) :
    (e.note pool s).bound = e.bound ++ if s.params = [] then [] else [s] := by
  by_cases hs : s.params = [] <;> simp [bound, note, hs]

/-- Opening and closing units of work takes no reply and binds no parameters. -/
theorem Endpoint.hides_bound : Backend.Hides fun e : Endpoint => (e.bound, e.replies) := by
  -- Statements without values are noted, but they bind nothing and use up no reply.
  have hplain (pool : PoolRole) (text : String) (e : Endpoint) :
      ((plain pool text e).2.bound, (plain pool text e).2.replies) = (e.bound, e.replies) := by
    have hsame : ((e.note pool { text }).bound, (e.note pool { text }).replies) =
        (e.bound, e.replies) := by
      rw [bound_note]
      simp [note]
    simp only [plain]
    split <;> exact hsame
  have hopen (pool : PoolRole) (e : Endpoint) : (unlessClosed pool e).2 = e := by
    simp only [unlessClosed]
    split <;> rfl
  refine ⟨fun pool e => ?_, fun pool e => ?_, fun text s => hplain s.1 text s.2,
    fun pool e => hplain pool "COMMIT" e⟩
  · show ((unlessClosed pool e).2.bound, (unlessClosed pool e).2.replies) = _
    rw [hopen]
  have hbegin : (Backend.begin pool : Work Endpoint DatabaseError PoolRole).Keeps
      fun e' => (e'.bound, e'.replies) = (e.bound, e.replies) := by
    refine Work.Keeps.bind (fun e' he => ?_) fun _ => Work.Keeps.bind (fun e' he => ?_) fun _ =>
      Work.keeps_done pool
    · rwa [hopen pool e']
    · exact (hplain pool "BEGIN" e').trans he
  exact hbegin e rfl

/-- Sends statements, one after the other. -/
def sendAll (client : Client) : List Statement → Work (Database Endpoint PoolRole) PageError Unit
  | [] => return ()
  | s :: rest => do
    let _ ← Pages.send client s
    sendAll client rest

section

variable {ℓ α β : Type} {c : Client} {w w' : World Endpoint PoolRole ℓ}

/-- Whatever comes of a statement, the server got it. -/
theorem bound_send {s : Statement} (hs : s.params ≠ []) (d : Database Endpoint PoolRole) :
    (Pages.send c s d).2.backend.bound = d.backend.bound ++ [s] := by
  have hquery (e : Endpoint) : (Endpoint.query (poolOf c) s e).2.bound = e.bound ++ [s] := by
    have hnote := e.bound_note (poolOf c) s
    rw [if_neg hs] at hnote
    simp only [Endpoint.query]
    split <;> exact hnote
  exact hquery d.backend

/-- Sending a statement is to have the server answer it. -/
theorem send_of_query {s : Statement} {d : Database Endpoint PoolRole}
    {o : Outcome DriverError (List Row)} {e : Endpoint}
    (h : Endpoint.query (poolOf c) s d.backend = (o, e)) :
    Pages.send c s d = (o.mapError (.repository ∘ causeOf), { d with backend := e }) := by
  simp only [Pages.send, fetch, Work.on_self, Work.mapError, Work.mapOutcome, Database.onBackend, h]

/-- A statement takes the next reply. -/
theorem exists_send_of_rows {rows : List Row} {replies : List Reply}
    (h : w.database.backend.replies = .rows rows :: replies) {s : Statement} (hs : s.params ≠ []) :
    ∃ w', (Pages.send c s : Work (World Endpoint PoolRole ℓ) _ _) w = (.done rows, w') ∧
      w'.database.backend.replies = replies ∧
      w'.database.backend.bound = w.database.backend.bound ++ [s] := by
  have hquery : Endpoint.query (poolOf c) s w.database.backend =
      (.done rows, { w.database.backend.note (poolOf c) s with replies }) := by
    simp only [Endpoint.query, h]
  have hsend := send_of_query hquery
  have hbound := bound_send (c := c) hs w.database
  rw [hsend] at hbound
  refine ⟨{ w with database := (Pages.send c s w.database).2 }, ?_, ?_, ?_⟩
  · exact congrArg (fun r => (r.1, { w with database := (Pages.send c s w.database).2 })) hsend
  · rw [hsend]
  · rw [hsend]
    exact hbound

/-- Some statements and then others are sent as one list. -/
theorem sendAll_append (ss ss' : List Statement) (d : Database Endpoint PoolRole) :
    sendAll c (ss ++ ss') d = (sendAll c ss >>= fun _ => sendAll c ss') d := by
  induction ss generalizing d with
  | nil => rfl
  | cons s ss ih =>
    rw [List.cons_append, sendAll, sendAll]
    simp only [bind, Work.andThen]
    cases Pages.send c s d with
    | mk o d₁ =>
      cases o with
      | done rows => exact ih d₁
      | failed e => rfl
      | panicked p => rfl
      | suspended => rfl

/-- Once all statements were sent, the server got all of them, in this order. -/
theorem bound_of_sendAll {ss : List Statement} (hss : ∀ s ∈ ss, s.params ≠ [])
    {d d' : Database Endpoint PoolRole} (h : sendAll c ss d = (.done (), d')) :
    d'.backend.bound = d.backend.bound ++ ss := by
  induction ss generalizing d with
  | nil =>
    cases h
    rw [List.append_nil]
  | cons s ss ih =>
    obtain ⟨rows, d₁, hsend, hrest⟩ := Work.exists_of_bind_done h
    have hbound := bound_send (c := c) (hss s List.mem_cons_self) d
    rw [hsend] at hbound
    rw [ih (fun s hs => hss s (List.mem_cons_of_mem _ hs)) hrest, hbound, List.append_assoc]
    rfl

/-! ## Work that only sends -/

/-- All that the work does with the database is to send these statements, until one is refused. -/
def Sends (c : Client) (x : Work (World Endpoint PoolRole ℓ) PageError α)
    (ss : List Statement) (w : World Endpoint PoolRole ℓ) : Prop :=
  ((x w).1.map fun _ => (), (x w).2.database) = sendAll c ss w.database

theorem sends_done (a : α) (w : World Endpoint PoolRole ℓ) : Sends c (Work.done a) [] w := rfl

theorem sends_send (s : Statement) (w : World Endpoint PoolRole ℓ) :
    Sends c (Pages.send c s) [s] w := by
  have hsend : (Pages.send c s : Work (World Endpoint PoolRole ℓ) _ _) w =
      ((Pages.send c s w.database).1,
        { w with database := (Pages.send c s w.database).2 }) := rfl
  simp only [Sends, hsend, sendAll, bind, Work.andThen]
  cases Pages.send c s w.database with
  | mk o d => cases o <;> rfl

/-- One work after the other sends its statements. -/
theorem Sends.bind {x : Work (World Endpoint PoolRole ℓ) PageError α}
    {next : α → Work (World Endpoint PoolRole ℓ) PageError β} {l m : List Statement}
    (hx : Sends c x l w) (hnext : ∀ a w', x w = (.done a, w') → Sends c (next a) m w') :
    Sends c (x >>= next) (l ++ m) w := by
  rw [Sends, sendAll_append]
  cases hw : x w with
  | mk o w' =>
    rw [Sends, hw] at hx
    cases o with
    | done a =>
      rw [Work.bind_of_done hw, Work.bind_of_done hx.symm]
      exact hnext a w' hw
    | failed e => rw [Work.bind_of_failed hw, Work.bind_of_failed hx.symm]; rfl
    | panicked p => rw [Work.bind_of_panicked hw, Work.bind_of_panicked hx.symm]; rfl
    | suspended => rw [Work.bind_of_suspended hw, Work.bind_of_suspended hx.symm]; rfl

/-- Once such work is done, the server got all statements. -/
theorem Sends.bound_of_done {x : Work (World Endpoint PoolRole ℓ) PageError α} {ss : List Statement}
    (hx : Sends c x ss w) (hss : ∀ s ∈ ss, s.params ≠ []) {a : α} (hdone : x w = (.done a, w')) :
    w'.database.backend.bound = w.database.backend.bound ++ ss := by
  rw [Sends, hdone] at hx
  exact bound_of_sendAll hss hx.symm

end

end Sql

end SharedPages
