import SharedPages.Proofs.SavedPage
import SharedPages.Proofs.UnitLog

/-!
# What the server gets while a page is saved

A page is saved by many statements in one unit of work, and the server may refuse
any of them. This file says what the server gets then, down to the last statement:
what opens the unit, the statements of the page up to the one that is refused, and
what undoes the unit. Nothing else is sent, and the unit fails with the refusal.
If none is refused, all of them are sent and the unit is closed.

## Key results

- `Sql.sendAll_of_refused`, `Sql.sendAll_of_answered`: how far a list of statements comes
- `Sql.save_logged`: all that is sent to save a page, and what comes of it
-/

namespace SharedPages

open Scenario (World)

namespace Sql

/-! ## Statements with parameters -/

/-- The server after it got some statements with parameters, each of which took a reply. -/
def Endpoint.served (pool : PoolRole) (ss : List Statement) (e : Endpoint) : Endpoint :=
  { e.got (ss.map (.mk pool)) with replies := e.replies.drop ss.length }

theorem Endpoint.served_served (pool : PoolRole) (ss ss' : List Statement) (e : Endpoint) :
    (e.served pool ss).served pool ss' = e.served pool (ss ++ ss') := by
  simp [served, got]

@[simp] theorem Endpoint.answer_served (pool : PoolRole) (ss : List Statement) (e : Endpoint) :
    (e.served pool ss).answer = e.answer := rfl

section

variable {c : Client} {d : Database Endpoint PoolRole} {s : Statement}

theorem send_of_refused {r : Refusal} (h : d.backend.replies[0]? = some (.refused r)) :
    Pages.send c s d = (.failed (.repository (causeOf r.error)),
      { d with backend := d.backend.served (poolOf c) [s] }) := by
  have hquery : Endpoint.query (poolOf c) s d.backend =
      (.failed r.error, d.backend.served (poolOf c) [s]) := by
    cases hreplies : d.backend.replies with
    | nil => simp [hreplies] at h
    | cons reply replies =>
      obtain rfl : reply = .refused r := by simpa [hreplies] using h
      simp only [Endpoint.query, Endpoint.served, hreplies]
      rfl
  exact send_of_query hquery

/-- When the replies run out, statements are answered with no rows. -/
theorem exists_send_of_answered (h : ∀ r, .refused r ∉ d.backend.replies.take 1) :
    ∃ rows, Pages.send c s d =
      (.done rows, { d with backend := d.backend.served (poolOf c) [s] }) := by
  -- A server without replies left answers with no rows.
  obtain ⟨rows, hquery⟩ : ∃ rows, Endpoint.query (poolOf c) s d.backend =
      (.done rows, d.backend.served (poolOf c) [s]) := by
    cases hreplies : d.backend.replies with
    | nil =>
      refine ⟨[], ?_⟩
      simp only [Endpoint.query, Endpoint.served, hreplies, List.drop_nil]
      rw [← hreplies]
      rfl
    | cons reply replies =>
      cases reply with
      | refused r => exact absurd (by rw [hreplies]; exact List.mem_cons_self) (h r)
      | rows rows =>
        refine ⟨rows, ?_⟩
        simp only [Endpoint.query, Endpoint.served, hreplies]
        rfl
  exact ⟨rows, send_of_query hquery⟩

/-- Statements are all sent if none of them is refused. -/
theorem sendAll_of_answered {ss : List Statement}
    (h : ∀ r, .refused r ∉ d.backend.replies.take ss.length) :
    sendAll c ss d = (.done (), { d with backend := d.backend.served (poolOf c) ss }) := by
  induction ss generalizing d with
  | nil => rfl
  | cons s ss ih =>
    rw [List.length_cons, Nat.add_comm, List.take_add] at h
    obtain ⟨rows, hsend⟩ := exists_send_of_answered (c := c) (s := s)
      fun r hr => h r (List.mem_append_left _ hr)
    rw [sendAll, Work.bind_of_done hsend, ih fun r hr => h r (List.mem_append_right _ hr)]
    rw [Endpoint.served_served]
    rfl

/-- Statements are sent up to the first one that is refused, and none after it. -/
theorem sendAll_of_refused {ss : List Statement} {k : Nat} {r : Refusal} (hlt : k < ss.length)
    (hrefused : d.backend.replies[k]? = some (.refused r))
    (hfirst : ∀ r', .refused r' ∉ d.backend.replies.take k) :
    sendAll c ss d = (.failed (.repository (causeOf r.error)),
      { d with backend := d.backend.served (poolOf c) (ss.take (k + 1)) }) := by
  -- The list is what is answered, the statement that is refused, and what is never sent.
  have hlength : (ss.take k).length = k := List.length_take_of_le (Nat.le_of_lt hlt)
  have hbefore : sendAll c (ss.take k) d = _ := sendAll_of_answered (by rwa [hlength])
  have hsend := send_of_refused (c := c) (s := ss[k]) (r := r)
    (d := { d with backend := d.backend.served (poolOf c) (ss.take k) })
    (by rw [Endpoint.served, hlength, List.getElem?_drop]; exact hrefused)
  conv_lhs => rw [← List.take_append_drop k ss, List.drop_eq_getElem_cons hlt]
  rw [sendAll_append, Work.bind_of_done hbefore, sendAll, Work.bind_of_failed hsend,
    Endpoint.served_served, List.take_append_getElem hlt]

end

variable {ℓ : Type} {ctx : Context} {w : World Endpoint PoolRole ℓ}

/-! ## What is sent to save a page -/

namespace Bracket

/-- The server after such a unit, if its steps sent some statements with parameters, and `last` was
    sent after them. -/
def around (b : Bracket) (ss : List Statement) (last : String) (e : Endpoint) : Endpoint :=
  { e.got (b.opening.map (.plain b.pool) ++ ss.map (.mk .write) ++ [.plain b.pool last]) with
    replies := e.replies.drop ss.length }

theorem around_eq (b : Bracket) (ss : List Statement) (last : String) (e : Endpoint) :
    ((e.got (b.opening.map (.plain b.pool))).served .write ss).got [.plain b.pool last] =
      b.around ss last e := by
  simp [around, Endpoint.served, Endpoint.got]

end Bracket

/-- The steps of the unit of work that saves a page. -/
def saveSteps (p : Page) (ctx : Context) : Work (World Endpoint PoolRole ℓ) PageError Unit :=
  withConnection .write ctx .repository (Pages.write · p)

/-- Writing a page on the connection of a transaction that is at rest is to send statements, and
    the transaction is at rest again when the connection was given back. -/
theorem write_logged {id : TransactionId} {t : Transaction PoolRole} {pool : PoolRole}
    {e₁ e₂ : Endpoint} {o : Outcome PageError Unit} (hctx : ctx.transaction? = some id)
    (hresting : t.Resting pool) (hview : w.database.view id = some (t, e₁)) (p : Page)
    (hsent : ∀ d : Database Endpoint PoolRole, d.backend = e₁ →
      sendAll (.transaction id) (savePage p w.supply) d = (o, { d with backend := e₂ })) :
    ∃ w₂, saveSteps p ctx w = (o, w₂) ∧ w₂.database.view id = some (t, e₂) := by
  have hclient : Client.ofContext .write ctx = .transaction id := by
    simp only [Client.ofContext, hctx]
  obtain ⟨d₁, hcheckOut, hview₁⟩ := Database.within_of_view hview Transaction.checkOut
  rw [Transaction.checkOut_resting hresting] at hcheckOut hview₁
  -- The statements are sent while the transaction is busy.
  have hwrite := sends_write (c := .transaction id) p { w with database := d₁ }
  rw [Sends, hsent d₁ (Database.eq_of_view hview₁).2] at hwrite
  cases hsteps : Pages.write (.transaction id) p { w with database := d₁ } with
  | mk o₂ w₂ =>
    rw [hsteps] at hwrite
    obtain ⟨ho, hdatabase⟩ := Prod.mk.inj hwrite
    obtain rfl : o₂ = o := by
      rw [← ho]
      cases o₂ <;> rfl
    have hview₂ : w₂.database.view id = some ({ t with busy := true }, e₂) := by
      rw [hdatabase]
      simp only [Database.view, (Database.eq_of_view hview₁).1, Option.map_some]
    have hback := Database.view_change hview₂ Transaction.giveBack
    refine ⟨{ w₂ with database := Database.giveBack (.transaction id) w₂.database }, ?_, ?_⟩
    · rw [saveSteps, withConnection, hclient]
      exact Database.withConnection_of_done_on hcheckOut hsteps
    · obtain ⟨session, issued, abandoned, busy⟩ := t
      cases hresting.idle
      exact hback

/-- What comes of saving a page if `ss` is what is sent of it. -/
theorem save_of_sent {b : Bracket} (h : b.Opens ctx w.database) (p : Page) {ss : List Statement}
    {o : Outcome PageError Unit}
    (hsent : ∀ (c : Client) (d : Database Endpoint PoolRole),
      d.backend.replies = w.database.backend.replies →
      sendAll c (savePage p w.supply) d =
        (o, { d with backend := d.backend.served (poolOf c) ss })) :
    let e := w.database.backend
    let saved := (Pages.repository : PageRepository (World Endpoint PoolRole ℓ)).save ctx p w
    (o = .done () → saved.2.database.backend = b.around ss b.close e ∧
      (e.refusal? b.pool b.close = none → saved.1 = .done ()) ∧
      (e.refusal? b.pool b.close ≠ none → ∃ err, saved.1 = .failed err)) ∧
    ∀ err, o = .failed err → saved.2.database.backend = b.around ss b.undo e ∧
      (e.refusal? b.pool b.undo = none → saved.1 = .failed err) ∧
      (e.refusal? b.pool b.undo ≠ none →
        ∃ cause, saved.1 = .failed (.transaction (.rollbackFailed err cause))) := by
  intro e saved
  obtain ⟨ctx₁, id, t, w₁, hctx, hresting, hsupply, hview, hrun⟩ :=
    h.encloses (saveSteps p)
  rw [← hsupply] at hsent
  obtain ⟨w₂, hsteps, hview₂⟩ := write_logged hctx hresting hview p fun d hd =>
    (hsent (.transaction id) d (by rw [hd]; rfl)).trans (by rw [hd])
  obtain ⟨hdone, hfailed⟩ := hrun _ w₂ hview₂
  -- Replies and refusals are the server's own, so what ends the unit is answered as it was before.
  refine ⟨?_, ?_⟩
  · rintro rfl
    obtain ⟨f, w', hunit, hbackend⟩ := hdone () hsteps
    have hlogged : w'.database.backend = b.around ss b.close e :=
      hbackend.trans (b.around_eq ss b.close e)
    rw [Endpoint.answer_served, Endpoint.answer_got] at hunit
    by_cases haccepted : e.refusal? b.pool b.close = none
    · rw [Endpoint.answer_of_accepted haccepted] at hunit
      have hsave : saved = _ := Work.mapError_of_done (Work.mapError_of_done hunit _) _
      rw [hsave]
      exact ⟨hlogged, fun _ => rfl, fun hrefused => absurd haccepted hrefused⟩
    · obtain ⟨cause, hcause⟩ := Endpoint.answer_of_refused haccepted
      rw [hcause] at hunit
      have hsave : saved = _ := Work.mapError_of_failed (Work.mapError_of_failed hunit _) _
      rw [hsave]
      exact ⟨hlogged, fun h => absurd h haccepted, fun _ => ⟨_, rfl⟩⟩
  · rintro err rfl
    obtain ⟨f, w', hunit, hbackend⟩ := hfailed err hsteps
    have hlogged : w'.database.backend = b.around ss b.undo e :=
      hbackend.trans (b.around_eq ss b.undo e)
    rw [Endpoint.answer_served, Endpoint.answer_got] at hunit
    have hsave : saved = _ := Work.mapError_of_failed (Work.mapError_of_failed hunit
      (·.mapCause Cause.database)) PageError.ofTransaction
    rw [hsave]
    refine ⟨hlogged, fun haccepted => ?_, fun hrefused => ?_⟩
    · rw [Endpoint.answer_of_accepted haccepted]
      rfl
    · obtain ⟨cause, hcause⟩ := Endpoint.answer_of_refused hrefused
      rw [hcause]
      exact ⟨_, rfl⟩

/-- All that the server gets when a page is saved, in whatever context and for whatever page, and
    what comes of it. If the unit of work can be opened, the server gets the statements of the page
    up to the first one that it refuses, with what opens the unit before them and what undoes it
    after them, and that is all. Then saving fails with what was refused, unless undoing is refused
    as well. If no statement is refused, the server gets all of them, and what closes the unit. If
    the unit cannot be opened, the server gets none of them. -/
theorem save_logged (ctx : Context) (p : Page) (w : World Endpoint PoolRole ℓ) :
    let e := w.database.backend
    let ss := savePage p w.supply
    let saved := (Pages.repository : PageRepository (World Endpoint PoolRole ℓ)).save ctx p w
    (∀ b : Bracket, b.Opens ctx w.database →
      (∀ k r, k < ss.length → e.replies[k]? = some (.refused r) →
        (∀ r', .refused r' ∉ e.replies.take k) →
        let err : PageError := .repository (.database (.classify r.error))
        saved.2.database.backend = b.around (ss.take (k + 1)) b.undo e ∧
        (e.refusal? b.pool b.undo = none → saved.1 = .failed err) ∧
        (e.refusal? b.pool b.undo ≠ none →
          ∃ cause, saved.1 = .failed (.transaction (.rollbackFailed err cause)))) ∧
      ((∀ r, .refused r ∉ e.replies.take ss.length) →
        saved.2.database.backend = b.around ss b.close e ∧
        (e.refusal? b.pool b.close = none → saved.1 = .done ()) ∧
        (e.refusal? b.pool b.close ≠ none → ∃ err, saved.1 = .failed err))) ∧
    ((∀ b : Bracket, ¬ b.Opens ctx w.database) →
      (∃ cause, saved.1 = .failed (.transaction (.begin cause))) ∧
      saved.2.database.backend.bound = e.bound ∧
      saved.2.database.backend.replies = e.replies) := by
  intro e ss saved
  refine ⟨fun b hopens => ⟨fun k r hlt hrefused hfirst => ?_, fun hanswered => ?_⟩,
    fun hclosed => ?_⟩
  · exact (save_of_sent hopens p fun c d hd => sendAll_of_refused hlt (by rwa [hd])
      (by rwa [hd])).2 _ rfl
  · exact (save_of_sent hopens p fun c d hd => sendAll_of_answered (by rwa [hd])).1 rfl
  · obtain ⟨cause, w', hunit, hseen⟩ := Bracket.run_of_not_opens (saveSteps p) hclosed
    have hsave : saved = _ := Work.mapError_of_failed (Work.mapError_of_failed hunit
      (·.mapCause Cause.database)) PageError.ofTransaction
    rw [hsave]
    exact ⟨⟨_, rfl⟩, hseen⟩

/-- The second link of a page is refused, which is saved inside of a unit of work that has opened
    two savepoints before. -/
theorem save_logged_nested :
    let ann : User := .new ⟨.ofNat 1⟩ "ann"
    let bob : User := .google ⟨.ofNat 4⟩ "bob"
    let p : Page := ⟨⟨.ofNat 7⟩, "Title", ann, "code",
      [⟨"a", "", .ofNat 1⟩, ⟨"b", "note", .ofNat 2⟩, ⟨"c", "", .ofNat 3⟩], [bob]⟩
    let e : Endpoint := { replies := [.rows [], .rows [], .rows [], .refused ⟨"23505", "twice"⟩] }
    let w : World Endpoint PoolRole Call :=
      { database := ⟨e, #[{ session := some .write, issued := 2 }]⟩ }
    let ctx := Context.background.withTransaction ⟨0⟩
    let saved := (Pages.repository : PageRepository (World Endpoint PoolRole Call)).save ctx p w
    (savePage p w.supply).length = 7 ∧
    saved.2.database.backend.log.reverse =
      .plain .write "SAVEPOINT sp_0003" :: ((savePage p w.supply).take 4).map (.mk .write) ++
        [.plain .write "ROLLBACK TO SAVEPOINT sp_0003"] ∧
    saved.1 = .failed (.repository (.database (.duplicateEntry "twice"))) := by
  intro ann bob p e w ctx saved
  have hopens : (Bracket.nested .write { session := some .write, issued := 2 }).Opens
      ctx w.database := .nested rfl rfl rfl rfl fun _ _ => rfl
  have hfirst : ∀ r', .refused r' ∉ e.replies.take 3 := by
    simp [e]
  obtain ⟨hbackend, hresult, -⟩ :=
    ((save_logged ctx p w).1 _ hopens).1 3 ⟨"23505", "twice"⟩ (by decide) rfl hfirst
  refine ⟨by decide, ?_, hresult rfl⟩
  rw [hbackend]
  decide +kernel

end Sql

end SharedPages
