import SharedPages.Proofs.Nesting
import SharedPages.Proofs.Program
import SharedPages.Proofs.Units

/-!
# What an action does

An action of a closure is refused, or it works on the transaction of its context
or on the store outside. `Action.Does` lists everything that it can do to an
open transaction and to the store, with what is seen of it, so that a property
of actions is a property of these cases.

## Key results

- `Action.perform_does`: an action does one of the things listed
- `Action.Does.grew`: the rows that an action adds and commits
-/

namespace SharedPages

open OpenTransaction

variable {ε α γ : Type} {id : TransactionId} {ctx : Context} {t t₀ : OpenTransaction} {s s₀ : Store}
  {d d' d₁ d₂ : Database Store Session} {floor : Nat} {rows more out out' : List String}

namespace Database

theorem isHeld_of_view (hview : d.view id = some (t.toTransaction, s)) : d.isHeld id = t.busy := by
  simp only [isHeld, (eq_of_view hview).1, Option.any_some]
  rfl

theorem isUnsettled_of_view (hview : d.view id = some (t.toTransaction, s)) :
    d.isUnsettled id = !t.abandoned.isEmpty := by
  simp only [isUnsettled, (eq_of_view hview).1, Option.any_some]
  rfl

/-! ## Connections of a transaction -/

theorem checkOut_of_closed {e : DatabaseError} (hview : d.view id = some (t.toTransaction, s))
    (hgate : t.gate? s = some e) :
    ∃ d', checkOut (.transaction id) d = (.failed e, d') ∧
      d'.view id = some (t.toTransaction, t.noteGate s) := by
  obtain ⟨d', hcheckOut, hview'⟩ := within_of_view hview Transaction.checkOut
  rw [checkOut_eq, hgate] at hcheckOut hview'
  exact ⟨d', hcheckOut, hview'⟩

theorem checkOut_of_open (hview : d.view id = some (t.toTransaction, s))
    (hgate : t.gate? s = none) :
    ∃ d', checkOut (.transaction id) d = (.done (), d') ∧
      d'.view id = some ({ t.settled with busy := true }.toTransaction, t.noteGate s) := by
  obtain ⟨d', hcheckOut, hview'⟩ := within_of_view hview Transaction.checkOut
  rw [checkOut_eq, hgate] at hcheckOut hview'
  exact ⟨d', hcheckOut, hview'⟩

theorem view_giveBack (hview : d.view id = some (t.toTransaction, s)) :
    (giveBack (.transaction id) d).view id = some ({ t with busy := false }.toTransaction, s) :=
  view_change hview Transaction.giveBack

theorem execute_of_failing (hview : d.view id = some (t.toTransaction, s)) (row : String)
    (hfailing : s.isFailing ⟨t.label, "INSERT " ++ row⟩ = true) :
    ∃ e d', execute ("INSERT " ++ row) (.transaction id) d = (.failed e, d') ∧
      d'.view id = some (t.toTransaction, s.noted t.label ("INSERT " ++ row)) := by
  obtain ⟨d', hexecute, hview'⟩ := within_of_view hview (Transaction.send ("INSERT " ++ row))
  have hsend := t.send_text s (.insert row)
  simp only [Order.text, refusal?, hfailing, if_true] at hsend
  rw [hsend] at hexecute hview'
  exact ⟨_, d', hexecute, hview'⟩

theorem execute_of_not_failing (hview : d.view id = some (t.toTransaction, s)) (row : String)
    (hfailing : s.isFailing ⟨t.label, "INSERT " ++ row⟩ = false) :
    ∃ d', execute ("INSERT " ++ row) (.transaction id) d = (.done (), d') ∧
      d'.view id = some ((t.after (.insert row)).toTransaction,
        s.noted t.label ("INSERT " ++ row)) := by
  obtain ⟨d', hexecute, hview'⟩ := within_of_view hview (Transaction.send ("INSERT " ++ row))
  have hsend := t.send_text s (.insert row)
  simp only [Order.text, refusal?, obey, hfailing] at hsend
  rw [hsend] at hexecute hview'
  exact ⟨d', hexecute, hview'⟩

/-- What a connection of a transaction sees. -/
theorem visibleRows_of_view (hview : d.view id = some (t.toTransaction, s)) :
    visibleRows (.transaction id) d = (.done (s.rows ++ t.rows), d) := by
  obtain ⟨ht, hbackend⟩ := eq_of_view hview
  simp [visibleRows, Scenario.Stored.seenRows, Scenario.Stored.sessionOf, ht, hbackend,
    toTransaction, Session.visible, session]

end Database

/-! ## Actions -/

/-- Everything that an action can do to an open transaction and its store, with what is seen of
    it. -/
inductive Action.Does (t : OpenTransaction) (s : Store) :
    Note → OpenTransaction → Store → Prop where
  /-- The transaction refuses what needs a connection. -/
  | refused {e : DatabaseError} (gate : t.gate? s = some e) :
    Does t s (.refused .unit t.busy) t (t.noteGate s)
  | insert (row : String) (gate : t.gate? s = none) :
    Does t s (.wrote row false) (t.settled.after (.insert row))
      ((t.noteGate s).noted t.label (Order.insert row).text)
  | insertFails (row : String) (gate : t.gate? s = none) (failing : s.failures ≠ []) :
    Does t s (.refused .unit t.busy) t.settled
      ((t.noteGate s).noted t.label (Order.insert row).text)
  | read (gate : t.gate? s = none) :
    Does t s (.read (s.rows ++ t.settled.rows)) t.settled (t.noteGate s)
  | checkOut (gate : t.gate? s = none) :
    Does t s .passed { t.settled with busy := true } (t.noteGate s)
  | giveBack : Does t s .passed { t with busy := false } s
  /-- There is no connection to work on. -/
  | missing (busy : t.busy = false) : Does t s (.refused .held t.busy) t s
  | insertHeld (row : String) (busy : t.busy = true) :
    Does t s (.wrote row (!t.abandoned.isEmpty)) (t.after (.insert row))
      (s.noted t.label (Order.insert row).text)
  | insertHeldFails (row : String) (busy : t.busy = true) (failing : s.failures ≠ []) :
    Does t s (.refused .held t.busy) t (s.noted t.label (Order.insert row).text)
  | readHeld (busy : t.busy = true) : Does t s (.read (s.rows ++ t.rows)) t s
  | insertOutside (row : String) :
    Does t s (.wroteOutside row) t
      { s.noted "write" (Order.insert row).text with rows := s.rows ++ [row] }
  | insertOutsideFails (row : String) (failing : s.failures ≠ []) :
    Does t s (.refused .outside t.busy) t (s.noted "write" (Order.insert row).text)
  | readOutside : Does t s (.readOutside s.rows) t s
  | inject (failures : List String) : Does t s (.injected failures) t { s with failures }

namespace Action

open Database

/-- A connection that was checked out for one statement leaves no trace. -/
private theorem giveBack_insert (hbusy : t.busy = false) (row : String) :
    { ({ t with busy := true } : OpenTransaction).after (.insert row) with busy := false } =
      t.after (.insert row) := by
  simp only [after, obey, hbusy]

private theorem giveBack_checkedOut (hbusy : t.busy = false) :
    { ({ t with busy := true } : OpenTransaction) with busy := false } = t := by
  cases t
  simp_all

section Perform

variable (hctx : ctx.transaction? = some id) (hview : d.view id = some (t.toTransaction, s))
include hctx

theorem ofContext_eq (role : PoolRole) : Client.ofContext role ctx = .transaction id := by
  simp only [Client.ofContext, hctx]

include hview

private theorem any_isHeld : ctx.transaction?.any (d.isHeld ·) = t.busy := by
  rw [hctx, Option.any_some, isHeld_of_view hview]

private theorem any_isUnsettled :
    ctx.transaction?.any (d.isUnsettled ·) = !t.abandoned.isEmpty := by
  rw [hctx, Option.any_some, isUnsettled_of_view hview]

private theorem onHeld_of_idle (hbusy : t.busy = false)
    (w : Client → Work (Database Store Session) DatabaseError γ) :
    onHeld ctx w d = (.failed .noActiveTransaction, d) := by
  simp only [onHeld, hctx, isHeld_of_view hview, hbusy, Bool.false_eq_true, if_false]

private theorem onHeld_of_busy (hbusy : t.busy = true)
    (w : Client → Work (Database Store Session) DatabaseError γ) :
    onHeld ctx w d = w (.transaction id) d := by
  simp only [onHeld, hctx, isHeld_of_view hview, hbusy, if_true]

private theorem insert_does (row : String) :
    ∃ t' s', ((insert .unit row).perform ctx d).2.view id = some (toTransaction t', s') ∧
      Does t s ((insert .unit row).seen ctx d) t' s' := by
  cases hgate : t.gate? s with
  | some e =>
    obtain ⟨d₁, hcheckOut, hview₁⟩ := checkOut_of_closed hview hgate
    have hperform : (insert .unit row).perform ctx d = (.failed e, d₁) := by
      show statement (.ofContext .write ctx) ("INSERT " ++ row) d = _
      rw [ofContext_eq hctx]
      exact withConnection_of_failed hcheckOut
    unfold seen
    simp only [hperform, any_isHeld hctx hview]
    exact ⟨t, _, hview₁, .refused hgate⟩
  | none =>
    obtain ⟨d₁, hcheckOut, hview₁⟩ := checkOut_of_open hview hgate
    have hbusy : t.settled.busy = false := by rw [busy_settled, busy_of_gate?_none hgate]
    have hlabel : { t.settled with busy := true }.label = t.label := t.label_settled
    cases hfailing : (t.noteGate s).isFailing ⟨t.settled.label, "INSERT " ++ row⟩ with
    | true =>
      -- The statement fails, and the connection is given back all the same.
      obtain ⟨e, d₂, hexecute, hview₂⟩ := execute_of_failing hview₁ row hfailing
      have hperform : (insert .unit row).perform ctx d =
          (.failed e, Database.giveBack (.transaction id) d₂) := by
        show statement (.ofContext .write ctx) ("INSERT " ++ row) d = _
        rw [ofContext_eq hctx]
        exact withConnection_of_done hcheckOut hexecute
      have hview₃ := view_giveBack hview₂
      rw [giveBack_checkedOut hbusy, hlabel] at hview₃
      have hne : s.failures ≠ [] := failures_noteGate t s ▸ Store.failures_ne_nil hfailing
      unfold seen
      simp only [hperform, any_isHeld hctx hview]
      exact ⟨_, _, hview₃, .insertFails row hgate hne⟩
    | false =>
      obtain ⟨d₂, hexecute, hview₂⟩ := execute_of_not_failing hview₁ row hfailing
      have hperform : (insert .unit row).perform ctx d =
          (.done (), Database.giveBack (.transaction id) d₂) := by
        show statement (.ofContext .write ctx) ("INSERT " ++ row) d = _
        rw [ofContext_eq hctx]
        exact withConnection_of_done hcheckOut hexecute
      have hview₃ := view_giveBack hview₂
      rw [giveBack_insert hbusy, hlabel] at hview₃
      -- Checking out settled the transaction, so the row is not doomed.
      unfold seen
      simp only [hperform, any_isUnsettled hctx hview₃, abandoned_after, abandoned_settled]
      exact ⟨_, _, hview₃, .insert row hgate⟩

private theorem read_does :
    ∃ t' s', ((read .unit).perform ctx d).2.view id = some (toTransaction t', s') ∧
      Does t s ((read .unit).seen ctx d) t' s' := by
  cases hgate : t.gate? s with
  | some e =>
    -- The gate refuses the session, and the read fails with the same error.
    obtain ⟨d₁, hcheckOut, hview₁⟩ := checkOut_of_closed hview hgate
    have hperform : (read .unit).perform ctx d = (.failed e, d₁) := by
      show withConnection Store (.ofContext .read ctx) _ (visibleRows (.ofContext .read ctx)) d = _
      rw [ofContext_eq hctx]
      exact withConnection_of_failed hcheckOut
    unfold seen
    simp only [hperform, any_isHeld hctx hview]
    exact ⟨t, _, hview₁, .refused hgate⟩
  | none =>
    obtain ⟨d₁, hcheckOut, hview₁⟩ := checkOut_of_open hview hgate
    -- Settling goes before the read, so the read sees only rows that were not abandoned.
    have hbusy : t.settled.busy = false := by rw [busy_settled, busy_of_gate?_none hgate]
    have hvisible := visibleRows_of_view hview₁
    have hperform : (read .unit).perform ctx d =
        (.done (s.rows ++ t.settled.rows), Database.giveBack (.transaction id) d₁) := by
      show withConnection Store (.ofContext .read ctx) _ (visibleRows (.ofContext .read ctx)) d = _
      rw [ofContext_eq hctx, ← rows_noteGate t s]
      exact withConnection_of_done hcheckOut hvisible
    -- The session goes back to the transaction, which is then as the check-out found it.
    have hview₂ := view_giveBack hview₁
    rw [giveBack_checkedOut hbusy] at hview₂
    unfold seen
    simp only [hperform]
    exact ⟨_, _, hview₂, .read hgate⟩

private theorem checkOut_does :
    ∃ t' s', (checkOut.perform ctx d).2.view id = some (toTransaction t', s') ∧
      Does t s (checkOut.seen ctx d) t' s' := by
  have hperform : checkOut.perform ctx d = Database.checkOut (.transaction id) d := by
    show Database.checkOut (.ofContext .write ctx) d = _
    rw [ofContext_eq hctx]
  -- Nothing is executed, so the gate alone decides.
  cases hgate : t.gate? s with
  | some e =>
    obtain ⟨d₁, hcheckOut, hview₁⟩ := checkOut_of_closed hview hgate
    unfold seen
    simp only [hperform, hcheckOut, any_isHeld hctx hview]
    exact ⟨t, _, hview₁, .refused hgate⟩
  | none =>
    obtain ⟨d₁, hcheckOut, hview₁⟩ := checkOut_of_open hview hgate
    unfold seen
    simp only [hperform, hcheckOut]
    exact ⟨_, _, hview₁, .checkOut hgate⟩

private theorem insertHeld_does (row : String) :
    ∃ t' s', ((insert .held row).perform ctx d).2.view id = some (toTransaction t', s') ∧
      Does t s ((insert .held row).seen ctx d) t' s' := by
  -- Without a session that is held there is no connection to write on.
  cases hbusy : t.busy with
  | false =>
    have hperform : (insert .held row).perform ctx d = (.failed .noActiveTransaction, d) :=
      onHeld_of_idle hctx hview hbusy _
    unfold seen
    simp only [hperform, any_isHeld hctx hview]
    exact ⟨t, s, hview, .missing hbusy⟩
  | true =>
    have hperform : (insert .held row).perform ctx d =
        Database.execute ("INSERT " ++ row) (.transaction id) d :=
      onHeld_of_busy hctx hview hbusy _
    -- The session is there already, so only an injected failure can refuse the row.
    cases hfailing : s.isFailing ⟨t.label, "INSERT " ++ row⟩ with
    | true =>
      obtain ⟨e, d₁, hexecute, hview₁⟩ := execute_of_failing hview row hfailing
      unfold seen
      simp only [hperform, hexecute, any_isHeld hctx hview]
      exact ⟨t, _, hview₁, .insertHeldFails row hbusy (Store.failures_ne_nil hfailing)⟩
    | false =>
      obtain ⟨d₁, hexecute, hview₁⟩ := execute_of_not_failing hview row hfailing
      unfold seen
      simp only [hperform, hexecute, any_isUnsettled hctx hview₁, abandoned_after]
      exact ⟨_, _, hview₁, .insertHeld row hbusy⟩

private theorem readHeld_does :
    ∃ t' s', ((read .held).perform ctx d).2.view id = some (toTransaction t', s') ∧
      Does t s ((read .held).seen ctx d) t' s' := by
  -- As for writing, but reading on a session that is held cannot fail.
  cases hbusy : t.busy with
  | false =>
    have hperform : (read .held).perform ctx d = (.failed .noActiveTransaction, d) :=
      onHeld_of_idle hctx hview hbusy _
    unfold seen
    simp only [hperform, any_isHeld hctx hview]
    exact ⟨t, s, hview, .missing hbusy⟩
  | true =>
    have hperform : (read .held).perform ctx d = (.done (s.rows ++ t.rows), d) :=
      (onHeld_of_busy hctx hview hbusy _).trans (visibleRows_of_view hview)
    unfold seen
    simp only [hperform]
    exact ⟨t, s, hview, .readHeld hbusy⟩

private theorem insertOutside_does (row : String) :
    ∃ t' s', ((insert .outside row).perform ctx d).2.view id = some (toTransaction t', s') ∧
      Does t s ((insert .outside row).seen ctx d) t' s' := by
  obtain ⟨d₁, hexecute, hview₁⟩ :=
    onBackend_of_view hview (Backend.executeAlone PoolRole.write ("INSERT " ++ row))
  have hperform : (insert .outside row).perform ctx d =
      ((Backend.executeAlone PoolRole.write ("INSERT " ++ row) s).1, d₁) := by
    show statement (.pool .write) ("INSERT " ++ row) d = _
    exact withConnection_of_done rfl hexecute
  -- The row goes to the store by itself, and the transaction is left alone either way.
  rw [Store.executeAlone_insert] at hperform hview₁
  split at hview₁
  · rename_i hfailing
    rw [if_pos hfailing] at hperform
    unfold seen
    simp only [hperform, any_isHeld hctx hview]
    exact ⟨t, _, hview₁, .insertOutsideFails row (Store.failures_ne_nil hfailing)⟩
  · rename_i hfailing
    rw [if_neg hfailing] at hperform
    unfold seen
    simp only [hperform]
    exact ⟨t, _, hview₁, .insertOutside row⟩

omit hctx in
private theorem readOutside_does :
    ∃ t' s', ((read .outside).perform ctx d).2.view id = some (toTransaction t', s') ∧
      Does t s ((read .outside).seen ctx d) t' s' := by
  have hvisible : visibleRows (.pool .read) d = (.done s.rows, d) := by
    simp [visibleRows, Scenario.Stored.seenRows, Scenario.Stored.sessionOf, Session.visible,
      Store.connection, (eq_of_view hview).2]
  have hperform : (read .outside).perform ctx d = (.done s.rows, d) := by
    show withConnection Store (.pool .read) _ (visibleRows (.pool .read)) d = _
    exact withConnection_of_done rfl hvisible
  unfold seen
  simp only [hperform]
  exact ⟨t, s, hview, .readOutside⟩

/-- What an action does to an open transaction and to the store. -/
theorem perform_does (action : Action γ) :
    ∃ t' s', (action.perform ctx d).2.view id = some (toTransaction t', s') ∧
      Does t s (action.seen ctx d) t' s' := by
  cases action with
  | insert place row =>
    -- What an action does depends on the connection it takes.
    cases place with
    | unit => exact insert_does hctx hview row
    | held => exact insertHeld_does hctx hview row
    | outside => exact insertOutside_does hctx hview row
  | read place =>
    cases place with
    | unit => exact read_does hctx hview
    | held => exact readHeld_does hctx hview
    | outside => exact readOutside_does hview
  | checkOut => exact checkOut_does hctx hview
  | giveBack =>
    -- The other actions never fail, so nothing has to be told apart.
    have hperform : giveBack.perform ctx d = (.done (), Database.giveBack (.transaction id) d) := by
      show Work.modify (Database.giveBack (.ofContext .write ctx)) d = _
      rw [ofContext_eq hctx]
      rfl
    unfold seen
    simp only [hperform]
    exact ⟨_, _, view_giveBack hview, .giveBack⟩
  | inject failures =>
    obtain ⟨d₁, hinject, hview₁⟩ := onBackend_of_view hview
      (Work.modify fun s => { s with failures } : Work Store DatabaseError Unit)
    have hperform : (inject failures).perform ctx d = (.done (), d₁) := hinject
    unfold seen
    simp only [hperform]
    exact ⟨t, _, hview₁, .inject failures⟩

end Perform

/-- An action adds the rows that it writes for good, and commits those that it writes outside. -/
theorem Does.grew {n : Note} {t' : OpenTransaction} {s' : Store} (h : Does t s n t' s')
    (hlevel : Level floor t) : Grows floor t n.lasting t' ∧ s'.rows = s.rows ++ n.outside := by
  have hsettled := hlevel.settled
  cases h with
  | refused => exact ⟨hlevel.refl, by simp [Note.outside]⟩
  | insert row =>
    exact ⟨hsettled.trans (hsettled.level.insert (abandoned_settled t) row), by simp [Note.outside]⟩
  | insertFails => exact ⟨hsettled, by simp [Note.outside]⟩
  | read => exact ⟨hsettled, by simp [Note.outside]⟩
  | checkOut =>
    exact ⟨hsettled.trans (hsettled.level.resting rfl rfl rfl (Nat.le_refl _)),
      by simp [Note.outside]⟩
  | giveBack => exact ⟨hlevel.resting rfl rfl rfl (Nat.le_refl _), by simp [Note.outside]⟩
  | missing => exact ⟨hlevel.refl, by simp [Note.outside]⟩
  | insertHeld row =>
    refine ⟨?_, by simp [Note.outside]⟩
    -- Nothing is settled on this path, so the row may be written above an abandoned savepoint.
    cases habandoned : t.abandoned with
    | nil => exact hlevel.insert habandoned row
    | cons sp rest => exact hlevel.insert_doomed (by simp [habandoned]) row
  | insertHeldFails => exact ⟨hlevel.refl, by simp [Note.outside]⟩
  | readHeld => exact ⟨hlevel.refl, by simp [Note.outside]⟩
  | insertOutside row => exact ⟨hlevel.refl, rfl⟩
  | insertOutsideFails => exact ⟨hlevel.refl, by simp [Note.outside]⟩
  | readOutside => exact ⟨hlevel.refl, by simp [Note.outside]⟩
  | inject => exact ⟨hlevel.refl, by simp [Note.outside]⟩

end Action

end SharedPages
