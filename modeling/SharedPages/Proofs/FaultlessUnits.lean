import SharedPages.Proofs.Outermost
import SharedPages.Scenario.World

/-!
# Units of work where nothing fails

On a store on which no statement is made to fail, and with no connection checked
out, a unit of work ends as its steps do: with their value, or with their error as
an aborted unit. That holds wherever the unit is run, and it leaves things so that
the next unit at the same place can count on the same. A place is a `Site`: outside
of every transaction, or inside one that is open. The steps themselves are run at
a site of their own, inside the unit.

## Key results

- `Site.exists_of_accepts`: where units can be run in a context
- `Site.run_ready`: a unit of work at a place that is ready
-/

namespace SharedPages

open OpenTransaction

open Scenario (World)

variable {ℓ ε α : Type} {id : TransactionId} {ctx : Context} {floor : Nat}
  {t t₀ t₂ : OpenTransaction} {s s₂ : Store} {d d₂ : Database Store Session}

/-- Where a unit of work is run: outside of every transaction, or inside one that is open. The
    latter was `t` on the store `s` at some time, and nothing below the floor changed since. -/
inductive Site where
  | outside
  | inside (id : TransactionId) (floor : Nat) (t : OpenTransaction) (s : Store)

namespace Site

/-- The transaction of the contexts of a site. -/
def transaction? : Site → Option TransactionId
  | outside => none
  | inside id _ _ _ => some id

/-- No statement is made to fail. The transaction, if there is one, has no connection checked out,
    and has as many rows as before. -/
def Ready : Site → Database Store Session → Prop
  | outside, d => d.backend.failures = []
  | inside id floor t s, d => s.failures = [] ∧ d.Leaves id floor t s false []

end Site

namespace Database

/-- In the context a unit of work can be run: if it carries a transaction, that is open, and no
    connection of it is checked out. -/
def Accepts (d : Database Store Session) (ctx : Context) : Prop :=
  ∀ id, ctx.transaction? = some id → ∃ (t : OpenTransaction) (s : Store),
    d.view id = some (t.toTransaction, s) ∧ Level 0 t ∧ t.busy = false

theorem accepts_of_no_transaction (hctx : ctx.transaction? = none) : d.Accepts ctx := by
  intro id hid
  rw [hctx] at hid
  cases hid

/-- What a transaction leaves, it leaves since any time before. -/
theorem Leaves.since {rows more : List String} {busy : Bool} (hgrows : Grows floor t rows t₀)
    (hagrees : s.Agrees s₂) (h : Leaves id floor t₀ s₂ busy more d) :
    Leaves id floor t s busy (rows ++ more) d := by
  obtain ⟨t', s', hview, hgrows', hbusy, hagrees'⟩ := h
  exact ⟨t', s', hview, hgrows.trans hgrows', hbusy, hagrees'.rows.trans hagrees.rows,
    hagrees'.failures.trans hagrees.failures⟩

section Close

variable (hlevel : Level floor t₂) (hidle : t₂.busy = false) (hnil : s₂.failures = [])
  (hview₂ : d₂.view id = some (t₂.toTransaction, s₂))
include hidle hnil hview₂

include hlevel in
theorem commit_faultless :
    ∃ d', within id Transaction.commit d₂ = (.done (), d') ∧ d'.backend.failures = [] := by
  have hgate : t₂.gate? s₂ = none := by
    simp only [gate?, hidle, hlevel.obstacle?_eq_none hnil, Bool.false_eq_true, if_false]
  obtain ⟨d', hcommit, hview'⟩ := within_of_view hview₂ Transaction.commit
  have hbackend := (eq_of_view hview').2
  rw [commit_eq] at hcommit hbackend
  simp only [hgate, Store.isFailing_of_failures_nil hnil, Bool.false_eq_true, if_false]
    at hcommit hbackend
  refine ⟨d', hcommit, ?_⟩
  rw [hbackend]
  simpa using hnil

theorem rollback_faultless :
    ∃ d', within id Transaction.rollback d₂ = (.done (), d') ∧ d'.backend.failures = [] := by
  obtain ⟨d', hrollback, hview'⟩ := within_of_view hview₂ Transaction.rollback
  have hbackend := (eq_of_view hview').2
  rw [rollback_eq] at hrollback hbackend
  simp only [hidle, Store.isFailing_of_failures_nil hnil, Bool.false_eq_true, if_false]
    at hrollback hbackend
  refine ⟨d', hrollback, ?_⟩
  rw [hbackend]
  simpa using hnil

end Close

end Database

open Database

namespace Context

/-- Bindings of another key do not matter. -/
theorem lookup?_filter {key other : Key} (hne : key ≠ other) (bindings : List Binding) :
    lookup? key (bindings.filter (·.1 ≠ other)) = lookup? key bindings := by
  induction bindings with
  | nil => rfl
  | cons b rest ih =>
    rw [List.filter_cons]
    split
    · rw [lookup?, lookup?, ih]
    · rename_i hother
      have hb : b.1 ≠ key := by
        rintro rfl
        exact hother (by simpa using hne)
      rw [ih, lookup?, dif_neg hb]

/-- Binding a key leaves the values of all others. -/
theorem find?_bind_of_ne {key other : Key} (hne : key ≠ other) (ctx : Context)
    (value : other.Value) : (ctx.bind other value).find? key = ctx.find? key := by
  rw [find?, bind, lookup?, dif_neg hne.symm, lookup?_filter hne]
  rfl

theorem user?_withTransaction (ctx : Context) (id : TransactionId) :
    (ctx.withTransaction id).user? = ctx.user? :=
  find?_bind_of_ne (by decide : Key.user ≠ Key.transaction) ctx id

end Context

namespace Site

/-- A context that the database accepts is one of a site that is ready. -/
theorem exists_of_accepts (haccepts : d.Accepts ctx) (hnil : d.backend.failures = []) :
    ∃ site : Site, ctx.transaction? = site.transaction? ∧ site.Ready d := by
  cases hctx : ctx.transaction? with
  | none => exact ⟨.outside, rfl, hnil⟩
  | some id =>
    obtain ⟨t, s, hview, hlevel, hidle⟩ := haccepts id hctx
    rw [(eq_of_view hview).2] at hnil
    exact ⟨.inside id 0 t s, rfl, hnil, t, s, hview, hlevel.refl, hidle, rfl, rfl⟩

/-- Where units are run in a context of the site, steps are run. They find a site of their own
    ready, and if they leave it so, the unit ends as they do and leaves this one ready. -/
structure Admits (site : Site) (ctx : Context) (w : World Store Session ℓ) (inner : Context)
    (opened : Database Store Session) (innerSite : Site) : Prop where
  transaction : ∃ id, inner.transaction? = some id ∧ innerSite.transaction? = some id
  ready : innerSite.Ready opened
  ends : ∀ {ε α : Type} (steps : Context → Work (World Store Session ℓ) ε α) {x : Except ε α}
    {w₂ : World Store Session ℓ}, steps inner { w with database := opened } = (.ofExcept x, w₂) →
      innerSite.Ready w₂.database → ∃ d₃, Database.run Store ctx steps w =
        (.ofExcept (x.mapError .aborted), { w₂ with database := d₃ }) ∧ site.Ready d₃

variable {w : World Store Session ℓ}

/-- Outside, the transaction that was begun is committed or rolled back. -/
theorem run_outside (hctx : ctx.transaction? = none) (hready : outside.Ready w.database) :
    ∃ inner opened innerSite, outside.Admits ctx w inner opened innerSite := by
  rcases begin_cases w.database with ⟨e, d', -, hfailing, -⟩ | ⟨id, d₁, s₁, hopen, hview₁, hagrees⟩
  · exact absurd hready hfailing
  · have hnil₁ : s₁.failures = [] := hagrees.failures.trans hready
    refine ⟨ctx.withTransaction id, d₁, inside id 0 (fresh "write") s₁,
      ⟨id, ctx.transaction?_withTransaction id, rfl⟩,
      ⟨hnil₁, _, s₁, hview₁, (level_fresh "write").refl, rfl, rfl, rfl⟩, ?_⟩
    -- The steps end on a ready database, with no session held and still without failures.
    rintro ε α steps x w₂ hsteps ⟨-, t₂, s₂, hview₂, hgrows, hidle, hagrees₂⟩
    have hnil₂ : s₂.failures = [] := hagrees₂.failures.trans hnil₁
    rw [run_of_no_transaction steps hctx]
    -- So the statement that ends the transaction is carried out, whichever it is.
    cases x with
    | ok a =>
      obtain ⟨d₃, hcommit, hready₃⟩ := commit_faultless hgrows.level hidle hnil₂ hview₂
      exact ⟨d₃, runOutermost_of_done_on (s := w) (o := .done ()) hopen hsteps hcommit, hready₃⟩
    | error e =>
      obtain ⟨d₃, hrollback, hready₃⟩ := rollback_faultless hidle hnil₂ hview₂
      exact ⟨d₃, runOutermost_of_failed_on (s := w) (o := .done ()) hopen hsteps hrollback, hready₃⟩

/-- Inside, the savepoint that was opened is released, or the transaction goes back to it. -/
theorem run_inside (hctx : ctx.transaction? = some id)
    (hready : (inside id floor t s).Ready w.database) :
    ∃ inner opened innerSite, (inside id floor t s).Admits ctx w inner opened innerSite := by
  obtain ⟨hnil, t', s', hview', hgrows', hidle', hagrees'⟩ := hready
  have hnil' : s'.failures = [] := hagrees'.failures.trans hnil
  rcases openSavepoint_of_view hview' hgrows'.level with
    ⟨e, d', -, hcause, -⟩ | ⟨d₁, s₁, hopen, -, hview₁, hagrees₁⟩
  · exact absurd hcause (by simp [hidle', hnil'])
  · -- The steps start from the settled transaction, above the savepoint that was opened.
    have hsettled := hgrows'.level.settled
    have hlevel₁ := (hsettled.level.opened (abandoned_settled t')).2
    have hnil₁ : s₁.failures = [] := hagrees₁.failures.trans hnil'
    have hidle₁ : t'.settled.opened.busy = false := by simp [OpenTransaction.opened, hidle']
    refine ⟨ctx, d₁, inside id t'.settled.next.seq t'.settled.opened s₁, ⟨id, hctx, rfl⟩,
      ⟨hnil₁, _, s₁, hview₁, hlevel₁.refl, hidle₁, rfl, rfl⟩, ?_⟩
    rintro ε α steps x w₂ hsteps ⟨-, t₂, s₂, hview₂, hgrows, hidle, hagrees₂⟩
    have hnil₂ : s₂.failures = [] := hagrees₂.failures.trans hnil₁
    have hnone := abandoned_settled t'
    have hbefore : Grows floor t ([] ++ []) t'.settled := hgrows'.trans hsettled
    have hagrees : s.Agrees s₂ :=
      ⟨((hagrees₂.rows.trans hagrees₁.rows).trans hagrees'.rows), hnil₂.trans hnil.symm⟩
    -- Closing the unit could only be refused for a session that is held or for an injected failure.
    have hloud : ¬ (t₂.busy = true ∨ s₂.failures ≠ []) := by simp [hidle, hnil₂]
    rw [run_of_transaction steps hctx]
    cases x with
    | ok a =>
      obtain ⟨o, d₃, hrelease, hdone, hleaves⟩ :=
        release_grew hsettled.level hnone hgrows hview₂
      obtain rfl := (or_assoc.mpr hdone).resolve_left hloud
      rw [hidle] at hleaves
      exact ⟨d₃, (runNested_of_done_on (s := w) hopen hsteps hrelease :), hnil,
        hleaves.since hbefore hagrees⟩
    | error e =>
      obtain ⟨o, d₃, hrollback, hdone, hleaves⟩ :=
        rollbackTo_grew hsettled.level hnone hgrows hview₂
      obtain rfl := (or_assoc.mpr hdone).resolve_left hloud
      rw [hidle] at hleaves
      exact ⟨d₃, (runNested_of_failed_on (s := w) hopen hsteps hrollback :), hnil,
        hleaves.since hbefore hagrees⟩

/-- A unit of work at a site that is ready. -/
theorem run_ready (site : Site) (hctx : ctx.transaction? = site.transaction?)
    (hready : site.Ready w.database) :
    ∃ inner opened innerSite, site.Admits ctx w inner opened innerSite := by
  cases site with
  | outside => exact run_outside hctx hready
  | inside id floor t s => exact run_inside hctx hready

end Site

end SharedPages
