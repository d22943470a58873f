import SharedPages.Proofs.OpenSavepoints

/-!
# All or nothing

An outermost unit of work commits everything or nothing, whatever fails and
wherever connections are checked out. If it returns a value, its closure gave
that value, and one commit made all rows visible that its transaction had kept.
If it returns an error, panics or is dropped half-way, nothing that was written
in its transaction is visible, and nothing of it ever will be, not even to
someone who kept the context or a connection of the unit.

The transaction of the unit is the one on the next session that is begun, and
the session is told from all others by its number. Rows become visible by what
events publish (`Watched.Gains`), so it is enough to follow the events of that
session through whatever happens later.

## Key results

- `Watched.Sees.hides`: what others do publishes nothing of a session
- `Database.runOutermost_cases`: the ends of an outermost unit
- `Routine.run_allOrNothing`: all or nothing
-/

namespace SharedPages

open OpenTransaction Database

variable {faults : Nat → Bool} {ε ε' ε₀ α α' α₀ : Type}

namespace Watched

variable {b b₁ b₂ : Watched faults} {n since : Nat}

/-! ## What is seen of one session -/

/-- From the first store to the second, nothing was published in session `n`. -/
def Hides (n : Nat) (b b' : Watched faults) : Prop :=
  ∃ new, b.Gains new b' ∧ ∀ e ∈ new, e.number = some n → e.published = []

/-- The number of commits that were tried in session `n`. -/
def commits (n : Nat) (b : Watched faults) : Nat :=
  b.events.countP fun e => e.number = some n ∧ e.request = .commit

theorem Hides.trans (h₁ : b.Hides n b₁) (h₂ : b₁.Hides n b₂) : b.Hides n b₂ := by
  obtain ⟨new, hnew, hhides⟩ := h₁
  obtain ⟨more, hmore, hhides'⟩ := h₂
  refine ⟨more ++ new, hnew.trans hmore, fun e he => ?_⟩
  rcases List.mem_append.mp he with he | he
  · exact hhides' e he
  · exact hhides e he

theorem hides_refused (b : Watched faults) (n : Nat) (number : Option Nat) (c : Session)
    (request : Request) : b.Hides n (b.noted (refused number c request)) :=
  ⟨_, gains_noted b _, fun e he _ => by rw [List.mem_singleton.mp he]; rfl⟩

/-- Nothing was committed in session `n`: either only later sessions were committed, or that session
    was not even begun. -/
private theorem Sees.not_commit (h : b.Sees since b₁) (hn : n < since ∨ b₁.begun ≤ n) :
    ∃ new, b.Gains new b₁ ∧ ∀ e ∈ new, e.number = some n →
      e.request ≠ .commit ∧ e.published = [] := by
  obtain ⟨new, hnew, hsound⟩ := h
  refine ⟨new, hnew, fun e he hnumber => ?_⟩
  obtain ⟨hs, hlt⟩ := hsound e he
  have hcommit : e.request ≠ .commit := by
    intro hcommit
    obtain ⟨m, hm, hle⟩ := hs.commits hcommit
    rw [hnumber, Option.some.injEq] at hm
    have := hlt n hnumber
    omega
  refine ⟨hcommit, ?_⟩
  -- A session publishes nothing but through a commit.
  cases hpublished : e.published with
  | nil => rfl
  | cons row rows =>
    rcases hs.published (by simp [hpublished]) with hnone | hcommit'
    · rw [hnumber] at hnone
      cases hnone
    · exact absurd hcommit' hcommit

theorem Sees.hides (h : b.Sees since b₁) (hn : n < since ∨ b₁.begun ≤ n) : b.Hides n b₁ := by
  obtain ⟨new, hnew, hnone⟩ := h.not_commit hn
  exact ⟨new, hnew, fun e he hnumber => (hnone e he hnumber).2⟩

theorem Sees.commits_eq (h : b.Sees since b₁) (hn : n < since ∨ b₁.begun ≤ n) :
    b₁.commits n = b.commits n := by
  obtain ⟨new, hnew, hnone⟩ := h.not_commit hn
  have hzero : (new.countP fun e => e.number = some n ∧ e.request = .commit) = 0 := by
    rw [List.countP_eq_zero]
    intro e he
    simp only [decide_eq_true_eq, not_and]
    exact fun hnumber => (hnone e he hnumber).1
  rw [commits, hnew.events, List.countP_append, hzero, Nat.zero_add, commits]

theorem commits_answered (b : Watched faults) (n : Nat) (c : Session)
    (o : Outcome DatabaseError α) (rows : List String) :
    (b.noted (answered (some n) c .commit o rows)).commits n = b.commits n + 1 := by
  simp [commits, noted, answered]

end Watched

private theorem afterRollback_ne_release (e : ε) (o : Outcome DatabaseError α)
    (e' : DatabaseError) : TransactionError.afterRollback e o ≠ .release e' := by
  cases o <;> nofun

namespace Database

variable {d d' : Database (Watched faults) Numbered} {ctx : Context}

/-! ## The ends of an outermost unit -/

/-- The unit began a transaction and its steps gave `v`. Once what they had abandoned was settled,
    one commit made all rows visible that were pending, in their order. -/
def CommitsAll (steps : TransactionId → Work (Database (Watched faults) Numbered) ε α) (v : α)
    (d d' : Database (Watched faults) Numbered) : Prop :=
  ∃ id d₁ d₂ d₃ t c, begin d = (.done id, d₁) ∧ steps id d₁ = (.done v, d₂) ∧
    within id Transaction.settle d₂ = (.done (), d₃) ∧
    d₃.transactions[id.index]? = some t ∧ t.session = some ⟨d.backend.begun, c⟩ ∧
    t.abandoned = [] ∧
    d'.backend.events =
      ⟨some d.backend.begun, c, .commit, none, c.pending.getD []⟩ :: d₃.backend.events ∧
    d'.backend.store.rows = d₃.backend.store.rows ++ c.pending.getD []

/-- An outermost unit commits all that was pending, once, or it publishes nothing of its session. -/
theorem runOutermost_cases {floors : Nat → Nat}
    {steps : TransactionId → Work (Database (Watched faults) Numbered) ε α}
    (hsteps : ∀ id, Sound (steps id)) (hd : Leveled floors d)
    {o : Outcome (TransactionError DatabaseError ε) α}
    (hrun : runOutermost (Watched faults) steps d = (o, d')) :
    d.backend.begun < d'.backend.begun ∧
    ((∃ v, o = .done v ∧ CommitsAll steps v d d' ∧
        d'.backend.commits d.backend.begun = d.backend.commits d.backend.begun + 1) ∨
      (∀ v, o ≠ .done v) ∧ (∀ e, o ≠ .failed (.release e)) ∧
        d.backend.Hides d.backend.begun d'.backend) := by
  have hlater : d.backend.begun < d.backend.begun + 1 := Nat.lt_succ_self _
  rcases Sound.inside hsteps hd with ⟨e, d₁, hopen, -, hsees, hn⟩ |
    ⟨id, d₁, t₂, hopen, hnew, -, hsees, ht₂, hlevel, hn⟩
  · rw [runOutermost_of_unopened hopen] at hrun
    cases hrun
    exact ⟨hn, .inr ⟨nofun, nofun, hsees.hides (.inl hlater)⟩⟩
  · cases hplayed : steps id d₁ with
    | mk out d₂ =>
      simp only [hplayed] at hsees ht₂ hn
      -- The steps commit at most sessions that were begun after this one.
      have hhides := hsees.hides (.inl hlater)
      obtain ⟨t', b', hrollback, hsees', -⟩ := rollback_ends hn t₂ (d.backend.begun + 1)
      have hundone : d.backend.begun < (within id Transaction.rollback d₂).2.backend.begun ∧
          d.backend.Hides d.backend.begun (within id Transaction.rollback d₂).2.backend := by
        rw [within_snd_of_some ht₂ hrollback]
        exact ⟨Nat.lt_of_lt_of_le hn hsees'.begun_le, hhides.trans (hsees'.hides (.inl hlater))⟩
      cases out with
      | done v =>
        obtain ⟨b₁, hsees₁, -, ⟨e, hcommit⟩ | ⟨hsettle, t', -, hcommit | hcommit⟩⟩ :=
          commit_watched hlevel hn (d.backend.begun + 1)
        all_goals
          have hn₁ := Nat.lt_of_lt_of_le hn hsees₁.begun_le
          have hhides₁ := hhides.trans (hsees₁.hides (.inl hlater))
          rw [runOutermost_of_done hopen hplayed (within_of_some ht₂ hcommit)] at hrun
          cases hrun
        · exact ⟨hn₁, .inr ⟨nofun, nofun, hhides₁⟩⟩
        · exact ⟨hn₁, .inr ⟨nofun, nofun, hhides₁.trans (Watched.hides_refused ..)⟩⟩
        · have hlt := (Array.getElem?_eq_some_iff.mp ht₂).1
          refine ⟨hn₁, .inl ⟨v, rfl, ⟨id, d₁, d₂, _, t₂.settled.watched d.backend.begun,
            t₂.settled.session, hopen, hplayed, within_of_some ht₂ hsettle, by simp [hlt], rfl,
            abandoned_settled t₂, rfl, rfl⟩, ?_⟩⟩
          rw [Watched.commits_answered, (hsees.trans hsees₁).commits_eq (.inl hlater)]
      | failed e =>
        rw [runOutermost_of_failed hopen hplayed rfl] at hrun
        cases hrun
        exact ⟨hundone.1, .inr ⟨nofun, fun _ h => afterRollback_ne_release e _ _
          (Outcome.failed.inj h), hundone.2⟩⟩
      | panicked p =>
        rw [runOutermost_of_panicked hopen hplayed rfl] at hrun
        cases hrun
        exact ⟨hundone.1, .inr ⟨nofun, nofun, hundone.2⟩⟩
      | suspended =>
        rw [runOutermost_of_suspended hopen hplayed] at hrun
        cases hrun
        exact ⟨hn, .inr ⟨nofun, nofun, hhides⟩⟩

end Database

/-! ## Runs -/

variable {ctx : Context}

/-- An outermost unit of work is all or nothing, whatever was done before it and is done after it,
    and whichever statements fail at whichever moment. If it returns a value, its closure gave that
    value, one commit made visible all that was pending, and there never is another commit of its
    session. If it returns an error, panics or is dropped, its session never made anything visible.
    It never returns an error of releasing a savepoint. Without faults, all this is what happens
    when the unit runs on the store itself. -/
theorem Routine.run_allOrNothing (hctx : ctx.transaction? = none) (before : Routine ε₀ α₀)
    (body : Context → Routine ε α) (after : Routine ε' α') (s : Store)
    {d d' d'' : Database (Watched faults) Numbered}
    {o : Outcome (TransactionError DatabaseError ε) α}
    (hbefore : (before.play (Watched.fresh faults s)).2 = d)
    (hrun : Database.run (Watched faults) ctx (fun ctx => (body ctx).play) d = (o, d'))
    (hafter : (after.play d').2 = d'') :
    Accounts s d'' ∧ (∀ e, o ≠ .failed (.release e)) ∧
      (∀ v, o = .done v →
        CommitsAll (fun id => (body (ctx.withTransaction id)).play) v d d' ∧
          d''.backend.commits d.backend.begun = 1) ∧
      ((∀ v, o ≠ .done v) →
        ∀ e ∈ d''.backend.events, e.number = some d.backend.begun → e.published = []) ∧
      Work.Mirrors (Database.bare (β := Watched Watched.faultless))
        (Database.run (Watched Watched.faultless) ctx fun ctx => (body ctx).play)
        (Database.run Store ctx fun ctx => (body ctx).play) := by
  have hd := before.sound_play.proceeds (Watched.leveled_fresh faults s)
  rw [hbefore] at hd
  have hd' := (sound_run (fun ctx => (body ctx).sound_play) ctx).proceeds hd.leveled
  rw [hrun] at hd'
  have hd'' := after.sound_play.proceeds hd'.leveled
  rw [hafter] at hd''
  obtain ⟨new, hnew, -⟩ := ((hd.trans hd').trans hd'').sees
  simp only [Database.run, hctx] at hrun
  obtain ⟨hn, hcases⟩ := runOutermost_cases (fun id => (body _).sound_play) hd.leveled hrun
  refine ⟨hnew.accounts.2, ?_, ?_, ?_, mirrors_run ctx fun ctx => (body ctx).mirrors_play⟩
  · rintro e rfl
    rcases hcases with ⟨_, h, -⟩ | ⟨-, hrelease, -⟩
    · cases h
    · exact hrelease e rfl
  · rintro v rfl
    rcases hcases with ⟨_, h, hcommits, hcount⟩ | ⟨hdone, -⟩
    · cases h
      refine ⟨hcommits, ?_⟩
      -- Before the unit the session was not begun, and later on it is not committed again.
      rw [hd''.sees.commits_eq (.inl hn), hcount, hd.sees.commits_eq (.inr (Nat.le_refl _))]
      rfl
    · exact absurd rfl (hdone v)
  · intro hnot
    rcases hcases with ⟨v, h, -⟩ | ⟨-, -, hhides⟩
    · exact absurd h (hnot v)
    · obtain ⟨all, hall, hpublished⟩ := ((hd.sees.hides (.inr (Nat.le_refl _))).trans hhides).trans
        (hd''.sees.hides (.inl hn))
      rw [hall.accounts.1]
      exact hpublished

namespace Routine

/-- A unit of work that drops a unit in it, on a store whose twelfth statement fails. -/
def failing :
    Work (Database (Watched (· == 11)) Numbered) (TransactionError DatabaseError Unit) Unit :=
  Database.run (Watched (· == 11)) .background fun ctx => (dropping ctx).play

/-- Of three units that write, the second one fails to commit. -/
theorem run_allOrNothing_writing :
    ∃ d d' d'' o, (writing.play (Watched.fresh (· == 11) {})).2 = d ∧ failing d = (o, d') ∧
      (writing.play d').2 = d'' ∧ Context.background.transaction? = none ∧
      o = .failed (.commit (Store.injected "COMMIT")) ∧ d''.backend.store.rows = ["b", "b"] ∧
      ∀ e ∈ d''.backend.events, e.number = some d.backend.begun → e.published = [] := by
  -- The runs are evaluated on their own, and have names while the theorem is applied.
  obtain ⟨d, hbefore⟩ : ∃ d, (writing.play (Watched.fresh (· == 11) {})).2 = d := ⟨_, rfl⟩
  obtain ⟨⟨o, d'⟩, hrun⟩ : ∃ p, failing d = p := ⟨_, rfl⟩
  obtain ⟨d'', hafter⟩ : ∃ d'', (writing.play d').2 = d'' := ⟨_, rfl⟩
  have hfailed : (failing d).1 = .failed (.commit (Store.injected "COMMIT")) := by
    rw [← hbefore]
    decide +kernel
  have hrows : (writing.play (failing d).2).2.backend.store.rows = ["b", "b"] := by
    rw [← hbefore]
    decide +kernel
  simp only [hrun] at hfailed hrows
  have hnot : ∀ v, o ≠ .done v := by
    rw [hfailed]
    nofun
  exact ⟨d, d', d'', o, hbefore, hrun, hafter, rfl, hfailed, hafter ▸ hrows,
    (run_allOrNothing rfl writing dropping writing {} hbefore hrun hafter).2.2.2.1 hnot⟩

end Routine

end SharedPages
