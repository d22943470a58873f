import SharedPages.Proofs.Preservation
import SharedPages.Proofs.Units
import SharedPages.Scenario.World
import SharedPages.Service.User

/-!
# Logins that are stored

A user logs in once: the rule is `User.login`, and it looks at the user whom it is
given. The service gives it the user of the request, as the context carries it,
and stores what comes of it. Whoever is stored under that identifier by then is
not looked at. So a stored login stays as long as no context comes with the
anonymous user from before it (`UserCall.Current`), and is overwritten if one
does.

Nothing depends on how the service runs its units of work, as long as they run
their steps once at most and leave the memory alone otherwise
(`UnitRunner.RunsOnce`).

## Key results

- `UnitRunner.runsOnce_inline`, `UnitRunner.runsOnce_onDatabase`: the two ways to run units
- `UserCall.after_cases`: what a call does to the memory
- `UserCall.play_keeps_login`: when stored logins stay
- `UserCall.find?_after_login`: a login overwrites whatever is stored
-/

namespace SharedPages

open Scenario (World)

variable {β τ ℓ : Type}

/-! ## Units of work and the memory -/

/-- The runner runs the steps of a unit once at most. It does not touch the memory itself, and does
    not undo what they store there. -/
def UnitRunner.RunsOnce (runner : UnitRunner (World β τ ℓ)) : Prop :=
  ∀ (ε α : Type) (ctx : Context) (steps : Context → Work (World β τ ℓ) ε α) (w : World β τ ℓ),
    (runner ε α ctx steps w).2.memory = w.memory ∨ ∃ ctx' w',
      w'.memory = w.memory ∧ (runner ε α ctx steps w).2.memory = (steps ctx' w').2.memory

namespace UnitRunner

open Work

theorem runsOnce_inline : RunsOnce (inline : UnitRunner (World β τ ℓ)) := fun _ _ ctx _ w =>
  .inr ⟨ctx, { w with inlineCalls := ⟨w.inlineCalls.count + 1⟩ }, rfl, rfl⟩

/-- What is done around steps, before and after them, leaves the memory alone. -/
private theorem around_steps {ε ε' α α' γ : Type} {opening : Work (World β τ ℓ) ε γ}
    (steps : Context → Work (World β τ ℓ) ε' α') (ctx : γ → Context)
    {closing : γ → Outcome ε' α' → Work (World β τ ℓ) ε α}
    (hopening : ∀ m, opening.Keeps (·.memory = m))
    (hclosing : ∀ c o m, (closing c o).Keeps (·.memory = m)) (w : World β τ ℓ) :
    ((opening >>= fun c => (steps (ctx c)).outcome >>= closing c) w).2.memory = w.memory ∨
      ∃ ctx' w', w'.memory = w.memory ∧
        ((opening >>= fun c => (steps (ctx c)).outcome >>= closing c) w).2.memory =
          (steps ctx' w').2.memory := by
  -- Opening does not touch the memory, and closing leaves what the steps made of it.
  have hopened := hopening w.memory w rfl
  cases h : opening w with
  | mk o w' =>
    rw [h] at hopened
    cases o with
    | done c =>
      rw [bind_of_done h, bind_outcome]
      exact .inr ⟨ctx c, w', hopened, hclosing c _ _ _ rfl⟩
    | failed e =>
      rw [bind_of_failed h]
      exact .inl hopened
    | panicked p =>
      rw [bind_of_panicked h]
      exact .inl hopened
    | suspended =>
      rw [bind_of_suspended h]
      exact .inl hopened

variable [Backend β τ]

omit [Backend β τ] in
/-- Work on the database is no work on the memory. -/
private theorem keeps_on {ε α : Type} (w : Work (Database β τ) ε α) (m : Memory) :
    (w.on : Work (World β τ ℓ) ε α).Keeps (·.memory = m) := fun _ h => h

open Database in
theorem runsOnce_onDatabase : RunsOnce (onDatabase β : UnitRunner (World β τ ℓ)) := by
  intro ε α ctx steps w
  have hmemory : (onDatabase β ε α ctx steps w).2 = (Database.run β ctx steps w).2 := rfl
  rw [hmemory]
  -- Inside a transaction the steps stand between savepoints, and else between BEGIN and its end.
  cases hctx : ctx.transaction? with
  | some id =>
    rw [run_of_transaction steps hctx]
    refine around_steps steps (fun _ => ctx) (fun m => keeps_on _ m) ?_ w
    intro sp o m
    cases o with
    | done a => exact .bind (keeps_on _ m) fun _ => keeps_done a
    | failed e =>
      refine .bind (Keeps.outcome (keeps_on _ m)) fun o => ?_
      cases o <;> exact keeps_fail _
    | panicked p => exact .bind (Keeps.outcome (keeps_on _ m)) fun _ => keeps_panic p
    | suspended => exact .bind (keeps_modify fun _ h => h) fun _ => keeps_pend
  | none =>
    rw [run_of_no_transaction steps hctx]
    refine around_steps steps (fun id => ctx.withTransaction id) (fun m => keeps_on _ m) ?_ w
    intro id o m
    cases o with
    | done a => exact .bind (keeps_on _ m) fun _ => keeps_done a
    | failed e =>
      refine .bind (Keeps.outcome (keeps_on _ m)) fun o => ?_
      cases o <;> exact keeps_fail _
    | panicked p => exact .bind (Keeps.outcome (keeps_on _ m)) fun _ => keeps_panic p
    | suspended => exact keeps_pend

end UnitRunner

/-! ## Calls -/

/-- What is asked of the service for users. -/
inductive UserRequest where
  | create (uid : String)
  | login (provider : String) (email : Option String)

/-- A call of the service, and the context of its request. -/
structure UserCall where
  ctx : Context
  request : UserRequest

namespace User

variable {u u' : User} {provider : String} {email : Option String}

/-- An anonymous user can log in with an email and a known provider, and nobody else can. -/
theorem login_eq_ok_iff :
    u.login provider email = .ok u' ↔ u.provider = .anonymous ∧
      ∃ e p, email = some e ∧ Provider.ofName? provider = some p ∧
        u' = { u with provider := p, email := some e } := by
  cases email with
  | none => exact ⟨(nomatch ·), fun ⟨_, _, _, h, _⟩ => nomatch h⟩
  | some e =>
    cases hp : Provider.ofName? provider with
    | none =>
      have hread : readProvider provider = .error (.invalidProvider provider) := by
        simp only [readProvider, hp]
      simp [login, hread, bind, Except.bind]
    | some p =>
      have hread : readProvider provider = .ok p := by simp only [readProvider, hp]
      by_cases hanonymous : u.provider = .anonymous
      · simp [login, hread, bind, Except.bind, hanonymous, eq_comm]
      · simp [login, hread, bind, Except.bind, hanonymous]

theorem id_of_login (h : u.login provider email = .ok u') : u'.id = u.id := by
  obtain ⟨-, _, _, -, -, rfl⟩ := login_eq_ok_iff.mp h
  rfl

end User

namespace UserCall

section Definitions

variable (runner : UnitRunner (World β τ ℓ))

/-- Serves a call. -/
def serve {σ : Type} [Holds Supply σ] (service : UserService σ) (call : UserCall) :
    Work σ UserError User :=
  match call.request with
  | .create uid => service.create call.ctx uid
  | .login provider email => service.login call.ctx provider email

/-- What is left by a call of the service on users in memory. -/
def after (w : World β τ ℓ) (call : UserCall) : World β τ ℓ :=
  (call.serve ⟨Memory.userRepository, runner⟩ w).2

/-- What is left by some calls. -/
def play (w : World β τ ℓ) (calls : List UserCall) : World β τ ℓ := calls.foldl (after runner) w

/-- The user that a call is to store, unless it is refused. -/
def written? (call : UserCall) (supply : Supply) : Option User :=
  match call.request with
  | .create uid => if uid.isEmpty then none else some (.new (supply.id .user).1 uid)
  | .login provider email => call.ctx.user?.bind fun u => (u.login provider email).toOption

/-- A new user gets an identifier under which nobody is stored. -/
def Fresh (call : UserCall) (w : World β τ ℓ) : Prop :=
  ∀ uid, call.request = .create uid → w.memory.users.find? (w.supply.id .user).1 = none

/-- The context of a login is not from before a login that is stored, except where it is the same
    login that is asked for. -/
def Current (call : UserCall) (m : Memory) : Prop :=
  ∀ provider email, call.request = .login provider email → ∀ u stored, call.ctx.user? = some u →
    m.users.find? u.id = some stored → stored.provider ≠ .anonymous →
      ∀ u', u.login provider email = .ok u' →
        u'.provider = stored.provider ∧ u'.email = stored.email

/-- All calls have fresh identifiers and current contexts when they are served. -/
def AllCurrent (w : World β τ ℓ) : List UserCall → Prop
  | [] => True
  | call :: calls => call.Fresh w ∧ call.Current w.memory ∧ AllCurrent (call.after runner w) calls

end Definitions

variable {runner : UnitRunner (World β τ ℓ)} {w : World β τ ℓ} {call : UserCall} {id : UserId}
  {u u' : User}

/-! ## One call -/

/-- A login of a user whom the context carries. -/
private theorem after_login (runner : UnitRunner (World β τ ℓ)) (w : World β τ ℓ)
    {provider : String} {email : Option String} (hrequest : call.request = .login provider email)
    (hu : call.ctx.user? = some u) :
    call.after runner w = match u.login provider email with
      | .ok u' => ((UserService.save ⟨Memory.userRepository, runner⟩ call.ctx u') w).2
      | .error _ => w := by
  simp only [after, serve, hrequest, UserService.login, hu]
  have hcarried : (Work.orFail .userNotFound (some u) : Work (World β τ ℓ) UserError User) w =
      (.done u, w) := rfl
  rw [Work.bind_of_done hcarried]
  cases hlogin : u.login provider email <;> rfl

/-- Storing a user in a unit of work stores that user, or nothing. -/
private theorem save_cases (hruns : runner.RunsOnce) (ctx : Context) (u : User) (w : World β τ ℓ) :
    ((UserService.save ⟨Memory.userRepository, runner⟩ ctx u) w).2.memory = w.memory ∨
      ((UserService.save ⟨Memory.userRepository, runner⟩ ctx u) w).2.memory =
        w.memory.saveUser u := by
  rcases hruns UserError User ctx (fun ctx => do
    (Memory.userRepository : UserRepository (World β τ ℓ)).save ctx u
    return u) w with hsame | ⟨_, w', hw', hsteps⟩
  · exact .inl hsame
  · right
    rw [← hw']
    exact hsteps

/-- A call stores the user that it is to store, or nothing. -/
theorem after_cases (hruns : runner.RunsOnce) (w : World β τ ℓ) (call : UserCall) :
    (call.after runner w).memory = w.memory ∨
      ∃ u, call.written? w.supply = some u ∧
        (call.after runner w).memory = w.memory.saveUser u := by
  obtain ⟨ctx, request⟩ := call
  cases request with
  | create uid =>
    cases hempty : uid.isEmpty with
    | true =>
      left
      simp only [after, serve, UserService.create, hempty]
      rfl
    | false =>
      -- The identifier is drawn from the supply, and the memory is as it was then.
      have hafter : (after runner w ⟨ctx, .create uid⟩).memory =
          (UserService.save ⟨Memory.userRepository, runner⟩ ctx (.new (w.supply.id .user).1 uid)
            { w with supply := (w.supply.id .user).2 }).2.memory := by
        simp only [after, serve, UserService.create, hempty]
        rfl
      rw [hafter]
      exact (save_cases hruns ctx _ _).imp_right fun hsaved =>
        ⟨_, by simp [written?, hempty], hsaved⟩
  | login provider email =>
    cases hu : ctx.user? with
    | none =>
      left
      simp only [after, serve, UserService.login, hu]
      rfl
    | some u =>
      rw [after_login runner w rfl hu]
      cases hlogin : u.login provider email with
      | error e => exact .inl rfl
      | ok u' =>
        exact (save_cases hruns ctx u' w).imp_right fun hsaved =>
          ⟨u', by simp [written?, hu, hlogin, Except.toOption], hsaved⟩

/-- Nobody but a user who is not stored yet is created, and a login keeps the identifier. -/
theorem written?_cases {supply : Supply} (h : call.written? supply = some u) :
    (∃ uid, call.request = .create uid ∧ u.id = (supply.id .user).1) ∨
      ∃ provider email u₀, call.request = .login provider email ∧ call.ctx.user? = some u₀ ∧
        u₀.login provider email = .ok u := by
  obtain ⟨ctx, request⟩ := call
  cases request with
  | create uid =>
    -- Nobody is created without a `uid`.
    simp only [written?] at h
    split at h
    · cases h
    · cases h
      exact .inl ⟨uid, rfl, rfl⟩
  | login provider email =>
    obtain ⟨u₀, hu₀, hlogin⟩ := Option.bind_eq_some_iff.mp h
    refine .inr ⟨provider, email, u₀, rfl, hu₀, ?_⟩
    cases hu : u₀.login provider email with
    | error e => rw [hu] at hlogin; cases hlogin
    | ok u' => rw [hu] at hlogin; cases hlogin; rfl

/-- The call leaves the login of every user who is stored with one. -/
def KeepsLogins (runner : UnitRunner (World β τ ℓ)) (w : World β τ ℓ) (call : UserCall) : Prop :=
  ∀ id u, w.memory.users.find? id = some u → u.provider ≠ .anonymous →
    ∃ u', (call.after runner w).memory.users.find? id = some u' ∧ u'.provider = u.provider ∧
      u'.email = u.email

theorem keepsLogins_of_current (hruns : runner.RunsOnce) (hfresh : call.Fresh w)
    (hcurrent : call.Current w.memory) : call.KeepsLogins runner w := by
  intro id u hstored hlogin
  -- A call writes at most one user, so another user is as stored before.
  rcases after_cases hruns w call with hsame | ⟨v, hwritten, hsaved⟩
  · exact ⟨u, by rw [hsame, hstored], rfl, rfl⟩
  · rw [hsaved, Memory.saveUser, Table.find?_insert]
    by_cases hid : v.id = id
    · rw [if_pos hid]
      rcases written?_cases hwritten with ⟨uid, hcreate, hnew⟩ | ⟨_, _, u₀, hrequest, hu₀, hv⟩
      · -- Nobody is stored under the identifier of a new user.
        rw [← hid, hnew, hfresh uid hcreate] at hstored
        cases hstored
      · -- The login is of this user, and then a current context makes it the same login.
        rw [← hid, User.id_of_login hv] at hstored
        exact ⟨v, rfl, hcurrent _ _ hrequest u₀ u hu₀ hstored hlogin v hv⟩
    · rw [if_neg hid]
      exact ⟨u, hstored, rfl, rfl⟩

/-- An inline login overwrites whatever is stored under the identifier of the user. -/
theorem find?_after_login {provider : String} {email : Option String}
    (hrequest : call.request = .login provider email) (hu : call.ctx.user? = some u)
    (hlogin : u.login provider email = .ok u') :
    (call.after UnitRunner.inline w).memory.users.find? u.id = some u' := by
  rw [after_login _ w hrequest hu, hlogin]
  have hsaved : (UserService.save ⟨Memory.userRepository, UnitRunner.inline⟩ call.ctx u'
      w).2.memory = w.memory.saveUser u' := rfl
  simp only [hsaved, Memory.saveUser, Table.find?_insert, User.id_of_login hlogin, if_true]

/-- Inline, current contexts are exactly what it takes. -/
theorem keepsLogins_iff_current (hfresh : call.Fresh w) :
    call.KeepsLogins UnitRunner.inline w ↔ call.Current w.memory := by
  refine ⟨?_, keepsLogins_of_current UnitRunner.runsOnce_inline hfresh⟩
  intro hkeeps provider email hrequest u stored hu hstored hlogin u' hu'
  obtain ⟨v, hv, hsame⟩ := hkeeps u.id stored hstored hlogin
  rw [find?_after_login hrequest hu hu'] at hv
  cases hv
  exact hsame

/-! ## Many calls -/

theorem play_append (runner : UnitRunner (World β τ ℓ)) (w : World β τ ℓ)
    (first rest : List UserCall) :
    play runner w (first ++ rest) = play runner (play runner w first) rest := List.foldl_append

theorem AllCurrent.of_append {first rest : List UserCall}
    (h : AllCurrent runner w (first ++ rest)) : AllCurrent runner (play runner w first) rest := by
  induction first generalizing w with
  | nil => exact h
  | cons call first ih => exact ih h.2.2

/-- Calls keep a login that is stored, as long as all contexts are current. -/
private theorem keeps_login_of_allCurrent (hruns : runner.RunsOnce) {first rest : List UserCall}
    (hcurrent : AllCurrent runner w (first ++ rest))
    (hstored : (play runner w first).memory.users.find? id = some u)
    (hlogin : u.provider ≠ .anonymous) :
    ∃ u', (play runner w (first ++ rest)).memory.users.find? id = some u' ∧
      u'.provider = u.provider ∧ u'.email = u.email := by
  -- Only the calls after the login matter, and the world in which they start is arbitrary.
  replace hcurrent := hcurrent.of_append
  rw [play_append]
  generalize play runner w first = w₁ at hcurrent hstored
  induction rest generalizing w₁ u with
  | nil => exact ⟨u, hstored, rfl, rfl⟩
  | cons call rest ih =>
    obtain ⟨hfresh, hnow, hlater⟩ := hcurrent
    obtain ⟨u₁, hstored₁, hprovider, hemail⟩ :=
      keepsLogins_of_current hruns hfresh hnow id u hstored hlogin
    obtain ⟨u', hstored', hprovider', hemail'⟩ := ih (hprovider ▸ hlogin) _ hlater hstored₁
    exact ⟨u', hstored', hprovider'.trans hprovider, hemail'.trans hemail⟩

/-- Once a user is stored with a login, no later call changes it, as long as all contexts are
    current, whatever runs the units of work, inline or on a database. Inline, that is exactly what
    a call needs in order to leave all logins. -/
theorem play_keeps_login :
    ((UnitRunner.inline : UnitRunner (World β τ ℓ)).RunsOnce ∧
      ∀ [Backend β τ], (UnitRunner.onDatabase β : UnitRunner (World β τ ℓ)).RunsOnce) ∧
    (∀ (runner : UnitRunner (World β τ ℓ)), runner.RunsOnce →
      ∀ (w : World β τ ℓ) (first rest : List UserCall) (id : UserId) (u : User),
        AllCurrent runner w (first ++ rest) →
        (play runner w first).memory.users.find? id = some u → u.provider ≠ .anonymous →
          ∃ u', (play runner w (first ++ rest)).memory.users.find? id = some u' ∧
            u'.provider = u.provider ∧ u'.email = u.email) ∧
    ∀ (w : World β τ ℓ) (call : UserCall), call.Fresh w →
      (call.KeepsLogins UnitRunner.inline w ↔ call.Current w.memory) :=
  ⟨⟨UnitRunner.runsOnce_inline, UnitRunner.runsOnce_onDatabase⟩,
    fun _ hruns _ _ _ _ _ hcurrent hstored hlogin =>
      keeps_login_of_allCurrent hruns hcurrent hstored hlogin,
    fun _ _ hfresh => keepsLogins_iff_current hfresh⟩

/-- Ann logs in, and then tries to log in once more with a context that knows of it. -/
theorem play_keeps_login_again :
    let ann : User := .new ⟨.ofNat 1⟩ "ann"
    let known : User := { ann with provider := .google, email := some "ann@example.com" }
    let w : World Store Session Unit :=
      { database := { backend := {} }, memory := .ofStored [ann] [] }
    let first : List UserCall :=
      [⟨Context.background.withUser ann, .login "google" (some "ann@example.com")⟩]
    let rest : List UserCall :=
      [⟨Context.background.withUser known, .login "facebook" (some "eve@example.com")⟩]
    AllCurrent UnitRunner.inline w (first ++ rest) ∧
      ∃ u, (play UnitRunner.inline w (first ++ rest)).memory.users.find? ann.id = some u ∧
        u.provider = .google ∧ u.email = some "ann@example.com" := by
  intro ann known w first rest
  have hcurrent : AllCurrent UnitRunner.inline w (first ++ rest) := by
    refine ⟨by rintro _ ⟨⟩, ?_, by rintro _ ⟨⟩, ?_, trivial⟩
    · rintro _ _ ⟨⟩ u stored ⟨⟩ hstored hlogin
      obtain rfl : ann = stored := Option.some.inj hstored
      exact absurd rfl hlogin
    · rintro _ _ ⟨⟩ u stored ⟨⟩ - - u' hu'
      cases (User.login_eq_ok_iff.mp hu').1
  obtain ⟨⟨hinline, -⟩, hkeeps, -⟩ := @play_keeps_login Store Session Unit
  exact ⟨hcurrent, hkeeps _ hinline w first rest ann.id known hcurrent rfl (by decide)⟩

/-- The users whom the contexts carry were stored like that at some time before. -/
def Remembered (runner : UnitRunner (World β τ ℓ)) (w : World β τ ℓ) (calls : List UserCall) :
    Prop :=
  ∀ before call after, calls = before ++ call :: after → ∀ u, call.ctx.user? = some u →
    ∃ earlier, earlier <+: before ∧ (play runner w earlier).memory.users.find? u.id = some u

/-- A context from before a login overwrites it, if it is used once more. -/
theorem play_loses_login :
    let ann : User := .new ⟨.ofNat 1⟩ "ann"
    let ctx := Context.background.withUser ann
    let w : World Store Session Unit :=
      { database := { backend := {} }, memory := .ofStored [ann] [] }
    let first : List UserCall := [⟨ctx, .login "google" (some "ann@example.com")⟩]
    let rest : List UserCall := [⟨ctx, .login "facebook" (some "eve@example.com")⟩]
    Remembered UnitRunner.inline w (first ++ rest) ∧
      (play UnitRunner.inline w first).memory.users.find? ann.id =
        some { ann with provider := .google, email := some "ann@example.com" } ∧
      (play UnitRunner.inline w (first ++ rest)).memory.users.find? ann.id =
        some { ann with provider := .facebook, email := some "eve@example.com" } := by
  intro ann ctx w first rest
  refine ⟨?_, rfl, rfl⟩
  intro before call after hcalls u hu
  -- Both contexts carry the user who was stored in the beginning.
  have hmem : call ∈ first ++ rest := by simp [hcalls]
  have hctx : call.ctx = ctx := by
    rcases List.mem_append.mp hmem with h | h
    · rw [List.mem_singleton.mp h]
    · rw [List.mem_singleton.mp h]
  have hann : ctx.user? = some ann := rfl
  rw [hctx, hann] at hu
  cases hu
  exact ⟨[], List.nil_prefix, rfl⟩

end UserCall

end SharedPages
