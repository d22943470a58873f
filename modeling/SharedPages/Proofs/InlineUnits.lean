import SharedPages.Proofs.FaultlessUnits
import SharedPages.Proofs.ServedPages
import SharedPages.Proofs.StoredLogin

/-!
# Inline units of work stand in for a database

The services run their units of work inline or on a database. Inline, a unit is
nothing but its steps; on a database it is begun and committed, or nested and
released, or undone, and its error goes through two conversions. Where no statement
fails and no connection is checked out, nobody can tell the two apart by the
answers of the services or by what is stored: not call by call, and not after any
number of calls.

The steps of the services work on the memory and the supply alone. So wherever they
run, from worlds that share these two they come to the same and leave worlds that
share them (`Work.Agree`, `World.Shares`), and the database finds itself as it was
when it closes the unit.

One thing is up to the memory: which user is found by a uid that several have. So
lookups are a parameter (`Lookup`), and different ones agree while uids differ.

## Key results

- `Work.Agree.bind`: work one after another
- `UnitRunner.agrees_onDatabase`: a unit of work inline and on a database
- `ServiceCall.agree_serve`: a call of a service
- `ServiceCall.playAll_faithful`: any number of calls
-/

namespace SharedPages

open Scenario (World)

/-! ## Work that agrees -/

namespace Outcome

variable {ε ε' α γ : Type}

theorem mapError_ofExcept (f : ε → ε') (x : Except ε α) :
    (ofExcept x).mapError f = ofExcept (x.mapError f) := by
  cases x <;> rfl

theorem map_ofExcept (f : α → γ) (x : Except ε α) :
    (ofExcept x).map f = ofExcept (x.map f) := by
  cases x <;> rfl

end Outcome

namespace Work

variable {σ σ' ε ε' α γ : Type} {R : σ → σ' → Prop} {v : Work σ ε α} {v' : Work σ' ε α}

/-- From related states both come to the same value or the same error, and leave related states. -/
def Agree (R : σ → σ' → Prop) (v : Work σ ε α) (v' : Work σ' ε α) : Prop :=
  ∀ s s', R s s' → ∃ (x : Except ε α) (s₁ : σ) (s₁' : σ'),
    v s = (.ofExcept x, s₁) ∧ v' s' = (.ofExcept x, s₁') ∧ R s₁ s₁'

theorem agree_ofExcept (x : Except ε α) : Agree R (ofExcept x) (ofExcept x) :=
  fun s s' h => ⟨x, s, s', rfl, rfl, h⟩

theorem agree_done (a : α) : Agree R (done a : Work σ ε α) (done a) := agree_ofExcept (.ok a)

theorem agree_fail (e : ε) : Agree R (fail e : Work σ ε α) (fail e) := agree_ofExcept (.error e)

/-- Work one after another. -/
theorem Agree.bind {next : α → Work σ ε γ} {next' : α → Work σ' ε γ} (h : Agree R v v')
    (hnext : ∀ a, Agree R (next a) (next' a)) : Agree R (v >>= next) (v' >>= next') := by
  intro s s' hs
  obtain ⟨x, s₁, s₁', hv, hv', hs₁⟩ := h s s' hs
  -- Both end alike, so both go on or neither does.
  cases x with
  | ok a =>
    rw [bind_of_done hv, bind_of_done hv']
    exact hnext a s₁ s₁' hs₁
  | error e =>
    rw [bind_of_failed hv, bind_of_failed hv']
    exact ⟨.error e, s₁, s₁', rfl, rfl, hs₁⟩

/-- Outcomes that are changed in one way stay alike. -/
theorem Agree.mapOutcome (h : Agree R v v') {f : Outcome ε α → Outcome ε' γ}
    {g : Except ε α → Except ε' γ} (hf : ∀ x, f (.ofExcept x) = .ofExcept (g x)) :
    Agree R (v.mapOutcome f) (v'.mapOutcome f) := by
  intro s s' hs
  obtain ⟨x, s₁, s₁', hv, hv', hs₁⟩ := h s s' hs
  refine ⟨g x, s₁, s₁', ?_, ?_, hs₁⟩
  · rw [Work.mapOutcome, hv, hf]
  · rw [Work.mapOutcome, hv', hf]

theorem Agree.mapError (h : Agree R v v') (f : ε → ε') :
    Agree R (v.mapError f) (v'.mapError f) :=
  h.mapOutcome (Outcome.mapError_ofExcept f)

theorem Agree.mapValue (h : Agree R v v') (f : α → γ) :
    Agree R (v.mapOutcome (·.map f)) (v'.mapOutcome (·.map f)) :=
  h.mapOutcome (Outcome.map_ofExcept f)

end Work

open Work

/-! ## Worlds that share memory and supply -/

variable {β τ ℓ β' τ' ℓ' : Type}

/-- Related worlds share the memory and the supply, and stay related when they change alike. -/
structure Scenario.World.Shares (R : World β τ ℓ → World β' τ' ℓ' → Prop) : Prop where
  memory : ∀ {w w'}, R w w' → w.memory = w'.memory
  supply : ∀ {w w'}, R w w' → w.supply = w'.supply
  withMemory : ∀ {w w'}, R w w' → ∀ m, R { w with memory := m } { w' with memory := m }
  withSupply : ∀ {w w'}, R w w' → ∀ s, R { w with supply := s } { w' with supply := s }

namespace Scenario.World.Shares

variable {R : World β τ ℓ → World β' τ' ℓ' → Prop} (hR : Shares R) {ε α : Type}
include hR

theorem agree_read (f : Memory → α) :
    Agree R (Memory.read f : Work (World β τ ℓ) ε α) (Memory.read f) := by
  intro w w' h
  refine ⟨.ok (f w.memory), w, w', rfl, ?_, h⟩
  rw [hR.memory h]
  rfl

theorem agree_write (f : Memory → Memory) :
    Agree R (Memory.write f : Work (World β τ ℓ) ε Unit) (Memory.write f) := by
  intro w w' h
  refine ⟨.ok (), { w with memory := f w.memory }, { w' with memory := f w.memory }, rfl, ?_,
    hR.withMemory h _⟩
  rw [hR.memory h]
  rfl

theorem agree_freshId (kind : Kind) :
    Agree R (freshId kind : Work (World β τ ℓ) ε _) (freshId kind) := by
  intro w w' h
  refine ⟨.ok (w.supply.id kind).1, { w with supply := (w.supply.id kind).2 },
    { w' with supply := (w.supply.id kind).2 }, rfl, ?_, hR.withSupply h _⟩
  rw [hR.supply h]
  rfl

theorem agree_freshCode : Agree R (freshCode : Work (World β τ ℓ) ε _) freshCode := by
  intro w w' h
  refine ⟨.ok w.supply.code.1, { w with supply := w.supply.code.2 },
    { w' with supply := w.supply.code.2 }, rfl, ?_, hR.withSupply h _⟩
  rw [hR.supply h]
  rfl

end Scenario.World.Shares

open Scenario.World (Shares)

/-! ## Units of work -/

namespace UnitRunner

/-- Steps that come to the same in all worlds that share memory and supply come to the same as units
    of work of the two runners, in a context of each. -/
def Agrees (R : World β τ ℓ → World β' τ' ℓ' → Prop) (run : UnitRunner (World β τ ℓ))
    (ctx : Context) (run' : UnitRunner (World β' τ' ℓ')) (ctx' : Context) : Prop :=
  ∀ (ε α : Type) (steps : Context → Work (World β τ ℓ) ε α)
    (steps' : Context → Work (World β' τ' ℓ') ε α),
    (∀ Q, Shares Q → ∀ c c', Agree Q (steps c) (steps' c')) →
      Agree R (run ε α ctx steps) (run' ε α ctx' steps')

end UnitRunner

/-- The two worlds share memory and supply, and units of work can be run at the site in the second
    one. -/
structure Site.Matches (site : Site) (w : World β τ ℓ) (w' : World Store Session ℓ') : Prop where
  memory : w.memory = w'.memory
  supply : w.supply = w'.supply
  ready : site.Ready w'.database

theorem Site.shares_matches (site : Site) :
    Shares (site.Matches : World β τ ℓ → World Store Session ℓ' → Prop) where
  memory h := h.memory
  supply h := h.supply
  withMemory h _ := ⟨rfl, h.supply, h.ready⟩
  withSupply h _ := ⟨h.memory, rfl, h.ready⟩

namespace UnitRunner

variable {site : Site} {ctx' : Context}

/-- A unit of work comes to the same inline and on a database. -/
theorem agrees_onDatabase (ctx : Context) (hctx' : ctx'.transaction? = site.transaction?) :
    Agrees (site.Matches : World β τ ℓ → World Store Session ℓ' → Prop) inline ctx
      (onDatabase Store) ctx' := by
  intro ε α steps steps' hsteps w w' hmatches
  obtain ⟨inner, opened, innerSite, hadmits⟩ := site.run_ready hctx' hmatches.ready
  -- The steps do not touch the database, so they leave it as it was opened for them.
  let Q (v : World β τ ℓ) (v' : World Store Session ℓ') : Prop :=
    v.memory = v'.memory ∧ v.supply = v'.supply ∧ v'.database = opened
  have hQ : Shares Q :=
    ⟨fun h => h.1, fun h => h.2.1, fun h _ => ⟨rfl, h.2⟩, fun h _ => ⟨h.1, rfl, h.2.2⟩⟩
  obtain ⟨x, w₂, w₂', hinline, hdatabase, hmemory, hsupply, hopened⟩ := hsteps Q hQ ctx inner
    (counted w) { w' with database := opened } ⟨hmatches.memory, hmatches.supply, rfl⟩
  obtain ⟨d₃, hrun, hready⟩ := hadmits.ends steps' hdatabase (hopened ▸ hadmits.ready)
  refine ⟨x.mapError .aborted, w₂, { w₂' with database := d₃ }, ?_, ?_, hmemory, hsupply, hready⟩
  · have hcounted : inline ε α ctx steps w = (steps ctx).mapError .aborted (counted w) := rfl
    rw [hcounted, Work.mapError, mapOutcome, hinline, Outcome.mapError_ofExcept]
  · -- The error of the steps is neither what the database said nor lost on the way.
    have hcause : (x.mapError TransactionError.aborted).mapError
        (TransactionError.mapCause Cause.database) = x.mapError .aborted := by
      cases x <;> rfl
    rw [onDatabase, Work.mapError, mapOutcome, hrun, Outcome.mapError_ofExcept, hcause]

end UnitRunner

/-! ## Lookups -/

/-- A way to find a user by uid: some stored user who has it, if there is one. -/
structure Lookup where
  find? : Memory → String → Option User
  sound : ∀ {m uid u}, find? m uid = some u → u ∈ m.users.values ∧ u.uid = uid
  complete : ∀ {m uid u}, find? m uid = none → u ∈ m.users.values → u.uid ≠ uid

namespace Memory

/-- No two stored users have the same uid. -/
def DistinctUids (m : Memory) : Prop := (m.users.values.map (·.uid)).Nodup

instance (m : Memory) : Decidable m.DistinctUids :=
  inferInstanceAs (Decidable (List.map _ _).Nodup)

/-- The users in memory, where a lookup decides who is found by uid. -/
def usersBy {σ : Type} [Holds Memory σ] (look : Lookup) : UserRepository σ :=
  { userRepository with getByUid := fun _ uid => read (look.find? · uid) }

end Memory

namespace Lookup

/-- Finds the first in the order of identifiers. -/
def first : Lookup where
  find? m uid := m.users.values.find? (·.uid = uid)
  sound h := ⟨List.mem_of_find?_eq_some h, by simpa using List.find?_some h⟩
  complete h hu := by simpa using List.find?_eq_none.mp h _ hu

/-- Finds the last in the order of identifiers. -/
def last : Lookup where
  find? m uid := m.users.values.reverse.find? (·.uid = uid)
  sound h := ⟨List.mem_reverse.mp (List.mem_of_find?_eq_some h), by simpa using List.find?_some h⟩
  complete h hu := by simpa using List.find?_eq_none.mp h _ (List.mem_reverse.mpr hu)

/-- The users in memory are looked up like that. -/
theorem usersBy_first {σ : Type} [Holds Memory σ] :
    (Memory.usersBy first : UserRepository σ) = Memory.userRepository := rfl

/-- While uids differ, it does not matter how users are looked up. -/
theorem find?_eq_of_distinctUids {m : Memory} (h : m.DistinctUids) (look look' : Lookup)
    (uid : String) : look.find? m uid = look'.find? m uid := by
  cases hfound : look.find? m uid with
  | none =>
    -- A user that one finds is not missed by the other.
    cases hfound' : look'.find? m uid with
    | none => rfl
    | some u' =>
      obtain ⟨hu', huid'⟩ := look'.sound hfound'
      exact absurd huid' (look.complete hfound hu')
  | some u =>
    obtain ⟨hu, huid⟩ := look.sound hfound
    cases hfound' : look'.find? m uid with
    | none => exact absurd huid (look'.complete hfound' hu)
    | some u' =>
      obtain ⟨hu', huid'⟩ := look'.sound hfound'
      -- Both find a user with this identifier, and there is only one.
      rw [List.inj_on_of_nodup_map h hu hu' (huid.trans huid'.symm)]

end Lookup

/-! ## The services -/

section Services

variable {R : World β τ ℓ → World β' τ' ℓ' → Prop} (hR : Shares R) {ctx ctx' : Context}
  {run : UnitRunner (World β τ ℓ)} {run' : UnitRunner (World β' τ' ℓ')}

namespace PageService

theorem agree_currentUser (huser : ctx.user? = ctx'.user?) :
    Agree R (currentUser ctx) (currentUser ctx') := by
  rw [currentUser, currentUser, huser]
  exact agree_ofExcept _

include hR

theorem agree_load (id : PageId) :
    Agree R (load ⟨Memory.pageRepository, run⟩ ctx id)
      (load ⟨Memory.pageRepository, run'⟩ ctx' id) :=
  (hR.agree_read (·.pages.find? id)).bind fun _ => agree_ofExcept _

omit hR
variable (hrun : run.Agrees R ctx run' ctx') (huser : ctx.user? = ctx'.user?)
include hrun huser

include hR in
theorem agree_create (title : String) :
    Agree R (create ⟨Memory.pageRepository, run⟩ ctx title)
      (create ⟨Memory.pageRepository, run'⟩ ctx' title) := by
  refine (agree_currentUser huser).bind fun u => (agree_ofExcept _).bind fun _ => ?_
  refine (hR.agree_freshId _).bind fun id => hR.agree_freshCode.bind fun code => ?_
  refine (agree_ofExcept _).bind fun page => (hrun _ _ _ _ fun Q hQ c c' => ?_).mapError _
  exact (hQ.agree_write _).bind fun _ => agree_done _

theorem agree_update (id : PageId) (change : Page → User → Except PageError Page) :
    Agree R (update ⟨Memory.pageRepository, run⟩ ctx id change)
      (update ⟨Memory.pageRepository, run'⟩ ctx' id change) := by
  refine (agree_currentUser huser).bind fun u => (hrun _ _ _ _ fun Q hQ c c' => ?_).mapError _
  refine (agree_load hQ id).bind fun page => (agree_ofExcept _).bind fun page => ?_
  exact (hQ.agree_write _).bind fun _ => agree_done _

theorem agree_delete (id : PageId) :
    Agree R (delete ⟨Memory.pageRepository, run⟩ ctx id)
      (delete ⟨Memory.pageRepository, run'⟩ ctx' id) := by
  refine (agree_currentUser huser).bind fun u => (hrun _ _ _ _ fun Q hQ c c' => ?_).mapError _
  refine (agree_load hQ id).bind fun page => (agree_ofExcept _).bind fun _ => ?_
  exact hQ.agree_write _

include hR in
omit hrun in
theorem agree_get (id : PageId) :
    Agree R (get ⟨Memory.pageRepository, run⟩ ctx id)
      (get ⟨Memory.pageRepository, run'⟩ ctx' id) :=
  (agree_currentUser huser).bind fun _ => agree_load hR id

include hR in
omit hrun in
theorem agree_list (query : PageQuery) :
    Agree R (list ⟨Memory.pageRepository, run⟩ ctx query)
      (list ⟨Memory.pageRepository, run'⟩ ctx' query) := by
  refine (agree_currentUser huser).bind fun u => ?_
  exact hR.agree_read fun m : Memory =>
    PageQuery.select { query with createdBy := some u.id } m.pages.values

end PageService

variable (hrun : run.Agrees R ctx run' ctx') (huser : ctx.user? = ctx'.user?)
include hR hrun huser

/-- A request for pages comes to the same. -/
theorem PageRequest.agree_serve (command : PageCommand) :
    Agree R ((⟨ctx, command⟩ : PageRequest).serve ⟨Memory.pageRepository, run⟩)
      ((⟨ctx', command⟩ : PageRequest).serve ⟨Memory.pageRepository, run'⟩) := by
  cases command with
  | create title => exact (PageService.agree_create hR hrun huser title).mapValue _
  | get id => exact (PageService.agree_get hR huser id).mapValue _
  | list query => exact (PageService.agree_list hR huser query).mapValue _
  | update id request =>
    cases request <;> exact (PageService.agree_update hrun huser id _).mapValue _
  | delete id => exact (PageService.agree_delete hrun huser id).mapValue _

namespace UserService

variable {look look' : Lookup}

omit hR huser in
theorem agree_save (u : User) :
    Agree R (save ⟨Memory.usersBy look, run⟩ ctx u)
      (save ⟨Memory.usersBy look', run'⟩ ctx' u) := by
  refine Agree.mapError (hrun _ _ _ _ fun Q hQ c c' => ?_) _
  exact (hQ.agree_write _).bind fun _ => agree_done _

omit huser in
theorem agree_create (uid : String) :
    Agree R (create ⟨Memory.usersBy look, run⟩ ctx uid)
      (create ⟨Memory.usersBy look', run'⟩ ctx' uid) := by
  simp only [create]
  split
  · exact agree_fail _
  · exact (hR.agree_freshId _).bind fun id => agree_save hrun _

omit hR in
theorem agree_login (provider : String) (email : Option String) :
    Agree R (login ⟨Memory.usersBy look, run⟩ ctx provider email)
      (login ⟨Memory.usersBy look', run'⟩ ctx' provider email) := by
  rw [login, login, huser]
  exact (agree_ofExcept _).bind fun u => (agree_ofExcept _).bind fun u => agree_save hrun u

end UserService

/-- A call of the service for users comes to the same, however users are looked up. -/
theorem UserCall.agree_serve (look look' : Lookup) (request : UserRequest) :
    Agree R ((⟨ctx, request⟩ : UserCall).serve ⟨Memory.usersBy look, run⟩)
      ((⟨ctx', request⟩ : UserCall).serve ⟨Memory.usersBy look', run'⟩) := by
  cases request with
  | create uid => exact UserService.agree_create hR hrun uid
  | login provider email => exact UserService.agree_login hrun huser provider email

end Services

/-- What a user is told who asks for oneself. -/
def Lookup.self (look : Lookup) (ctx : Context) (m : Memory) : Except UserError User :=
  match ctx.user?.bind fun u => look.find? m u.uid with
  | some u => .ok u
  | none => .error .userNotFound

theorem UserService.get_eq (look : Lookup) (run : UnitRunner (World β τ ℓ)) (ctx : Context)
    (w : World β τ ℓ) :
    get ⟨Memory.usersBy look, run⟩ ctx w = (.ofExcept (look.self ctx w.memory), w) := by
  rw [get, Lookup.self]
  cases ctx.user? with
  | none => rfl
  | some u =>
    have hcarried : (Work.orFail .userNotFound (some u) : Work (World β τ ℓ) UserError User) w =
        (.done u, w) := rfl
    have hread : ((Memory.usersBy look).getByUid ctx u.uid : Work (World β τ ℓ) _ _) w =
        (.done (look.find? w.memory u.uid), w) := rfl
    rw [bind_of_done hcarried, bind_of_done hread, Option.bind_some]
    cases look.find? w.memory u.uid <;> rfl

/-! ## Calls -/

/-- What is asked of one of the services. -/
inductive ServiceRequest where
  | page (command : PageCommand)
  | user (request : UserRequest)
  /-- Asks for the user of the request as stored. -/
  | self

/-- A call of one of the services, and the context of its request. -/
structure ServiceCall where
  ctx : Context
  request : ServiceRequest

/-- What comes of a call. -/
inductive Answer where
  | page (o : Outcome PageError PageReply)
  | user (o : Outcome UserError User)

/-- The context for a request that is made inside a unit of work, which has the context `unit`. -/
def Context.inside (ctx unit : Context) : Context :=
  match unit.transaction? with
  | some id => ctx.withTransaction id
  | none => ctx

namespace ServiceCall

/-- The call in another context. -/
def inside (call : ServiceCall) (unit : Context) : ServiceCall :=
  { call with ctx := call.ctx.inside unit }

variable (look : Lookup) (run : UnitRunner (World β τ ℓ)) {ε : Type}

/-- Serves a call. -/
def serve (call : ServiceCall) : Work (World β τ ℓ) ε Answer :=
  match call.request with
  | .page command =>
    ((⟨call.ctx, command⟩ : PageRequest).serve ⟨Memory.pageRepository, run⟩).mapOutcome
      fun o => .done (.page o)
  | .user request =>
    ((⟨call.ctx, request⟩ : UserCall).serve ⟨Memory.usersBy look, run⟩).mapOutcome
      fun o => .done (.user o)
  | .self =>
    (UserService.get ⟨Memory.usersBy look, run⟩ call.ctx).mapOutcome fun o => .done (.user o)

/-- Serves calls one after the other. Takes down what comes of each of them and what is stored
    then. -/
def playAll : List ServiceCall → Work (World β τ ℓ) ε (List (Answer × Memory))
  | [] => Work.done []
  | call :: calls => do
    let answer ← call.serve look run
    let stored ← Memory.read id
    let rest ← playAll calls
    return (answer, stored) :: rest

end ServiceCall

theorem Context.user?_inside (ctx unit : Context) : (ctx.inside unit).user? = ctx.user? := by
  rw [inside]
  split
  · exact ctx.user?_withTransaction _
  · rfl

theorem Context.transaction?_inside {unit : Context} {id : TransactionId}
    (h : unit.transaction? = some id) (ctx : Context) :
    (ctx.inside unit).transaction? = some id := by
  simp only [inside, h]
  exact ctx.transaction?_withTransaction id

namespace ServiceCall

open UnitRunner

variable {look look' : Lookup} {run : UnitRunner (World β τ ℓ)} {ε : Type} {site : Site}
  {w w₁ w₂ : World β τ ℓ} {w' : World Store Session ℓ'} {call : ServiceCall}
  {calls : List ServiceCall} {answer : Answer} {answers : List (Answer × Memory)}

/-- A call always has an answer, which may be that it fails. -/
theorem exists_serve (ε : Type) (look : Lookup) (run : UnitRunner (World β τ ℓ))
    (call : ServiceCall) (w : World β τ ℓ) :
    ∃ answer w₁, (call.serve look run : Work _ ε _) w = (.done answer, w₁) := by
  obtain ⟨ctx, request⟩ := call
  cases request with
  | page command => exact ⟨_, _, rfl⟩
  | user request => exact ⟨_, _, rfl⟩
  | self => exact ⟨_, _, rfl⟩

theorem playAll_cons (hserve : (call.serve look run : Work _ ε _) w = (.done answer, w₂))
    (hrest : (playAll look run calls : Work _ ε _) w₂ = (.done answers, w₁)) :
    (playAll look run (call :: calls) : Work _ ε _) w =
      (.done ((answer, w₂.memory) :: answers), w₁) := by
  have hread : (Memory.read id : Work (World β τ ℓ) ε _) w₂ = (.done w₂.memory, w₂) := rfl
  rw [playAll, bind_of_done hserve, bind_of_done hread, bind_of_done hrest]
  rfl

theorem exists_playAll (ε : Type) (look : Lookup) (run : UnitRunner (World β τ ℓ))
    (calls : List ServiceCall) (w : World β τ ℓ) :
    ∃ answers w₁, (playAll look run calls : Work _ ε _) w = (.done answers, w₁) := by
  induction calls generalizing w with
  | nil => exact ⟨[], w, rfl⟩
  | cons call calls ih =>
    obtain ⟨answer, w₂, hserve⟩ := exists_serve ε look run call w
    obtain ⟨answers, w₁, hrest⟩ := ih w₂
    exact ⟨_, w₁, playAll_cons hserve hrest⟩

/-- A call has the same answer inline and on a database, if the user of the request is the same and
    the lookups agree. -/
theorem agree_serve (ε : Type) (hmatches : site.Matches w w') {ctx' : Context}
    (huser : call.ctx.user? = ctx'.user?) (hctx' : ctx'.transaction? = site.transaction?)
    (hlook : ∀ uid, look.find? w.memory uid = look'.find? w.memory uid) :
    ∃ answer w₁ w₁', (call.serve look inline : Work _ ε _) w = (.done answer, w₁) ∧
      (serve look' (onDatabase Store) { call with ctx := ctx' } : Work _ ε _) w' =
        (.done answer, w₁') ∧ site.Matches w₁ w₁' := by
  obtain ⟨ctx, request⟩ := call
  have hruns : Agrees (site.Matches : World β τ ℓ → World Store Session ℓ' → Prop) inline ctx
    (onDatabase Store) ctx' := agrees_onDatabase ctx hctx'
  cases request with
  | page command =>
    -- The answer on either side is that of the service, with failures as answers.
    obtain ⟨x, w₁, w₁', hinline, hdatabase, h⟩ :=
      PageRequest.agree_serve site.shares_matches hruns huser command w w' hmatches
    refine ⟨.page (.ofExcept x), w₁, w₁', ?_, ?_, h⟩
    · simp only [serve, mapOutcome, hinline]
    · simp only [serve, mapOutcome, hdatabase]
  | user request =>
    obtain ⟨x, w₁, w₁', hinline, hdatabase, h⟩ :=
      UserCall.agree_serve site.shares_matches hruns huser look look' request w w' hmatches
    refine ⟨.user (.ofExcept x), w₁, w₁', ?_, ?_, h⟩
    · simp only [serve, mapOutcome, hinline]
    · simp only [serve, mapOutcome, hdatabase]
  | self =>
    -- Looking oneself up runs no unit, so it is enough that both find the same user.
    have hself : look'.self ctx' w'.memory = look.self ctx w.memory := by
      simp only [Lookup.self, ← huser, ← hmatches.memory, hlook]
    refine ⟨.user (.ofExcept (look.self ctx w.memory)), w, w', ?_, ?_, hmatches⟩
    · simp only [serve, mapOutcome, UserService.get_eq]
    · simp only [serve, mapOutcome, UserService.get_eq, hself]

/-- So have any number of calls. -/
theorem playAll_agree (move : Context → Context)
    (hmove : ∀ ctx, ctx.user? = (move ctx).user?)
    (hctx : ∀ call ∈ calls, (move call.ctx).transaction? = site.transaction?)
    (hmatches : site.Matches w w')
    (hplay : (playAll look inline calls : Work _ ε _) w = (.done answers, w₁))
    (hlook : ∀ m ∈ w.memory :: answers.map (·.2), ∀ uid, look.find? m uid = look'.find? m uid) :
    ∃ w₁', (playAll look' (onDatabase Store)
        (calls.map fun call => { call with ctx := move call.ctx }) : Work _ ε _) w' =
          (.done answers, w₁') ∧ site.Matches w₁ w₁' := by
  induction calls generalizing w w' answers with
  | nil =>
    cases hplay
    exact ⟨w', rfl, hmatches⟩
  | cons call calls ih =>
    -- The call is served first, and what it leaves matches, so the rest goes on from there.
    obtain ⟨answer, w₂, w₂', hserve, hserve', hmatches₂⟩ := agree_serve ε
      hmatches (hmove call.ctx) (hctx call List.mem_cons_self) (hlook _ List.mem_cons_self)
    obtain ⟨rest, w₃, hrest⟩ := exists_playAll ε look inline calls w₂
    cases (playAll_cons hserve hrest).symm.trans hplay
    obtain ⟨w₁', hrest', hmatches₁⟩ := ih (fun call h => hctx call (List.mem_cons_of_mem _ h))
      hmatches₂ hrest fun m hm => hlook m (List.mem_cons_of_mem _ hm)
    refine ⟨w₁', ?_, hmatches₁⟩
    rw [List.map_cons, playAll_cons hserve' hrest', hmatches₂.memory]

/-- Inline units of work stand in for units on a database where no statement is made to fail. In any
    contexts, any calls of the services have the same answers, values and errors alike, and after
    each of them the same is stored: if the contexts carry no transaction; or all carry one that is
    open, with no connection of it checked out; or if all calls are made inside one unit of work,
    which may itself be nested in such a transaction. Users may be looked up in two different ways
    as long as their uids differ, and the repository in memory has one of these ways. -/
theorem playAll_faithful (ε : Type) (look look' : Lookup) (calls : List ServiceCall)
    (hmemory : w.memory = w'.memory) (hsupply : w.supply = w'.supply)
    (hnil : w'.database.backend.failures = []) :
    (Memory.usersBy .first : UserRepository (World β τ ℓ)) = Memory.userRepository ∧
    ∃ answers w₁, (playAll look inline calls : Work _ ε _) w = (.done answers, w₁) ∧
      ((look' = look ∨ ∀ m ∈ w.memory :: answers.map (·.2), m.DistinctUids) →
        ∀ ctx, w'.database.Accepts ctx →
          ((∀ call ∈ calls, call.ctx.transaction? = ctx.transaction?) →
            ∃ w₁', (playAll look' (onDatabase Store) calls : Work _ ε _) w' =
              (.done answers, w₁') ∧ w₁'.memory = w₁.memory) ∧
          ∃ w₁', (Database.run Store ctx fun unit => (playAll look' (onDatabase Store)
              (calls.map (·.inside unit)) : Work (World Store Session ℓ') ε _)) w' =
            (.done answers, w₁') ∧ w₁'.memory = w₁.memory) := by
  obtain ⟨answers, w₁, hplay⟩ := exists_playAll ε look inline calls w
  refine ⟨Lookup.usersBy_first, answers, w₁, hplay, fun hunique ctx haccepts => ?_⟩
  -- Two searches agree on every memory between the calls, or they are the same search.
  have hlook : ∀ m ∈ w.memory :: answers.map (·.2),
      ∀ uid, look.find? m uid = look'.find? m uid := by
    rcases hunique with rfl | hdistinct
    · exact fun _ _ _ => rfl
    · exact fun m hm => Lookup.find?_eq_of_distinctUids (hdistinct m hm) look look'
  -- The accepted context is outside of any transaction or in one that is ready for units.
  obtain ⟨site, hsite, hready⟩ := Site.exists_of_accepts haccepts hnil
  constructor
  · -- The calls run by themselves, each in its own context.
    intro hctx
    obtain ⟨w₁', hplay', hmatches⟩ := playAll_agree id (fun _ => rfl)
      (fun call hcall => (hctx call hcall).trans hsite) ⟨hmemory, hsupply, hready⟩ hplay hlook
    have hsame : (calls.map fun call => { call with ctx := id call.ctx }) = calls :=
      List.map_id calls
    rw [hsame] at hplay'
    exact ⟨w₁', hplay', hmatches.memory.symm⟩
  · -- Inside the unit, the calls find a site of their own.
    obtain ⟨inner, opened, innerSite, hadmits⟩ := site.run_ready hsite hready
    obtain ⟨id, hinner, hinnerSite⟩ := hadmits.transaction
    have hopened : innerSite.Matches w { w' with database := opened } :=
      ⟨hmemory, hsupply, hadmits.ready⟩
    obtain ⟨w₂', hplay', hmatches⟩ := playAll_agree (·.inside inner)
      (fun ctx => (ctx.user?_inside inner).symm)
      (fun call _ => (Context.transaction?_inside hinner call.ctx).trans hinnerSite.symm)
      hopened hplay hlook
    obtain ⟨d₃, hrun, -⟩ := hadmits.ends (fun unit => playAll look' (onDatabase Store)
      (calls.map (·.inside unit))) (x := .ok answers) hplay' hmatches.ready
    exact ⟨_, hrun, hmatches.memory.symm⟩

/-- Ann adds a link to her page and looks at herself, and Bob is refused. Each of the two
    repositories looks users up in a way of its own. -/
theorem playAll_faithful_mixed :
    let ann : User := .new ⟨.ofNat 1⟩ "ann"
    let bob : User := .new ⟨.ofNat 2⟩ "bob"
    let page : Page := ⟨⟨.ofNat 7⟩, "Title", ann, "code", [], []⟩
    let w : World Store Session Unit :=
      { database := { backend := {} }, memory := .ofStored [ann, bob] [page] }
    let asAnn := Context.background.withUser ann
    let calls : List ServiceCall := [⟨asAnn, .page (.update page.id (.addLink "a" ""))⟩,
      ⟨Context.background.withUser bob, .page (.update page.id (.removeLink "a"))⟩, ⟨asAnn, .self⟩]
    ∃ answers : List (Answer × Memory),
      answers.map (·.1) = [.page (.done (.page { page with links := [⟨"a", "", .ofNat 0⟩] })),
        .page (.failed .notCreatedByUser), .user (.done ann)] ∧
      ((playAll .first UnitRunner.inline calls : Work _ Empty _) w).1 = .done answers ∧
      ((playAll .last (onDatabase Store) calls : Work _ Empty _) w).1 = .done answers ∧
      ((Database.run Store .background fun unit => (playAll .last (onDatabase Store)
        (calls.map (·.inside unit)) : Work (World Store Session Unit) Empty _)) w).1 =
          .done answers := by
  intro ann bob page w asAnn calls
  have hmemory : w.memory = w.memory := rfl
  obtain ⟨-, answers, w₁, hplay, hsame⟩ :=
    playAll_faithful Empty .first .last calls hmemory rfl rfl
  -- The inline run is evaluated, and the other two follow from it.
  have hplayed : ∃ as : List (Answer × Memory),
      ((playAll .first UnitRunner.inline calls : Work _ Empty _) w).1 = .done as ∧
        as.map (·.1) = [.page (.done (.page { page with links := [⟨"a", "", .ofNat 0⟩] })),
          .page (.failed .notCreatedByUser), .user (.done ann)] ∧
        ∀ m ∈ w.memory :: as.map (·.2), m.DistinctUids :=
    ⟨_, rfl, rfl, by decide +kernel⟩
  obtain ⟨as, has, hanswers, hdistinct⟩ := hplayed
  rw [hplay] at has
  cases has
  obtain ⟨hcalls, w₂, hunit, -⟩ := hsame (.inr hdistinct) .background
    (Database.accepts_of_no_transaction rfl)
  have hplain : ∀ call ∈ calls, call.ctx.transaction? = Context.background.transaction? := by
    decide +kernel
  obtain ⟨w₃, hplain, -⟩ := hcalls hplain
  exact ⟨answers, hanswers, by rw [hplay], by rw [hplain], by rw [hunit]⟩

end ServiceCall

end SharedPages
