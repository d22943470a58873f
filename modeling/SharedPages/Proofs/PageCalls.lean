import SharedPages.Proofs.StoredPages
import SharedPages.Service.Page
import SharedPages.UnitOfWork

/-!
# Calls that change a page

A call that changes a page looks at the memory, and unless it is refused it then
writes to it once. `PageCall.alone` serves a call on the memory, and
`PageCall.ahead` serves it on a repository where writes wait, so that only the
first of its two steps is taken. The service is the same in both.

## Key results

- `Desk.serve_eq`: what a call comes to, on every repository that reads the memory
- `PageCall.alone_eq`, `PageCall.ahead_eq`: the same on the two repositories above
-/

namespace SharedPages

variable {σ : Type}

/-! ## Calls -/

/-- What changes a stored page, with its arguments. -/
inductive Mutation where
  | edit (title : String) (links : Links)
  | join (code : String)
  | addLink (url memo : String)
  | removeLink (url : String)
  | delete

/-- A call that changes a page, and the context of its request. -/
structure PageCall where
  ctx : Context
  mutation : Mutation

/-- Serves a call for a page. A call that deletes the page gives none. -/
def PageCall.serve (service : PageService σ) (id : PageId) (call : PageCall) :
    Work σ PageError (Option Page) :=
  match call.mutation with
  | .edit title links => (service.edit call.ctx id title links).mapOutcome (·.map some)
  | .join code => (service.join call.ctx id code).mapOutcome (·.map some)
  | .addLink url memo => (service.addLink call.ctx id url memo).mapOutcome (·.map some)
  | .removeLink url => (service.removeLink call.ctx id url).mapOutcome (·.map some)
  | .delete => (service.delete call.ctx id).mapOutcome (·.map fun _ => none)

/-- The memory as a call finds it, and the write that it has come to. -/
structure Desk where
  memory : Memory
  waiting : Option Write := none
  calls : InlineCalls := {}

namespace Desk

instance : Holds Memory Desk := ⟨Desk.memory, fun m desk => { desk with memory := m }⟩

instance : Holds InlineCalls Desk := ⟨Desk.calls, fun c desk => { desk with calls := c }⟩

/-- Puts a write off. -/
def putOff (w : Write) : Work Desk PageError Unit :=
  Work.modify fun desk => { desk with waiting := some w }

/-- The pages in memory, where writes wait. -/
def pageRepository : PageRepository Desk where
  get := Memory.pageRepository.get
  list := Memory.pageRepository.list
  save _ p := putOff (.save p)
  delete _ id := putOff (.delete id)

end Desk

namespace PageCall

variable (id : PageId) (call : PageCall) (m : Memory)

/-- Serves a call on a memory. -/
def alone : Outcome PageError (Option Page) × Memory :=
  let (o, desk) := call.serve ⟨Memory.pageRepository, UnitRunner.inline⟩ id { memory := m : Desk }
  (o, desk.memory)

/-- Serves a call up to its write. -/
def ahead : Outcome PageError (Option Page) × Option Write :=
  let (o, desk) := call.serve ⟨Desk.pageRepository, UnitRunner.inline⟩ id { memory := m : Desk }
  (o, desk.waiting)

end PageCall

/-! ## What a call comes to -/

/-- The write that a user may make to a page, and what is answered. -/
def Mutation.plan (id : PageId) (p : Page) (u : User) :
    Mutation → Except PageError (Write × Option Page)
  | edit title links => (p.edit u title links).map fun p => (.save p, some p)
  | join code => (p.join u code).map fun p => (.save p, some p)
  | addLink url memo => (p.addLink u url memo).map fun p => (.save p, some p)
  | removeLink url => (p.removeLink u url).map fun p => (.save p, some p)
  | delete => (p.authorize u).map fun _ => (.delete id, none)

/-- What a rule makes of the user of a request and of the page, if it is stored. -/
def Context.judge (ctx : Context) (id : PageId) (m : Memory)
    (rule : Page → User → Except PageError (Write × Option Page)) :
    Except PageError (Write × Option Page) :=
  match ctx.user?, m.pages.find? id with
  | none, _ => .error .userNotFound
  | some _, none => .error .pageNotFound
  | some u, some p => rule p u

/-- The write that a call comes to, and what it answers. -/
def PageCall.plan (id : PageId) (call : PageCall) (m : Memory) :
    Except PageError (Write × Option Page) :=
  call.ctx.judge id m fun p u => call.mutation.plan id p u

/-! ## Inline units of work -/

namespace UnitRunner

variable [Holds InlineCalls σ]

/-- The state once one more unit of work was run. -/
def counted (s : σ) : σ := Holds.set (InlineCalls.mk ((Holds.get s : InlineCalls).count + 1)) s

/-- An inline unit of work is its steps. -/
theorem inline_eq {α : Type} (ctx : Context) (steps : Context → Work σ PageError α) (s : σ) :
    (inline PageError α ctx steps).mapError .ofTransaction s = steps ctx (counted s) := by
  have hinline : inline PageError α ctx steps s = (steps ctx).mapError .aborted (counted s) := rfl
  simp only [Work.mapError, Work.mapOutcome] at hinline ⊢
  rw [hinline]
  rcases steps ctx (counted s) with ⟨o, s'⟩
  cases o <;> rfl

end UnitRunner

/-- The page is loaded for the user of the request before anything else happens to it, where looking
    a page up never fails and changes nothing. -/
theorem PageService.loaded_eq [Holds InlineCalls σ] {pages : PageRepository σ} {α : Type}
    (found : PageId → σ → Option Page)
    (hget : ∀ ctx id s, pages.get ctx id s = (.done (found id s), s))
    (hcounted : ∀ id s, found id (UnitRunner.counted s) = found id s) (ctx : Context) (id : PageId)
    (steps : User → Context → Page → Work σ PageError α) (s : σ) :
    (do
      let u ← PageService.currentUser ctx
      (UnitRunner.inline PageError α ctx fun ctx => do
        let page ← PageService.load ⟨pages, UnitRunner.inline⟩ ctx id
        steps u ctx page).mapError .ofTransaction : Work σ PageError α) s =
      match ctx.user?, found id s with
      | none, _ => (.failed .userNotFound, s)
      | some _, none => (.failed .pageNotFound, UnitRunner.counted s)
      | some u, some p => steps u ctx p (UnitRunner.counted s) := by
  have huser : (PageService.currentUser ctx : Work σ _ _) s =
      (.ofExcept (ctx.user?.elim (.error .userNotFound) .ok), s) := rfl
  -- Counting the unit does not change which page is found.
  have hload : PageService.load ⟨pages, UnitRunner.inline⟩ ctx id (UnitRunner.counted s) =
      (.ofExcept ((found id s).elim (.error .pageNotFound) .ok), UnitRunner.counted s) := by
    rw [← hcounted]
    exact Work.bind_of_done (hget ctx id _) _
  -- The user is looked up first, so without one not even the unit is run.
  cases hu : ctx.user? with
  | none =>
    rw [hu] at huser
    exact Work.bind_of_failed huser _
  | some u =>
    rw [hu] at huser
    rw [Work.bind_of_done huser, UnitRunner.inline_eq]
    cases hp : found id s with
    | none =>
      rw [hp] at hload
      exact Work.bind_of_failed hload _
    | some p =>
      rw [hp] at hload
      exact Work.bind_of_done hload _

/-- A repository that reads the memory of a desk, does something to the desk for a write, and never
    fails. -/
structure PageRepository.Reads (pages : PageRepository Desk) (put : Write → Desk → Desk) :
    Prop where
  get : ∀ ctx id desk, pages.get ctx id desk = (.done (desk.memory.pages.find? id), desk)
  save : ∀ ctx p desk, pages.save ctx p desk = (.done (), put (.save p) desk)
  delete : ∀ ctx id desk, pages.delete ctx id desk = (.done (), put (.delete id) desk)

theorem Memory.reads_pageRepository :
    PageRepository.Reads Memory.pageRepository fun w desk =>
      { desk with memory := w.perform desk.memory } :=
  ⟨fun _ _ _ => rfl, fun _ _ _ => rfl, fun _ _ _ => rfl⟩

theorem Desk.reads_pageRepository :
    Desk.pageRepository.Reads fun w desk => { desk with waiting := some w } :=
  ⟨fun _ _ _ => rfl, fun _ _ _ => rfl, fun _ _ _ => rfl⟩

namespace Desk

/-- The desk once one more unit of work was run. -/
def counted (desk : Desk) : Desk := { desk with calls := ⟨desk.calls.count + 1⟩ }

/-- What is answered at a desk, and the desk afterwards. -/
def answer (put : Write → Desk → Desk) (desk : Desk) :
    Except PageError (Write × Option Page) → Outcome PageError (Option Page) × Desk
  | .error e => (.failed e, desk)
  | .ok (w, o) => (.done o, put w desk)

private theorem mapOutcome_of {ε ε' α β : Type} {w : Work σ ε α} {o : Outcome ε α} {s s' : σ}
    (hw : w s = (o, s')) (f : Outcome ε α → Outcome ε' β) : w.mapOutcome f s = (f o, s') := by
  simp only [Work.mapOutcome, hw]

section Serve

variable {pages : PageRepository Desk} {put : Write → Desk → Desk} (h : pages.Reads put)
  (ctx : Context) (id : PageId) (desk : Desk)
include h

/-- The page is loaded for the user of the request before anything else happens to it. -/
private theorem loaded_eq {α : Type} (steps : User → Context → Page → Work Desk PageError α) :
    (do
      let u ← PageService.currentUser ctx
      (UnitRunner.inline PageError α ctx fun ctx => do
        let page ← PageService.load ⟨pages, UnitRunner.inline⟩ ctx id
        steps u ctx page).mapError .ofTransaction : Work Desk PageError α) desk =
      match ctx.user?, desk.memory.pages.find? id with
      | none, _ => (.failed .userNotFound, desk)
      | some _, none => (.failed .pageNotFound, desk.counted)
      | some u, some p => steps u ctx p desk.counted :=
  PageService.loaded_eq (fun id desk => desk.memory.pages.find? id) h.get (fun _ _ => rfl) ctx id
    steps desk

/-- What is answered is what a rule says, if the steps on the page follow it. -/
private theorem answer_judge {α : Type} {w : Work Desk PageError α} {f : α → Option Page}
    {rule : Page → User → Except PageError (Write × Option Page)}
    {steps : User → Context → Page → Work Desk PageError α}
    (hw : w = do
      let u ← PageService.currentUser ctx
      (UnitRunner.inline PageError α ctx fun ctx => do
        let page ← PageService.load ⟨pages, UnitRunner.inline⟩ ctx id
        steps u ctx page).mapError .ofTransaction)
    (hsteps : ∀ u p, (steps u ctx p).mapOutcome (·.map f) desk.counted =
      answer put desk.counted (rule p u)) :
    ∃ calls, w.mapOutcome (·.map f) desk =
      answer put { desk with calls } (ctx.judge id desk.memory rule) := by
  have hloaded := loaded_eq h ctx id desk steps
  rw [← hw] at hloaded
  simp only [Context.judge]
  -- The three ways are those of `loaded_eq`, and the rule only has a say in the last one.
  cases hu : ctx.user? with
  | none =>
    rw [hu] at hloaded
    exact ⟨desk.calls, mapOutcome_of hloaded _⟩
  | some u =>
    cases hp : desk.memory.pages.find? id with
    | none =>
      rw [hu, hp] at hloaded
      exact ⟨desk.counted.calls, mapOutcome_of hloaded _⟩
    | some p =>
      rw [hu, hp] at hloaded
      exact ⟨desk.counted.calls, (mapOutcome_of hloaded _).trans (hsteps u p)⟩

/-- A change is saved. -/
private theorem answer_update (change : Page → User → Except PageError Page) :
    ∃ calls, (PageService.update ⟨pages, UnitRunner.inline⟩ ctx id change).mapOutcome
        (·.map some) desk =
      answer put { desk with calls } (ctx.judge id desk.memory fun p u =>
        (change p u).map fun p => (.save p, some p)) := by
  refine answer_judge h ctx id desk rfl fun u p => ?_
  cases change p u with
  | error e => rfl
  | ok p =>
    have hsaved : (do pages.save ctx p; return p : Work Desk PageError Page) desk.counted =
        (.done p, put (.save p) desk.counted) :=
      Work.bind_of_done (h.save ctx p desk.counted) _
    exact mapOutcome_of hsaved _

/-- What a call answers at a desk. -/
theorem serve_eq (call : PageCall) :
    ∃ calls, call.serve ⟨pages, UnitRunner.inline⟩ id desk =
      answer put { desk with calls } (call.plan id desk.memory) := by
  obtain ⟨ctx, mutation⟩ := call
  cases mutation with
  | edit title links => exact answer_update h ctx id desk fun p u => p.edit u title links
  | join code => exact answer_update h ctx id desk fun p u => p.join u code
  | addLink url memo => exact answer_update h ctx id desk fun p u => p.addLink u url memo
  | removeLink url => exact answer_update h ctx id desk fun p u => p.removeLink u url
  | delete =>
    refine answer_judge h ctx id desk rfl fun u p => ?_
    simp only [Mutation.plan]
    cases p.authorize u with
    | error e => rfl
    | ok => exact mapOutcome_of (h.delete ctx id desk.counted) _

end Serve

end Desk

namespace PageCall

variable (id : PageId) (call : PageCall) (m : Memory)

theorem alone_eq :
    call.alone id m =
      match call.plan id m with
      | .error e => (.failed e, m)
      | .ok (w, o) => (.done o, w.perform m) := by
  obtain ⟨calls, hserve⟩ := Desk.serve_eq Memory.reads_pageRepository id { memory := m } call
  simp only [alone, hserve]
  cases call.plan id m <;> rfl

theorem ahead_eq :
    call.ahead id m =
      match call.plan id m with
      | .error e => (.failed e, none)
      | .ok (w, o) => (.done o, some w) := by
  obtain ⟨calls, hserve⟩ := Desk.serve_eq Desk.reads_pageRepository id { memory := m } call
  simp only [ahead, hserve]
  cases call.plan id m <;> rfl

end PageCall

namespace Page

variable {p q : Page} {u : User}

theorem id_edit {title : String} {links : Links} (h : p.edit u title links = .ok q) :
    q.id = p.id := by
  simp only [edit, bind, Except.bind] at h
  split at h
  · cases h
  · split at h
    · cases h
    · split at h <;> cases h
      rfl

theorem id_join {code : String} (h : p.join u code = .ok q) : q.id = p.id := by
  simp only [join] at h
  split at h
  · cases h
  · split at h
    · cases h
    · split at h <;> cases h
      rfl

theorem id_addLink {url memo : String} (h : p.addLink u url memo = .ok q) : q.id = p.id := by
  simp only [addLink, bind, Except.bind] at h
  split at h <;> cases h
  rfl

theorem id_removeLink {url : String} (h : p.removeLink u url = .ok q) : q.id = p.id := by
  simp only [removeLink, bind, Except.bind] at h
  split at h
  · cases h
  · split at h <;> cases h
    rfl

end Page

/-- A page keeps its identifier, so a call writes the page that it is for. -/
theorem Mutation.target_plan {mutation : Mutation} {p : Page} {u : User} {w : Write}
    {o : Option Page} (h : mutation.plan p.id p u = .ok (w, o)) : w.target = p.id := by
  -- All but deleting save a page that the call returned, and no call changes the identifier.
  have hsaved {x : Except PageError Page} (hx : ∀ q, x = .ok q → q.id = p.id)
      (h : (x.map fun q => (Write.save q, some q)) = .ok (w, o)) : w.target = p.id := by
    cases x with
    | error e => cases h
    | ok q =>
      cases h
      exact hx q rfl
  cases mutation with
  | edit title links => exact hsaved (fun _ => Page.id_edit) h
  | join code => exact hsaved (fun _ => Page.id_join) h
  | addLink url memo => exact hsaved (fun _ => Page.id_addLink) h
  | removeLink url => exact hsaved (fun _ => Page.id_removeLink) h
  | delete =>
    simp only [plan] at h
    cases hauthorize : p.authorize u with
    | error e => rw [hauthorize] at h; cases h
    | ok => rw [hauthorize] at h; cases h; rfl

end SharedPages
