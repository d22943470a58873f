import SharedPages.Proofs.PageAccess
import SharedPages.Proofs.PageCalls
import SharedPages.Scenario.World
import SharedPages.Store

/-!
# What the service does to the stored pages

Requests are served one after the other by the service for pages, on pages in
memory and with units of work that undo nothing. So nothing but the order of its
checks and writes keeps a refused request from leaving traces, and nothing but
the page as it is stored tells whether a user may change it.

Everything here follows from one inversion (`PageRequest.served`): a request is
refused and leaves the memory, or it is one of the few things that
`PageRequest.Served` lists. New pages are stored under identifiers that the
supply draws. They take the place of no stored page, because the supply is ahead
of all of them and stays so.

## Key results

- `PageRequest.served`: what comes of a request, and what it leaves
- `PageRequest.Served.write_cases`: a request comes to no write, or to one that keeps the rules
- `PageRequest.Served.access`: who may have a stored page changed
- `PageRequest.ahead_play`: new pages get identifiers of their own
- `PageRequest.play_guarded`: what holds of every request after any others
-/

namespace SharedPages

open Scenario (World)

variable {β τ ℓ : Type}

/-! ## Requests -/

/-- What can be asked of the service for pages. -/
inductive PageCommand where
  | create (title : String)
  | get (id : PageId)
  | list (query : PageQuery)
  /-- Asks to edit the page, to add or remove a link, or to join. -/
  | update (id : PageId) (request : Page.Request)
  | delete (id : PageId)

/-- What the service answers when nothing is wrong. -/
inductive PageReply where
  | page (p : Page)
  | pages (ps : List Page)
  | deleted
deriving DecidableEq

/-- A command, and the context of its request. -/
structure PageRequest where
  ctx : Context
  command : PageCommand

/-- The service on pages in memory, where units of work undo nothing. -/
def PageService.inMemory : PageService (World β τ ℓ) := ⟨Memory.pageRepository, UnitRunner.inline⟩

/-- All stored pages keep the rules of pages, each under its own identifier. -/
def Memory.SoundPages (m : Memory) : Prop :=
  ∀ id p, m.pages.find? id = some p → p.id = id ∧ p.Sound

namespace PageRequest

/-- Serves a request. -/
def serve {σ : Type} [Holds Supply σ] (service : PageService σ) (r : PageRequest) :
    Work σ PageError PageReply :=
  match r.command with
  | .create title => (service.create r.ctx title).mapOutcome (·.map .page)
  | .get id => (service.get r.ctx id).mapOutcome (·.map .page)
  | .list query => (service.list r.ctx query).mapOutcome (·.map .pages)
  | .update id (.edit title links) => (service.edit r.ctx id title links).mapOutcome (·.map .page)
  | .update id (.addLink url memo) => (service.addLink r.ctx id url memo).mapOutcome (·.map .page)
  | .update id (.removeLink url) => (service.removeLink r.ctx id url).mapOutcome (·.map .page)
  | .update id (.join code) => (service.join r.ctx id code).mapOutcome (·.map .page)
  | .delete id => (service.delete r.ctx id).mapOutcome (·.map fun _ => .deleted)

/-- What is left by a request. -/
def after (w : World β τ ℓ) (r : PageRequest) : World β τ ℓ := (r.serve .inMemory w).2

/-- What is left by some requests. -/
def play (w : World β τ ℓ) (rs : List PageRequest) : World β τ ℓ := rs.foldl after w

/-- The page that a request is about: a new page is about the identifier that is drawn for it. -/
def target? (r : PageRequest) (supply : Supply) : Option PageId :=
  match r.command with
  | .create _ => some (supply.id .page).1
  | .get id | .update id _ | .delete id => some id
  | .list _ => none

/-- The request only asks for what is stored. -/
def isRead (r : PageRequest) : Bool :=
  match r.command with
  | .get _ | .list _ => true
  | .create _ | .update _ _ | .delete _ => false

/-- Nothing is stored under the identifier that is drawn for a new page. -/
def Fresh (r : PageRequest) (m : Memory) (supply : Supply) : Prop :=
  ∀ title, r.command = .create title → m.pages.find? (supply.id .page).1 = none

/-- How a request ends, and the memory and the supply that it leaves. -/
inductive Served (r : PageRequest) (m : Memory) (supply : Supply) :
    Outcome PageError PageReply → Memory → Supply → Prop where
  | refused (e : PageError) : Served r m supply (.failed e) m supply
  | found {id : PageId} {p : Page} (command : r.command = .get id)
      (stored : m.pages.find? id = some p) : Served r m supply (.done (.page p)) m supply
  | listed {query : PageQuery} {u : User} (command : r.command = .list query)
      (user : r.ctx.user? = some u) :
    Served r m supply
      (.done (.pages ({ query with createdBy := some u.id }.select m.pages.values))) m supply
  | created {title : String} {u : User} {p : Page} (command : r.command = .create title)
      (user : r.ctx.user? = some u)
      (made : Page.new (supply.id .page).1 supply.code.1 title u = .ok p) :
    Served r m supply (.done (.page p)) (m.savePage p) (supply.id .page).2.code.2
  | updated {id : PageId} {request : Page.Request} {u : User} {p q : Page}
      (command : r.command = .update id request) (user : r.ctx.user? = some u)
      (stored : m.pages.find? id = some p) (granted : p.Granted u request q) :
    Served r m supply (.done (.page q)) (m.savePage q) supply
  | deleted {id : PageId} {u : User} {p : Page} (command : r.command = .delete id)
      (user : r.ctx.user? = some u) (stored : m.pages.find? id = some p)
      (may : p.isAuthorized u = true) :
    Served r m supply (.done .deleted) (m.deletePage id) supply

end PageRequest

/-! ## Each operation of the service -/

namespace PageService

variable (w : World β τ ℓ) (ctx : Context) (id : PageId)

/-- The world once the identifier and the invite code of a new page were drawn. -/
def drawn : World β τ ℓ := { w with supply := (w.supply.id .page).2.code.2 }

theorem get_eq :
    inMemory.get ctx id w =
      match ctx.user?, w.memory.pages.find? id with
      | none, _ => (.failed .userNotFound, w)
      | some _, none => (.failed .pageNotFound, w)
      | some _, some p => (.done p, w) := by
  have huser : (currentUser ctx : Work (World β τ ℓ) _ _) w =
      (.ofExcept (ctx.user?.elim (.error .userNotFound) .ok), w) := rfl
  have hload : inMemory.load ctx id w =
      (.ofExcept ((w.memory.pages.find? id).elim (.error .pageNotFound) .ok), w) := rfl
  simp only [get]
  cases hu : ctx.user? with
  | none =>
    rw [hu] at huser
    exact Work.bind_of_failed huser _
  | some u =>
    rw [hu] at huser
    rw [Work.bind_of_done huser, hload]
    cases w.memory.pages.find? id <;> rfl

theorem list_eq (query : PageQuery) :
    inMemory.list ctx query w =
      match ctx.user? with
      | none => (.failed .userNotFound, w)
      | some u =>
        (.done ({ query with createdBy := some u.id }.select w.memory.pages.values), w) := by
  simp only [list, currentUser]
  cases ctx.user? <;> rfl

theorem update_eq (change : Page → User → Except PageError Page) :
    inMemory.update ctx id change w =
      match ctx.user?, w.memory.pages.find? id with
      | none, _ => (.failed .userNotFound, w)
      | some _, none => (.failed .pageNotFound, UnitRunner.counted w)
      | some u, some p =>
        match change p u with
        | .error e => (.failed e, UnitRunner.counted w)
        | .ok q => (.done q, { UnitRunner.counted w with memory := w.memory.savePage q }) := by
  refine (loaded_eq (fun id (w : World β τ ℓ) => w.memory.pages.find? id) (fun _ _ _ => rfl)
    (fun _ _ => rfl) ctx id _ w).trans ?_
  cases ctx.user? with
  | none => rfl
  | some u =>
    cases w.memory.pages.find? id with
    | none => rfl
    | some p => cases hchange : change p u <;> simp only [hchange] <;> rfl

theorem delete_eq :
    inMemory.delete ctx id w =
      match ctx.user?, w.memory.pages.find? id with
      | none, _ => (.failed .userNotFound, w)
      | some _, none => (.failed .pageNotFound, UnitRunner.counted w)
      | some u, some p =>
        match p.authorize u with
        | .error e => (.failed e, UnitRunner.counted w)
        | .ok _ => (.done (), { UnitRunner.counted w with memory := w.memory.deletePage id }) := by
  refine (loaded_eq (fun id (w : World β τ ℓ) => w.memory.pages.find? id) (fun _ _ _ => rfl)
    (fun _ _ => rfl) ctx id _ w).trans ?_
  cases ctx.user? with
  | none => rfl
  | some u =>
    cases w.memory.pages.find? id with
    | none => rfl
    | some p => cases hmay : p.authorize u <;> simp only [hmay] <;> rfl

theorem create_eq (title : String) :
    inMemory.create ctx title w =
      match ctx.user?, Page.checkTitle title with
      | none, _ => (.failed .userNotFound, w)
      | some _, .error e => (.failed e, w)
      | some u, .ok _ =>
        let p : Page := ⟨(w.supply.id .page).1, title, u, w.supply.code.1, [], []⟩
        (.done p, { UnitRunner.counted (drawn w) with memory := w.memory.savePage p }) := by
  simp only [create, currentUser]
  cases ctx.user? with
  | none => rfl
  | some u =>
    -- the title is checked before anything is drawn, and once more as the page is made
    cases hfits : Page.checkTitle title with
    | error e => rfl
    | ok _ =>
      simp only [Page.new, hfits]
      rfl

end PageService

/-! ## What a request comes to -/

namespace PageRequest

variable {r : PageRequest} {m m' : Memory} {supply supply' : Supply}
  {o : Outcome PageError PageReply}

/-- Every request that changes a stored page is an update with that page's own rule. -/
theorem serve_update (ctx : Context) (id : PageId) (request : Page.Request) :
    (⟨ctx, .update id request⟩ : PageRequest).serve
        (PageService.inMemory (β := β) (τ := τ) (ℓ := ℓ)) =
      (PageService.inMemory.update ctx id fun p u => p.answer ⟨u, request⟩).mapOutcome
        (·.map .page) := by
  cases request <;> rfl

/-- The inversion of every request, which the rest of the module splits on. -/
theorem served (r : PageRequest) (w : World β τ ℓ) :
    r.Served w.memory w.supply (r.serve .inMemory w).1 (r.after w).memory (r.after w).supply := by
  obtain ⟨ctx, command⟩ := r
  cases command with
  | create title =>
    simp only [after, serve, Work.mapOutcome, PageService.create_eq]
    cases hu : ctx.user? with
    | none => exact .refused _
    | some u =>
      cases hfits : Page.checkTitle title with
      | error e => exact .refused _
      | ok _ => exact .created rfl hu (by simp only [Page.new, hfits]; rfl)
  | get id =>
    -- In this and the later cases the page that is asked for may be missing as well.
    simp only [after, serve, Work.mapOutcome, PageService.get_eq]
    cases hu : ctx.user? with
    | none => exact .refused _
    | some u =>
      cases hp : w.memory.pages.find? id with
      | none => exact .refused _
      | some p => exact .found rfl hp
  | list query =>
    simp only [after, serve, Work.mapOutcome, PageService.list_eq]
    cases hu : ctx.user? with
    | none => exact .refused _
    | some u => exact .listed rfl hu
  | update id request =>
    -- What is granted is decided by the page itself.
    simp only [after, serve_update, Work.mapOutcome, PageService.update_eq]
    cases hu : ctx.user? with
    | none => exact .refused _
    | some u =>
      cases hp : w.memory.pages.find? id with
      | none => exact .refused _
      | some p =>
        cases hanswer : p.answer ⟨u, request⟩ with
        | error e => simp only [hanswer]; exact .refused _
        | ok q =>
          simp only [hanswer]
          exact .updated rfl hu hp (Page.answer_eq_ok_iff.mp hanswer)
  | delete id =>
    simp only [after, serve, Work.mapOutcome, PageService.delete_eq]
    cases hu : ctx.user? with
    | none => exact .refused _
    | some u =>
      cases hp : w.memory.pages.find? id with
      | none => exact .refused _
      | some p =>
        cases hmay : p.authorize u with
        | error e => simp only [hmay]; exact .refused _
        | ok _ =>
          simp only [hmay]
          exact .deleted rfl hu hp (Page.authorize_eq_ok_iff.mp hmay)

end PageRequest

/-! ## The rules of stored pages -/

namespace Memory

variable {m : Memory}

/-- What is written keeps the rules, so the memory does. -/
theorem SoundPages.perform (h : m.SoundPages) {w : Write} (hw : ∀ p, w.page? = some p → p.Sound) :
    (w.perform m).SoundPages :=
  Write.forall_perform h fun p hp => ⟨Write.id_of_page? hp, hw p hp⟩

/-- Sound pages make a sound memory, however many of them share an identifier. -/
theorem soundPages_ofStored (users : List User) {pages : List Page} (h : ∀ p ∈ pages, p.Sound) :
    (ofStored users pages).SoundPages :=
  forall_ofStored users fun p hp => ⟨rfl, h p hp⟩

theorem SoundPages.filed (h : m.SoundPages) : m.Filed := fun id p hp => (h id p hp).1

end Memory

/-! ## What every request keeps -/

/-- What a reply says of the pages: a page is the one that was asked about, and stored like that;
    what is listed is stored; and what was deleted is not. -/
def PageReply.Stands (m : Memory) (target : Option PageId) : PageReply → Prop
  | .page p => target = some p.id ∧ m.pages.find? p.id = some p
  | .pages ps => ∀ p ∈ ps, m.pages.find? p.id = some p
  | .deleted => ∃ id, target = some id ∧ m.pages.find? id = none

namespace PageRequest

variable {r : PageRequest} {m m' : Memory} {supply supply' : Supply}
  {o : Outcome PageError PageReply}

namespace Served

/-- A request that ends with an error leaves everything. -/
theorem of_failed {e : PageError} (h : r.Served m supply (.failed e) m' supply') : m' = m := by
  cases h
  rfl

/-- A request leaves the memory, or it comes to one write. A new page is written under the
    identifier that was drawn for it, and any other page under its own. -/
theorem write_cases (h : r.Served m supply o m' supply') (hm : m.SoundPages) :
    m' = m ∨ r.isRead = false ∧ ∃ w : Write, m' = w.perform m ∧
      r.target? supply = some w.target ∧ ∀ p, w.page? = some p → p.Sound := by
  cases h with
  | refused _ => exact .inl rfl
  | found _ _ => exact .inl rfl
  | listed _ _ => exact .inl rfl
  | @created title u p command _ made =>
    -- A new page is sound.
    obtain ⟨-, rfl⟩ := Page.new_eq_ok made
    refine .inr ⟨by simp only [isRead, command], .save _, rfl,
      by simp only [target?, command, Write.target], ?_⟩
    rintro q ⟨rfl⟩
    exact Page.sound_new made
  | @updated id request u p q command _ stored granted =>
    -- A granted request keeps the stored page sound.
    obtain ⟨rfl, hp⟩ := hm _ _ stored
    refine .inr ⟨by simp only [isRead, command], .save q, rfl,
      by simp only [target?, command, Write.target, granted.identity.1], ?_⟩
    rintro _ ⟨rfl⟩
    exact granted.sound hp
  | @deleted id u p command _ _ _ =>
    refine .inr ⟨by simp only [isRead, command], .delete id, rfl,
      by simp only [target?, command, Write.target], ?_⟩
    rintro _ ⟨⟩

theorem soundPages (h : r.Served m supply o m' supply') (hm : m.SoundPages) : m'.SoundPages := by
  obtain rfl | ⟨-, w, rfl, -, hw⟩ := h.write_cases hm
  · exact hm
  · exact hm.perform hw

theorem stands {reply : PageReply} (h : r.Served m supply (.done reply) m' supply')
    (hm : m.SoundPages) :
    reply.Stands m' (r.target? supply) := by
  cases h with
  | found command stored =>
    -- Under an identifier there is only a page with this identifier, since the memory is sound.
    obtain ⟨rfl, -⟩ := hm _ _ stored
    exact ⟨by simp only [target?, command], stored⟩
  | listed _ _ =>
    intro p hp
    exact hm.filed.mem_values_iff.mp (PageQuery.select_subset _ _ hp)
  | created command _ made =>
    -- What was saved is found again, and what was deleted is not.
    obtain ⟨-, rfl⟩ := Page.new_eq_ok made
    exact ⟨by simp only [target?, command],
      by simp only [Memory.savePage, Table.find?_insert, if_pos]⟩
  | updated command _ stored granted =>
    obtain ⟨rfl, -⟩ := hm _ _ stored
    exact ⟨by simp only [target?, command, granted.identity.1],
      by simp only [Memory.savePage, Table.find?_insert, if_pos]⟩
  | @deleted id _ _ command _ _ _ =>
    exact ⟨id, by simp only [target?, command],
      by simp only [Memory.deletePage, Table.find?_erase, if_pos]⟩

/-- Only those who are authorized change a page that is stored, apart from who joins it. -/
theorem access (h : r.Served m supply o m' supply') (hm : m.SoundPages) (hfresh : r.Fresh m supply)
    {id : PageId} {p : Page} (hp : m.pages.find? id = some p)
    (hchanged : m'.pages.find? id ≠ some p) :
    ∃ u, r.ctx.user? = some u ∧ (p.authorize u = .ok () ∨
      r.command = .update id (.join p.inviteCode) ∧
        m'.pages.find? id = some { p with invited := p.invited ++ [u] }) := by
  have htarget : r.target? supply = some id := by
    by_contra hne
    obtain rfl | ⟨-, w, rfl, hw, -⟩ := h.write_cases hm
    · exact hchanged hp
    · rw [hw, Option.some.injEq] at hne
      rw [Write.find?_perform, if_neg hne] at hchanged
      exact hchanged hp
  cases h with
  | refused _ => exact absurd hp hchanged
  | found _ _ => exact absurd hp hchanged
  | listed _ _ => exact absurd hp hchanged
  | created command _ _ =>
    -- a new page takes the place of none
    simp only [target?, command, Option.some.injEq] at htarget
    have hnone := hfresh _ command
    rw [htarget, hp] at hnone
    cases hnone
  | @updated id' request u p' q command user stored granted =>
    simp only [target?, command, Option.some.injEq] at htarget
    subst htarget
    rw [hp] at stored
    cases stored
    refine ⟨u, user, ?_⟩
    rw [Page.authorize_eq_ok_iff]
    cases hmay : p.isAuthorized u with
    | true => exact .inl rfl
    | false =>
      obtain ⟨rfl, rfl⟩ := granted.of_stranger hmay
      obtain ⟨rfl, -⟩ := hm _ _ hp
      exact .inr ⟨command, by simp only [Memory.savePage, Table.find?_insert, if_pos]⟩
  | @deleted id' u p' command user stored may =>
    simp only [target?, command, Option.some.injEq] at htarget
    subst htarget
    rw [hp] at stored
    cases stored
    exact ⟨u, user, .inl (Page.authorize_eq_ok_iff.mpr may)⟩

end Served

/-- The rules that a request goes by, whatever comes of it. -/
structure Guarded (r : PageRequest) (w : World β τ ℓ) (o : Outcome PageError PageReply)
    (w' : World β τ ℓ) : Prop where
  /-- A request ends with an error and leaves everything, or with a reply that is true. -/
  ends : (∃ e, o = .failed e ∧ w'.memory = w.memory) ∨
    ∃ reply, o = .done reply ∧ reply.Stands w'.memory (r.target? w.supply)
  sound : w'.memory.SoundPages
  read : r.isRead = true → w'.memory = w.memory
  users : w'.memory.users = w.memory.users
  frame : ∀ id, r.target? w.supply ≠ some id →
    w'.memory.pages.find? id = w.memory.pages.find? id
  /-- A page that was stored changes only for a user who is authorized, or who joins it with its
      invite code and is let in by that, and nothing else. -/
  access : r.Fresh w.memory w.supply → ∀ id p, w.memory.pages.find? id = some p →
    w'.memory.pages.find? id ≠ some p →
    ∃ u, r.ctx.user? = some u ∧ (p.authorize u = .ok () ∨
      r.command = .update id (.join p.inviteCode) ∧
        w'.memory.pages.find? id = some { p with invited := p.invited ++ [u] })

theorem guarded (r : PageRequest) {w : World β τ ℓ} (hm : w.memory.SoundPages) :
    r.Guarded w (r.serve .inMemory w).1 (r.after w) := by
  have h := r.served w
  have hwrite := h.write_cases hm
  refine ⟨?_, h.soundPages hm, ?_, ?_, ?_, ?_⟩
  · -- The answer is a reply or an error, and nothing else can come of a request.
    generalize (r.serve .inMemory w).1 = o at h
    cases o with
    | failed e => exact .inl ⟨e, rfl, h.of_failed⟩
    | done reply => exact .inr ⟨reply, rfl, h.stands hm⟩
    | panicked _ => nomatch h
    | suspended => nomatch h
  · -- All that follows is about the one write that a request can make, and reading makes none.
    intro hread
    obtain hsame | ⟨hnot, -⟩ := hwrite
    · exact hsame
    · rw [hread] at hnot
      cases hnot
  · -- The write is about pages and not about users.
    obtain hsame | ⟨-, c, hc, -, -⟩ := hwrite
    · rw [hsame]
    · rw [hc, Write.users_perform]
  · -- It leaves alone all pages but its target.
    intro id hid
    obtain hsame | ⟨-, c, hc, htarget, -⟩ := hwrite
    · rw [hsame]
    · rw [htarget, ne_eq, Option.some.injEq] at hid
      rw [hc, Write.find?_perform, if_neg hid]
  · intro hfresh id p hp hchanged
    exact h.access hm hfresh hp hchanged

end PageRequest

/-! ## Identifiers of new pages -/

/-- No page is stored under an identifier that the supply has yet to hand out, of all those that
    differ from each other. -/
def Supply.Ahead (supply : Supply) (m : Memory) : Prop :=
  ∀ id p, m.pages.find? id = some p → ∀ n, supply.issued < n → n < 0x4000000000000000000 →
    id ≠ ⟨Uuid.v7 supply.millis n⟩

namespace PageRequest

variable {r : PageRequest} {m m' : Memory} {supply supply' : Supply}
  {o : Outcome PageError PageReply}

theorem fresh_of_ahead (h : supply.Ahead m) (hfits : supply.issued + 1 < 0x4000000000000000000) :
    r.Fresh m supply := by
  intro title _
  cases hstored : m.pages.find? (supply.id .page).1 with
  | none => rfl
  | some p => exact absurd rfl (h _ p hstored (supply.issued + 1) (Nat.lt_succ_self _) hfits)

/-- A request draws at most one identifier, which is less than those that come after it. -/
theorem Served.ahead (h : r.Served m supply o m' supply') (hm : m.SoundPages)
    (ha : supply.Ahead m) : supply'.Ahead m' ∧ supply'.issued ≤ supply.issued + 1 := by
  have hle := Nat.le_succ supply.issued
  cases h with
  | refused _ => exact ⟨ha, hle⟩
  | found _ _ => exact ⟨ha, hle⟩
  | listed _ _ => exact ⟨ha, hle⟩
  | @created title u q command _ made =>
    obtain ⟨-, rfl⟩ := Page.new_eq_ok made
    refine ⟨?_, Nat.le_refl _⟩
    intro id p hp n hn hfits
    have hn' : supply.issued + 1 < n := hn
    simp only [Memory.savePage, Table.find?_insert] at hp
    by_cases hid : (supply.id .page).1 = id
    · -- Identifiers of later numbers are greater, so none of them is the one just used.
      have hlt := Uuid.v7_lt_v7 supply.millis hn' hfits
      rintro rfl
      have hsame : Uuid.v7 supply.millis (supply.issued + 1) = Uuid.v7 supply.millis n :=
        congrArg Id.uuid hid
      rw [hsame] at hlt
      exact Nat.lt_irrefl _ hlt
    · rw [if_neg hid] at hp
      exact ha id p hp n (by omega) hfits
  | @updated id' request u p' q command _ stored granted =>
    refine ⟨?_, hle⟩
    intro id p hp
    simp only [Memory.savePage, Table.find?_insert] at hp
    by_cases hid : q.id = id
    · -- the page was stored under this identifier before
      rw [granted.identity.1, (hm _ _ stored).1] at hid
      subst hid
      exact ha _ _ stored
    · rw [if_neg hid] at hp
      exact ha id p hp
  | @deleted id' u p' command _ _ _ =>
    refine ⟨?_, hle⟩
    intro id p hp
    simp only [Memory.deletePage, Table.find?_erase] at hp
    by_cases hid : id' = id
    · rw [if_pos hid] at hp
      cases hp
    · rw [if_neg hid] at hp
      exact ha id p hp

/-! ## Runs -/

theorem play_snoc (w : World β τ ℓ) (rs : List PageRequest) (r : PageRequest) :
    play w (rs ++ [r]) = r.after (play w rs) := by
  simp only [play, List.foldl_append, List.foldl_cons, List.foldl_nil]

theorem soundPages_play {w : World β τ ℓ} (h : w.memory.SoundPages) (rs : List PageRequest) :
    (play w rs).memory.SoundPages := by
  induction rs using List.reverseRecOn with
  | nil => exact h
  | append_singleton rs r ih =>
    rw [play_snoc]
    exact (r.served (play w rs)).soundPages ih

/-- As many requests as there are identifiers left leave the supply ahead of what is stored. -/
theorem ahead_play {w : World β τ ℓ} (h : w.memory.SoundPages) (ha : w.supply.Ahead w.memory)
    (rs : List PageRequest) :
    (play w rs).supply.Ahead (play w rs).memory ∧
      (play w rs).supply.issued ≤ w.supply.issued + rs.length := by
  induction rs using List.reverseRecOn with
  | nil => exact ⟨ha, Nat.le_refl _⟩
  | append_singleton rs r ih =>
    rw [play_snoc]
    obtain ⟨hahead, hissued⟩ := (r.served (play w rs)).ahead (soundPages_play h rs) ih.1
    have hbefore := ih.2
    simp only [List.length_append, List.length_singleton]
    exact ⟨hahead, by omega⟩

/-- After any requests by anyone, on pages that keep the rules to begin with, every request goes by
    the rules: refused, it leaves everything; otherwise it changes the page that it is about and
    nothing else; all stored pages keep the rules; and a stored page changes only for users who may
    have it changed. New pages take the place of none as long as identifiers differ. -/
theorem play_guarded {w : World β τ ℓ} (hsound : w.memory.SoundPages) (rs : List PageRequest)
    (r : PageRequest) :
    r.Guarded (play w rs) (r.serve .inMemory (play w rs)).1 (r.serve .inMemory (play w rs)).2 ∧
      (w.supply.Ahead w.memory →
        w.supply.issued + rs.length + 1 < 0x4000000000000000000 →
        r.Fresh (play w rs).memory (play w rs).supply) := by
  refine ⟨r.guarded (soundPages_play hsound rs), fun ha hcount => ?_⟩
  obtain ⟨hahead, hissued⟩ := ahead_play hsound ha rs
  exact fresh_of_ahead hahead (by omega)

/-- A stranger's attempt to delete a page comes to nothing; then the page is edited, the stranger
    joins it, and creates a page of her own, which leaves it alone. -/
theorem play_guarded_guest :
    let ann : User := .new ⟨.ofNat 1⟩ "ann"
    let bea : User := .new ⟨.ofNat 2⟩ "bea"
    let page : Page := ⟨⟨.ofNat 7⟩, "Title", ann, "code", [], []⟩
    let w : World Store Session JournalEntry :=
      { database := { backend := {} }, memory := .ofStored [] [page] }
    let as (u : User) (command : PageCommand) : PageRequest :=
      ⟨Context.background.withUser u, command⟩
    let rs := [as bea (.delete page.id), as ann (.update page.id (.edit "Ours" [])),
      as bea (.update page.id (.join "code"))]
    let r := as bea (.create "Mine")
    w.memory.SoundPages ∧ w.supply.Ahead w.memory ∧
      (play w rs).memory.pages.values = [{ page with title := "Ours", invited := [bea] }] ∧
      (r.after (play w rs)).memory.pages.values.map (·.title) = ["Ours", "Mine"] ∧
      r.Guarded (play w rs) (r.serve .inMemory (play w rs)).1 (r.after (play w rs)) ∧
      r.Fresh (play w rs).memory (play w rs).supply := by
  intro ann bea page w as rs r
  have hsound : w.memory.SoundPages := by
    refine Memory.soundPages_ofStored [] fun p hp => ?_
    obtain rfl : p = page := List.mem_singleton.mp hp
    exact ⟨Page.checkTitle_eq_ok_iff.mpr (by decide), List.nodup_nil, List.not_mem_nil⟩
  have hahead : w.supply.Ahead w.memory := by
    intro id p hp n _ _ hid
    -- what the supply hands out is of version 7
    have hversion : id.uuid.version = 7 := by rw [hid, Uuid.version_v7]
    have hentry : (id, p) ∈ [(page.id, page)] := Table.find?_eq_some_iff.mp hp
    cases List.mem_singleton.mp hentry
    exact absurd hversion (by decide)
  obtain ⟨hguarded, hfresh⟩ := play_guarded hsound rs r
  exact ⟨hsound, hahead, by decide +kernel, by decide +kernel, hguarded,
    hfresh hahead (by simp [w, rs])⟩

end PageRequest

end SharedPages
