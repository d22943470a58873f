import SharedPages.Proofs.LinkOrder
import SharedPages.Proofs.PageRows
import SharedPages.Proofs.SentStatements

/-!
# What is sent to save a page

A page is spread over three tables: its own row, a row for each link and a row
for each guest. Links are told apart by identifiers that are drawn while they are
written, so these are in the order of the links. Once a page was saved, the server
got exactly these statements, whatever unit of work they were sent in.

## Key results

- `Supply.identify_increasing`: the identifiers that links are given
- `Sql.bound_of_save`: the statements that a server got
- `Sql.inserted_savePage`: the rows that these insert into each table
-/

namespace SharedPages

open Scenario (World)

/-! ## Identifiers of links -/

namespace Supply

/-- Links with the identifiers that they are given, one after the other. -/
def identify : Supply → Links → List (LinkId × Link)
  | _, [] => []
  | supply, l :: ls => ((supply.id .link).1, l) :: identify (supply.id .link).2 ls

@[simp] theorem map_identify (supply : Supply) (ls : Links) :
    (supply.identify ls).map Prod.snd = ls := by
  induction ls generalizing supply with
  | nil => rfl
  | cons l ls ih => rw [identify, List.map_cons, ih]

/-- The identifiers are the next ones of the supply. -/
theorem exists_of_mem_identify {supply : Supply} {ls : Links} {e : LinkId × Link}
    (h : e ∈ supply.identify ls) :
    ∃ n, supply.issued < n ∧ n ≤ supply.issued + ls.length ∧
      e.1.uuid = .v7 supply.millis n := by
  induction ls generalizing supply with
  | nil => cases h
  | cons l ls ih =>
    rw [List.length_cons]
    obtain rfl | hmem := List.mem_cons.mp h
    · exact ⟨supply.issued + 1, by omega, by omega, rfl⟩
    · obtain ⟨n, hfirst, hlast, hid⟩ := ih hmem
      have hissued : (supply.id .link).2.issued = supply.issued + 1 := rfl
      exact ⟨n, by omega, by omega, hid⟩

/-- Later links have greater identifiers, as long as the supply can count them. -/
theorem identify_increasing {supply : Supply} {ls : Links}
    (h : supply.issued + ls.length < 0x4000000000000000000) :
    (supply.identify ls).Pairwise (·.1.uuid < ·.1.uuid) := by
  induction ls generalizing supply with
  | nil => exact .nil
  | cons l ls ih =>
    rw [List.length_cons] at h
    have hissued : (supply.id .link).2.issued = supply.issued + 1 := rfl
    refine .cons (fun e he => ?_) (ih (by omega))
    obtain ⟨n, hfirst, hlast, hid⟩ := exists_of_mem_identify he
    rw [hid]
    exact Uuid.v7_lt_v7 supply.millis (by omega) (by omega)

end Supply

namespace Sql

/-! ## Sending -/

/-- The statements that save a page, with identifiers of its links from a supply. -/
def savePage (p : Page) (supply : Supply) : List Statement :=
  upsertPage p :: deleteLinks p.id ::
    (supply.identify p.links).map (fun e => insertLink p.id e.1 e.2) ++
    deleteInvited p.id :: p.invited.map fun u => insertInvited p.id u.id

/-- All of them have parameters. -/
theorem params_savePage {p : Page} {supply : Supply} {s : Statement} (h : s ∈ savePage p supply) :
    s.params ≠ [] := by
  simp only [savePage, List.cons_append, List.mem_cons, List.mem_append, List.mem_map] at h
  obtain rfl | rfl | ⟨e, -, rfl⟩ | rfl | ⟨u, -, rfl⟩ := h <;> exact List.cons_ne_nil _ _

section

variable {ℓ : Type} {c : Client} {w w' : World Endpoint PoolRole ℓ}

/-- Statements draw no identifiers. -/
theorem supply_send {s : Statement} {rows : List Row}
    (h : (Pages.send c s : Work (World Endpoint PoolRole ℓ) _ _) w = (.done rows, w')) :
    w'.supply = w.supply := by
  obtain rfl : _ = w' := congrArg Prod.snd h
  rfl

private theorem sends_insertLinks (page : PageId) (ls : Links) (w : World Endpoint PoolRole ℓ) :
    Sends c (forIn ls PUnit.unit fun l _ => do
      let id ← freshId .link
      let _ ← Pages.send c (insertLink page id l)
      pure (ForInStep.yield PUnit.unit))
      ((w.supply.identify ls).map fun e => insertLink page e.1 e.2) w := by
  -- the supply moves on with every link, so this is about all states
  induction ls generalizing w with
  | nil => exact sends_done _ w
  | cons l ls ih =>
    rw [List.forIn_cons]
    have hid : (freshId .link : Work (World Endpoint PoolRole ℓ) PageError _) w =
        (.done (w.supply.id .link).1, { w with supply := (w.supply.id .link).2 }) := rfl
    refine Sends.bind (l := [insertLink page (w.supply.id .link).1 l])
      (Sends.bind (l := []) rfl fun id w₁ hdrawn => ?_) fun step w' hstep => ?_
    · cases hid.symm.trans hdrawn
      exact (sends_send _ _).bind (m := []) fun _ w₂ _ => sends_done _ w₂
    · obtain ⟨id, w₁, hdrawn, hstep⟩ := Work.exists_of_bind_done hstep
      cases hid.symm.trans hdrawn
      obtain ⟨rows, w₂, hsend, hstep⟩ := Work.exists_of_bind_done hstep
      cases hstep
      have hrest := ih w'
      rw [supply_send hsend] at hrest
      exact hrest

private theorem sends_insertInvited (page : PageId) (us : List User)
    (w : World Endpoint PoolRole ℓ) :
    Sends c (forIn us PUnit.unit fun u _ => do
      let _ ← Pages.send c (insertInvited page u.id)
      pure (ForInStep.yield PUnit.unit)) (us.map fun u => insertInvited page u.id) w := by
  induction us generalizing w with
  | nil => exact sends_done _ w
  | cons u us ih =>
    rw [List.forIn_cons, List.map_cons]
    refine Sends.bind (l := [_]) ((sends_send _ w).bind (m := []) fun _ w' _ => sends_done _ w')
      fun step w' hstep => ?_
    obtain ⟨_, _, _, hstep⟩ := Work.exists_of_bind_done hstep
    cases hstep
    exact ih w'

/-- Writing a page is to send these statements. -/
theorem sends_write (p : Page) (w : World Endpoint PoolRole ℓ) :
    Sends c (Pages.write c p) (savePage p w.supply) w := by
  have hguests (w : World Endpoint PoolRole ℓ) := (sends_insertInvited p.id p.invited w).bind
    (m := []) fun _ w' _ => sends_done (c := c) () w'
  simp only [List.append_nil] at hguests
  refine Sends.bind (l := [_]) (sends_send _ w) fun rows w₁ hsend => ?_
  refine Sends.bind (l := [_]) (sends_send _ w₁) fun rows' w₂ hsend' => ?_
  have hlinks := sends_insertLinks (c := c) p.id p.links w₂
  rw [supply_send hsend', supply_send hsend] at hlinks
  exact hlinks.bind fun _ w₃ _ => Sends.bind (l := [_]) (sends_send _ w₃) fun _ w₄ _ => hguests w₄

/-- Once a page was saved, the server got the statements that save it, and no others with
    parameters. -/
theorem bound_of_save {ctx : Context} {p : Page}
    (h : (Pages.repository : PageRepository (World Endpoint PoolRole ℓ)).save ctx p w =
      (.done (), w')) :
    w'.database.backend.bound = w.database.backend.bound ++ savePage p w.supply := by
  have hunit := Work.of_mapError_done (Work.of_mapError_done h)
  obtain ⟨ctx', w₁, w₄, hbegin, hsupply, hsteps, hcommit⟩ :=
    Database.exists_steps_of_run Endpoint.hides_bound hunit
  obtain ⟨w₂, w₃, hcheckOut, hsupply', hbody, hgiveBack⟩ :=
    Database.exists_body_of_withConnection Endpoint.hides_bound hsteps
  have hsent := (sends_write p w₂).bound_of_done (fun _ => params_savePage) hbody
  rw [hsupply', hsupply] at hsent
  have hbefore : w₂.database.backend.bound = w.database.backend.bound :=
    congrArg Prod.fst (hcheckOut.trans hbegin)
  have hafter : w'.database.backend.bound = w₃.database.backend.bound :=
    congrArg Prod.fst (hcommit.trans hgiveBack)
  rw [hafter, hsent, hbefore]

end

/-! ## The rows of a page -/

/-- What is inserted to save a page. -/
theorem inserted_savePage (p : Page) (supply : Supply) (table : String) :
    inserted (savePage p supply) table =
      (if "pages" = table then [pageRow p] else []) ++
      ((if "link_items" = table then
        (supply.identify p.links).map fun e => linkRow p.id e.1 e.2 else []) ++
      if "page_users" = table then p.invited.map fun u => guestRow p.id u.id else []) := by
  have hlinks := inserted_map (fun e : LinkId × Link => inserted?_insertLink p.id e.1 e.2)
    (supply.identify p.links) table
  have hguests := inserted_map (fun u : User => inserted?_insertInvited p.id u.id) p.invited table
  rw [savePage, List.cons_append, List.cons_append, inserted_cons, inserted_cons, inserted_append,
    inserted_cons, inserted?_upsertPage, inserted?_deleteLinks, inserted?_deleteInvited, hlinks,
    hguests]
  rfl

end Sql

end SharedPages
