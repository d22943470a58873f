import SharedPages.Proofs.SavedPage

/-!
# Pages that are saved and read back

A page is read back by three statements: one for its own row and its creator's,
one for its links, and one for its guests. The first one finds one row, and the
others order theirs strictly, so on tables where the page was saved each has one
answer. Links come back as they were: their priorities never decrease along the
list, and links of the same priority are told apart by their identifiers. Guests
come back in the order of their identifiers, whatever order they came in.

## Key results

- `Row.strictly_linkRow`: the rows of links can be ordered in one way only
- `selects_selectPage`, `selects_selectLinks`, `selects_selectInvited`: the answer to each statement
- `exists_get_of_rows`: the page that is made of answers
- `get_save`: a page that was saved is read back
-/

namespace SharedPages

open Scenario (World)

/-! ## What is read back of a page -/

/-- A user as others see the user, without the pages that the user joined. -/
def User.withoutJoined (u : User) : User := { u with joined := [] }

/-- A page is what another one comes back as. -/
structure Page.Restores (q p : Page) : Prop where
  id : q.id = p.id
  title : q.title = p.title
  inviteCode : q.inviteCode = p.inviteCode
  links : q.links = p.links
  creator : q.creator = p.creator.withoutJoined
  invited : q.invited.Perm (p.invited.map User.withoutJoined)
  sorted : q.invited.Pairwise (·.id.uuid < ·.id.uuid)

/-- Users that are told apart by their identifiers can be put in the order of these. -/
theorem User.exists_sorted {us : List User} (h : (us.map (·.id)).Nodup) :
    ∃ sorted : List User, sorted.Perm us ∧ sorted.Pairwise (·.id.uuid < ·.id.uuid) := by
  let le (u v : User) : Bool := decide (u.id.uuid.value ≤ v.id.uuid.value)
  have hperm := us.mergeSort_perm le
  refine ⟨us.mergeSort le, hperm, ?_⟩
  have hle : (us.mergeSort le).Pairwise fun u v => le u v :=
    List.pairwise_mergeSort (by simp only [le, decide_eq_true_eq]; omega)
      (by simp only [le, Bool.or_eq_true, decide_eq_true_eq]; omega) us
  have hne : (us.mergeSort le).Pairwise (·.id ≠ ·.id) := by
    rw [← List.pairwise_map (f := User.id)]
    exact (hperm.map _).nodup_iff.mpr h
  -- sorting allows for equal identifiers, but there are none
  refine (hle.and hne).imp fun {u v} huv => ?_
  have hvalue : u.id.uuid.value ≠ v.id.uuid.value := fun heq =>
    huv.2 (congrArg Id.mk (Uuid.ext_value heq))
  have := of_decide_eq_true huv.1
  rw [Uuid.lt_def]
  omega

namespace Sql

/-! ## Statements -/

/-- What is selected for a page. -/
def ownSelect : Select := { pageSelect with conditions := [.equal "p.id" 1] }

/-- What is selected for its links. -/
def linkSelect : Select where
  outputs := [⟨"url", false, "url"⟩, ⟨"memo", true, "memo"⟩, ⟨"priority", false, "priority"⟩]
  source := ⟨"link_items", ""⟩
  conditions := [.equal "page_id" 1]
  order := ["priority", "id"]

/-- What is selected for its guests. -/
def guestSelect : Select where
  outputs := [⟨"u.id", false, "id"⟩, ⟨"u.uid", false, "uid"⟩, ⟨"u.provider", false, "provider"⟩,
    ⟨"u.email", false, "email"⟩]
  source := ⟨"page_users", "pu."⟩
  join? := some ⟨⟨"users", "u."⟩, "u.id", "pu.user_id"⟩
  conditions := [.equal "pu.page_id" 1]
  order := ["u.id"]

theorem ofWords?_selectPage (id : PageId) :
    Select.ofWords? (words (selectPage id).text) = some ownSelect := by
  dsimp only [selectPage, pageColumns, words]
  rw [String.toList_append, String.toList_append, String.toList_append, String.toList_ofList,
    String.toList_ofList, String.toList_ofList, String.toList_ofList]
  decide +kernel

theorem ofWords?_selectLinks (id : PageId) :
    Select.ofWords? (words (selectLinks id).text) = some linkSelect := by
  dsimp only [selectLinks, words]
  rw [String.toList_append, String.toList_ofList, String.toList_ofList]
  decide +kernel

theorem ofWords?_selectInvited (id : PageId) :
    Select.ofWords? (words (selectInvited id).text) = some guestSelect := by
  dsimp only [selectInvited, words]
  rw [String.toList_append, String.toList_ofList, String.toList_ofList]
  decide +kernel

/-- A condition that a column equals an identifier, which is the first parameter. -/
theorem holds_equal {s : Statement} {id : Uuid} (h : s.params = [.uuid id]) (column : String)
    (row : Row) :
    [Condition.equal column 1].all (·.holds s row) = (row.cell column).agrees (.uuid id) := by
  simp [Condition.holds, Statement.param?, h, Param.cell?]

/-! ## Rows of links and guests -/

/-- Links are in strict order by their rows, if priorities never decrease and identifiers
    increase. -/
theorem Row.strictly_linkRow (page : PageId) {es : List (LinkId × Link)}
    (hsorted : (es.map Prod.snd).Pairwise (·.priority.value ≤ ·.priority.value))
    (hlater : es.Pairwise (·.1.uuid < ·.1.uuid)) :
    Strictly ["priority", "id"] (es.map fun e => linkRow page e.1 e.2) := by
  have hpriority (e : LinkId × Link) :
      (linkRow page e.1 e.2).cell "priority" = .integer e.2.priority.value := rfl
  have hid (e : LinkId × Link) : (linkRow page e.1 e.2).cell "id" = .uuid e.1.uuid := rfl
  rw [List.pairwise_map] at hsorted
  rw [Strictly, List.pairwise_map]
  refine (hsorted.and hlater).imp fun {e e'} hordered => ?_
  obtain ⟨hle, hlt⟩ := hordered
  -- where the priorities are the same, the identifiers are not
  simp only [InOrder, hpriority, hid, Cell.Before, Uuid.bytes_lt_iff, Uuid.lt_def,
    Cell.integer.injEq, Cell.uuid.injEq, and_true] at hlt ⊢
  constructor
  · omega
  · rintro (hgt | ⟨-, hgt | heq⟩)
    · omega
    · omega
    · rw [heq] at hlt
      omega

/-- A link is read back as it was stored, although an empty note was stored as null. -/
theorem linkOfRow_project (page : PageId) (id : LinkId) (l : Link) :
    linkOfRow (linkSelect.project (linkRow page id l)) = .ok l := by
  have hstored : (linkRow page id l).cell "memo" =
      if l.memo.isEmpty then .null else .text l.memo := rfl
  -- An empty memo is stored as null, and null is selected as an empty text.
  have hmemo : (linkSelect.project (linkRow page id l)).cell "memo" = .text l.memo := by
    show Output.cell ⟨"memo", true, "memo"⟩ (linkRow page id l) = _
    rw [Output.cell, hstored]
    cases hempty : l.memo.isEmpty with
    | false => rfl
    | true =>
      rw [String.isEmpty_iff.mp hempty]
      rfl
  have htext : (linkSelect.project (linkRow page id l)).text "memo" = .ok l.memo := by
    rw [Row.text, hmemo]
    rfl
  -- A stored priority was in range, so it is in range when it is read.
  have hpriority : Priority.ofInt? l.priority.value = some l.priority :=
    dif_pos ⟨l.priority.lower, l.priority.upper⟩
  have hread : (linkSelect.project (linkRow page id l)).priority "priority" = .ok l.priority := by
    show (Priority.ofInt? l.priority.value).elim _ Except.ok = _
    rw [hpriority]
    rfl
  rw [linkOfRow, htext, hread]
  rfl

/-- The row of a guest, joined with the row of the user. -/
def guestScope (page : PageId) (u : User) : Row :=
  (guestRow page u.id).qualify "pu." ++ (userRow u).qualify "u."

theorem UserRow.ofRow_project (page : PageId) (u : User) :
    ofRow {} (guestSelect.project (guestScope page u)) = .ok (ofUser u) := by
  obtain ⟨id, uid, provider, email, joined⟩ := u
  cases email <;> rfl

/-- A user is read back without the pages that the user joined. -/
theorem UserRow.toUser_ofUser (u : User) : (ofUser u).toUser [] = .ok u.withoutJoined := by
  obtain ⟨id, uid, provider, email, joined⟩ := u
  cases provider <;> rfl

/-! ## Tables of saved pages -/

namespace Tables.Hold

variable {tables : Tables} {users : List User} {saved : List (Page × Supply)}
  (h : tables.Hold users (saved.flatMap fun e => savePage e.1 e.2))
include h

theorem haveUsers_of_saved : tables.HaveUsers users :=
  h.haveUsers (by simp [inserted_flatMap, inserted_savePage])

theorem pages_of_saved : (tables "pages").Perm (saved.map fun e => pageRow e.1) :=
  (h.perm (by decide)).trans
    (.of_eq (by simp [inserted_flatMap, inserted_savePage, List.map_eq_flatMap]))

theorem links_of_saved : (tables "link_items").Perm (saved.flatMap fun e =>
    (e.2.identify e.1.links).map fun l => linkRow e.1.id l.1 l.2) :=
  (h.perm (by decide)).trans (.of_eq (by simp [inserted_flatMap, inserted_savePage]))

theorem guests_of_saved : (tables "page_users").Perm (saved.flatMap fun e =>
    e.1.invited.map fun u => guestRow e.1.id u.id) :=
  (h.perm (by decide)).trans (.of_eq (by simp [inserted_flatMap, inserted_savePage]))

end Tables.Hold

/-! ## Answers -/

/-- What matches, where rows are joined with users and one condition tells own ones from others. -/
private theorem matching_users {tables : Tables} {users : List User} (h : tables.HaveUsers users)
    {s : Statement} {q : Select} {column key : String} {id : Uuid} (hparams : s.params = [.uuid id])
    (hjoin : q.join? = some ⟨⟨"users", "u."⟩, "u.id", column⟩)
    (hconditions : q.conditions = [.equal key 1]) {α : Type} {own : List α} {row : α → Row}
    (user : α → User) {others : List Row}
    (hsource : (q.source.rows tables).Perm (own.map row ++ others))
    (hown : ∀ a ∈ own, user a ∈ users ∧ (row a).lookup "u.id" = none ∧
      (row a).lookup column = some (.uuid (user a).id.uuid) ∧ (row a).lookup key = some (.uuid id))
    (hothers : ∀ r ∈ others, ∃ u, r.lookup key = some (.uuid u) ∧ u ≠ id) :
    (q.matching s tables).Perm (own.map fun a => row a ++ (userRow (user a)).qualify "u.") := by
  rw [Select.matching, Select.rows, hjoin, hconditions]
  simp only [holds_equal hparams]
  exact ((hsource.flatMap_right _).filter _).trans (Join.filter_rows_users h hown hothers)

section

variable {p : Page} {supply : Supply} {others : List (Page × Supply)} {users : List User}
  {tables : Tables}
  (h : tables.Hold users (((p, supply) :: others).flatMap fun e => savePage e.1 e.2))
  (hothers : ∀ e ∈ others, e.1.id ≠ p.id)
include h hothers

/-- The row of a page, with that of its creator. -/
theorem selects_selectPage (hcreator : p.creator ∈ users) (rows : List Row) :
    (selectPage p.id).Selects tables rows ↔
      rows = [pageSelect.project (pageScope p p.creator)] := by
  -- The stored page comes first, up to order.
  have hsource : (ownSelect.source.rows tables).Perm
      ([p].map (fun p => (pageRow p).qualify "p.") ++
        others.map fun e => (pageRow e.1).qualify "p.") := by
    have hpages := h.pages_of_saved.map (Row.qualify "p.")
    rw [List.map_map] at hpages
    exact hpages
  have hmatching := matching_users h.haveUsers_of_saved (s := selectPage p.id) rfl rfl rfl
    Page.creator hsource
    (fun q hq => by
      obtain rfl := List.mem_singleton.mp hq
      exact ⟨hcreator, rfl, rfl, rfl⟩)
    -- The rows of other pages have other identifiers, so they do not match.
    (fun r hr => by
      obtain ⟨e, he, rfl⟩ := List.mem_map.mp hr
      exact ⟨e.1.id.uuid, rfl, fun heq => hothers e he (congrArg Id.mk heq)⟩)
  exact Statement.selects_iff_all (ofWords?_selectPage p.id) ⟨rfl, rfl⟩ hmatching.symm
    (List.pairwise_singleton _ _)

/-- The rows of the links, in their order. -/
theorem selects_selectLinks (hsorted : p.links.Pairwise (·.priority.value ≤ ·.priority.value))
    (hlater : (supply.identify p.links).Pairwise (·.1.uuid < ·.1.uuid)) (rows : List Row) :
    (selectLinks p.id).Selects tables rows ↔
      rows = (supply.identify p.links).map fun e => linkSelect.project (linkRow p.id e.1 e.2) := by
  -- the table has no short name here, so its columns go by their own names
  have hsource : linkSelect.source.rows tables = tables "link_items" := by
    have hqualify : Row.qualify "" = id := by
      funext r
      simp [Row.qualify]
    rw [Source.rows, show linkSelect.source = ⟨"link_items", ""⟩ from rfl, hqualify, List.map_id]
  have hfilter : linkSelect.matching (selectLinks p.id) tables =
      (linkSelect.source.rows tables).filter
        fun r => (r.cell "page_id").agrees (.uuid p.id.uuid) :=
    List.filter_congr fun r _ => holds_equal rfl "page_id" r
  have hmatching : (linkSelect.matching (selectLinks p.id) tables).Perm
      ((supply.identify p.links).map fun e => linkRow p.id e.1 e.2) := by
    rw [hfilter, hsource]
    refine (h.links_of_saved.filter _).trans (.of_eq (Row.filter_agrees ?_ ?_))
    · intro r hr
      obtain ⟨e, -, rfl⟩ := List.mem_map.mp hr
      rfl
    · intro r hr
      obtain ⟨e, he, hmem⟩ := List.mem_flatMap.mp hr
      obtain ⟨l, -, rfl⟩ := List.mem_map.mp hmem
      exact ⟨e.1.id.uuid, rfl, fun heq => hothers e he (congrArg Id.mk heq)⟩
  rw [Statement.selects_iff_all (ofWords?_selectLinks p.id) ⟨rfl, rfl⟩ hmatching.symm
    (Row.strictly_linkRow p.id (by rwa [Supply.map_identify]) hlater), List.map_map]
  rfl

/-- The rows of the guests, in the order of their identifiers. -/
theorem selects_selectInvited {sorted : List User} (hperm : sorted.Perm p.invited)
    (hsorted : sorted.Pairwise (·.id.uuid < ·.id.uuid)) (hguests : ∀ u ∈ p.invited, u ∈ users)
    (rows : List Row) :
    (selectInvited p.id).Selects tables rows ↔
      rows = sorted.map fun u => guestSelect.project (guestScope p.id u) := by
  -- As for the page itself, but with one row for each guest of each page.
  have hsource : (guestSelect.source.rows tables).Perm
      (sorted.map (fun u => (guestRow p.id u.id).qualify "pu.") ++
        others.flatMap fun e => e.1.invited.map fun u => (guestRow e.1.id u.id).qualify "pu.") := by
    have hrows := h.guests_of_saved.map (Row.qualify "pu.")
    rw [List.flatMap_cons, List.map_append, List.map_map, List.map_flatMap] at hrows
    simp only [List.map_map] at hrows
    exact hrows.trans ((hperm.map _).symm.append_right _)
  have hmatching := matching_users h.haveUsers_of_saved (s := selectInvited p.id) rfl rfl rfl
    id hsource
    (fun u hu => ⟨hguests u (hperm.subset hu), rfl, rfl, rfl⟩)
    (fun r hr => by
      obtain ⟨e, he, hmem⟩ := List.mem_flatMap.mp hr
      obtain ⟨u, -, rfl⟩ := List.mem_map.mp hmem
      exact ⟨e.1.id.uuid, rfl, fun heq => hothers e he (congrArg Id.mk heq)⟩)
  -- The guests are told apart by their identifiers, which fixes the order of the answer.
  rw [Statement.selects_iff_all (ofWords?_selectInvited p.id) ⟨rfl, rfl⟩ hmatching.symm
    (Row.strictly_uuid (fun _ => rfl) hsorted), List.map_map]
  rfl

end

/-! ## Reading back -/

section

variable {ℓ : Type} {c : Client} {ctx : Context} {w : World Endpoint PoolRole ℓ}
  {links guests : List Row} {replies : List Reply} {r : PageRow} {ls : Links} {creator : User}
  {rs : List UserRow} {us : List User}
  (hlinks : links.mapM linkOfRow = .ok ls) (hguests : guests.mapM (UserRow.ofRow {}) = .ok rs)
  (hcreator : r.creator.toUser [] = .ok creator)
  (husers : rs.mapM Pages.userOf = (pure us : Work (World Endpoint PoolRole ℓ) PageError _))
include hlinks hguests hcreator husers

/-- The page of a row, with the links and the guests that the server answers with. -/
theorem exists_hydrate_of_rows
    (hreplies : w.database.backend.replies = .rows links :: .rows guests :: replies) :
    ∃ w', Pages.hydrate c r w = (.done ⟨r.id, r.title, creator, r.inviteCode, ls, us⟩, w') ∧
      w'.database.backend.bound =
        w.database.backend.bound ++ [selectLinks r.id, selectInvited r.id] := by
  -- Two statements are sent, one for the links and one for the guests, and both are answered.
  obtain ⟨w₁, hfirst, hreplies₁, hbound₁⟩ :=
    exists_send_of_rows (c := c) hreplies (s := selectLinks r.id) (List.cons_ne_nil _ _)
  obtain ⟨w₂, hsecond, -, hbound₂⟩ :=
    exists_send_of_rows (c := c) hreplies₁ (s := selectInvited r.id) (List.cons_ne_nil _ _)
  refine ⟨w₂, ?_, ?_⟩
  · rw [Pages.hydrate, Work.bind_of_done hfirst, hlinks]
    -- Each step hands what it read to the next one.
    show (Pages.send c (selectInvited r.id) >>= _) w₁ = _
    rw [Work.bind_of_done hsecond, hguests]
    show (Pages.userOf r.creator >>= _) w₂ = _
    rw [Pages.userOf, hcreator]
    show (List.mapM Pages.userOf rs >>= _) w₂ = _
    rw [husers]
    rfl
  · rw [hbound₂, hbound₁, List.append_assoc]
    rfl

/-- The page that is made of rows, if a connection can be checked out. -/
theorem exists_get_of_rows {row : Row} {id : PageId} (hrow : PageRow.ofRow row = .ok r)
    (hreplies : w.database.backend.replies =
      .rows [row] :: .rows links :: .rows guests :: replies)
    (hcheckOut : ((Database.checkOut (.ofContext .read ctx) :
      Work (Database Endpoint PoolRole) _ _) w.database).1 = .done ()) :
    ∃ w', (Pages.repository : PageRepository (World Endpoint PoolRole ℓ)).get ctx id w =
        (.done (some ⟨r.id, r.title, creator, r.inviteCode, ls, us⟩), w') ∧
      w'.database.backend.bound = w.database.backend.bound ++
        [selectPage id, selectLinks r.id, selectInvited r.id] := by
  -- Checking out sends nothing with values, and neither does giving the session back.
  obtain ⟨w₁, hsee, hrest⟩ :=
    Database.exists_withConnection_of_body Endpoint.hides_bound hcheckOut
  obtain ⟨hbound₁, hreplies₁⟩ := Prod.mk.inj hsee
  -- The page goes first, since its links and guests are asked for by its identifier.
  obtain ⟨w₂, hfirst, hreplies₂, hbound₂⟩ := exists_send_of_rows (c := .ofContext .read ctx)
    (hreplies₁.trans hreplies) (s := selectPage id) (List.cons_ne_nil _ _)
  obtain ⟨w₃, hhydrate, hbound₃⟩ := exists_hydrate_of_rows (c := .ofContext .read ctx) hlinks
    hguests hcreator husers hreplies₂
  refine (hrest w₃ ?_).imp fun w' hw' => ⟨hw'.1, ?_⟩
  · show (Pages.send _ (selectPage id) >>= _) w₁ = _
    rw [Work.bind_of_done hfirst]
    show (Pages.reading (PageRow.ofRow row) >>= _) w₂ = _
    rw [hrow]
    show (Pages.hydrate _ r >>= _) w₂ = _
    rw [Work.bind_of_done hhydrate]
    rfl
  · rw [(Prod.mk.inj hw'.2).1, hbound₃, hbound₂, hbound₁, List.append_assoc]
    rfl

end

/-- Rows of a page, its links and its guests are made into the page again. -/
theorem exists_get_restores {ℓ : Type} {p : Page} {supply : Supply} {sorted : List User}
    (hperm : sorted.Perm p.invited) (hsorted : sorted.Pairwise (·.id.uuid < ·.id.uuid))
    {ctx : Context} {w : World Endpoint PoolRole ℓ} {replies : List Reply}
    (hreplies : w.database.backend.replies =
      .rows [pageSelect.project (pageScope p p.creator)] ::
      .rows ((supply.identify p.links).map fun e => linkSelect.project (linkRow p.id e.1 e.2)) ::
      .rows (sorted.map fun u => guestSelect.project (guestScope p.id u)) :: replies)
    (hcheckOut : ((Database.checkOut (.ofContext .read ctx) :
      Work (Database Endpoint PoolRole) _ _) w.database).1 = .done ()) :
    ∃ q w', Pages.repository.get ctx p.id w = (.done (some q), w') ∧
      w'.database.backend.bound = w.database.backend.bound ++
        [selectPage p.id, selectLinks p.id, selectInvited p.id] ∧
      q.Restores p := by
  -- Row by row, links and guests are read as they were saved.
  have hlinks : ((supply.identify p.links).map fun e =>
      linkSelect.project (linkRow p.id e.1 e.2)).mapM linkOfRow =
        .ok ((supply.identify p.links).map Prod.snd) :=
    mapM_map_eq_pure fun e _ => linkOfRow_project p.id e.1 e.2
  have hguests : (sorted.map fun u => guestSelect.project (guestScope p.id u)).mapM
      (UserRow.ofRow {}) = .ok (sorted.map UserRow.ofUser) :=
    mapM_map_eq_pure fun u _ => UserRow.ofRow_project p.id u
  -- The pages that a guest joined are not part of the row.
  have husers : (sorted.map UserRow.ofUser).mapM Pages.userOf =
      (pure (sorted.map User.withoutJoined) : Work (World Endpoint PoolRole ℓ) PageError _) :=
    mapM_map_eq_pure fun u _ => by
      rw [Pages.userOf, UserRow.toUser_ofUser]
      rfl
  obtain ⟨w', hget, hbound⟩ := exists_get_of_rows hlinks hguests
    (UserRow.toUser_ofUser p.creator) husers (PageRow.ofRow_project p p.creator) hreplies hcheckOut
  -- All but the order of the guests is read off the page that was put together.
  refine ⟨_, w', hget, hbound, rfl, rfl, rfl, Supply.map_identify _ _, rfl, hperm.map _, ?_⟩
  rw [List.pairwise_map]
  exact hsorted

/-! ## Saving and reading back -/

/-- On these tables, the statements that read a page back are answered like this, and in no other
    way. -/
structure Tables.Answer (tables : Tables) (id : PageId) (page links guests : List Row) : Prop where
  page : ∀ rows, (selectPage id).Selects tables rows ↔ rows = page
  links : ∀ rows, (selectLinks id).Selects tables rows ↔ rows = links
  guests : ∀ rows, (selectInvited id).Selects tables rows ↔ rows = guests

/-- A page survives storage: once a page that was made by any calls was saved, the statements that
    read it back have one answer on all tables that hold what was inserted, the rows of the
    creator, of the guests and of other users, and other pages. Given this answer, in whatever
    context, they are made into the page that was saved: its links are in the same order, and the
    guests in that of their identifiers. It is assumed that later links got greater identifiers. -/
theorem get_save {ℓ : Type} {id : PageId} {code title : String} {creator : User} {new p : Page}
    (hnew : Page.new id code title creator = .ok new) (calls : List Page.Call)
    (hcalls : new.run calls = p) {ctx : Context} {w w' : World Endpoint PoolRole ℓ}
    (hsave : Pages.repository.save ctx p w = (.done (), w'))
    (hlater : (w.supply.identify p.links).Pairwise (·.1.uuid < ·.1.uuid)) :
    ∃ sent, w'.database.backend.bound = w.database.backend.bound ++ sent ∧
      ∀ {users : List User} {others : List (Page × Supply)} {tables : Tables},
        tables.Hold users (sent ++ others.flatMap fun e => savePage e.1 e.2) →
        (∀ u ∈ p.creator :: p.invited, u ∈ users) → (∀ e ∈ others, e.1.id ≠ p.id) →
        ∃ page links guests, tables.Answer p.id page links guests ∧
          ∀ (ctx₁ : Context) (w₁ : World Endpoint PoolRole ℓ) (replies : List Reply),
            w₁.database.backend.replies =
              .rows page :: .rows links :: .rows guests :: replies →
            ((Database.checkOut (.ofContext .read ctx₁) :
              Work (Database Endpoint PoolRole) _ _) w₁.database).1 = .done () →
            ∃ q w₂, Pages.repository.get ctx₁ p.id w₁ = (.done (some q), w₂) ∧
              w₂.database.backend.bound = w₁.database.backend.bound ++
                [selectPage p.id, selectLinks p.id, selectInvited p.id] ∧
              q.Restores p := by
  obtain rfl := hcalls
  -- two invariants of any run: how links are ordered, and that guests are told apart
  have hordered : (new.run calls).links.Ordered := Page.ordered_run (Page.ordered_new hnew) calls
  have hsound : (new.run calls).Sound := Page.sound_run (Page.sound_new hnew) calls
  generalize new.run calls = p at *
  obtain ⟨sorted, hperm, hsorted⟩ := User.exists_sorted hsound.guests
  refine ⟨savePage p w.supply, bound_of_save hsave, ?_⟩
  intro users others tables hold hknown hothers
  -- the page is one of those that were saved, and the server got its statements
  have hsaved : tables.Hold users
    (((p, w.supply) :: others).flatMap fun e => savePage e.1 e.2) := hold
  have hpage := selects_selectPage hsaved hothers (hknown _ List.mem_cons_self)
  have hlinks := selects_selectLinks hsaved hothers hordered.sorted hlater
  have hguests := selects_selectInvited hsaved hothers hperm hsorted
    fun u hu => hknown u (List.mem_cons_of_mem _ hu)
  exact ⟨_, _, _, ⟨hpage, hlinks, hguests⟩, fun ctx₁ w₁ replies hreplies hcheckOut =>
    exists_get_restores hperm hsorted hreplies hcheckOut⟩

/-- A page is read back whose links have the same priority, one of them without a note, and whose
    guests came in another order than that of their identifiers. -/
theorem get_save_guests :
    let ann : User := .new ⟨.ofNat 1⟩ "ann"
    let bob : User := .google ⟨.ofNat 4⟩ "bob"
    let eve : User := { User.new ⟨.ofNat 9⟩ "eve" with joined := [⟨.ofNat 7⟩] }
    let calls : List Page.Call := [⟨ann, .addLink "a" ""⟩, ⟨ann, .addLink "b" ""⟩,
      ⟨ann, .removeLink "a"⟩, ⟨ann, .addLink "c" "note"⟩, ⟨eve, .join "code"⟩, ⟨bob, .join "code"⟩]
    let p := (⟨⟨.ofNat 7⟩, "Title", ann, "code", [], []⟩ : Page).run calls
    let other : Page := ⟨⟨.ofNat 8⟩, "Other", bob, "more", [⟨"d", "", .ofNat 0⟩], [ann, eve]⟩
    let w : World Endpoint PoolRole Call := { database := ⟨{}, #[]⟩ }
    let store : PageRepository (World Endpoint PoolRole Call) := Pages.repository
    let w' := (store.save .background p w).2
    let tables : Tables := fun table => (inserted ([ann, bob, eve].map upsertUser ++
      (w'.database.backend.bound ++ savePage other { issued := 20 })) table).reverse
    p.links = [⟨"b", "", .ofNat 1⟩, ⟨"c", "note", .ofNat 1⟩] ∧ p.invited = [eve, bob] ∧
    ∃ page links guests q w₂, tables.Answer p.id page links guests ∧
      store.get .background p.id
        { database := ⟨{ replies := [.rows page, .rows links, .rows guests] }, #[]⟩ } =
          (.done (some q), w₂) ∧
      q.Restores p := by
  intro ann bob eve calls p other w store w' tables
  have hlinks : p.links = [⟨"b", "", .ofNat 1⟩, ⟨"c", "note", .ofNat 1⟩] := by decide +kernel
  have hinvited : p.invited = [eve, bob] := by decide +kernel
  refine ⟨hlinks, hinvited, ?_⟩
  have hlater : (w.supply.identify p.links).Pairwise (·.1.uuid < ·.1.uuid) :=
    Supply.identify_increasing (by rw [hlinks]; decide)
  -- Only the outcome is evaluated, since worlds cannot be compared.
  have hdone : (store.save .background p w).1 = .done () := by
    have hend : (match (store.save .background p w).1 with
      | .done _ => true
      | .failed _ | .panicked _ | .suspended => false) = true := by
      decide +kernel
    revert hend
    cases (store.save .background p w).1 <;> simp
  have hsave : store.save .background p w = (.done (), w') := by rw [← hdone]
  have hnew : Page.new ⟨.ofNat 7⟩ "code" "Title" ann =
      .ok ⟨⟨.ofNat 7⟩, "Title", ann, "code", [], []⟩ := rfl
  obtain ⟨sent, hbound, hread⟩ := get_save hnew calls rfl hsave hlater
  -- The tables hold what was sent, in any order; here it is reversed.
  have hold : tables.Hold [ann, bob, eve]
      (sent ++ [(other, ({ issued := 20 } : Supply))].flatMap fun e => savePage e.1 e.2) := by
    refine ⟨fun table => ?_, by decide +kernel⟩
    have hsent : w'.database.backend.bound = sent := hbound
    rw [← hsent]
    exact List.reverse_perm _
  -- So the tables answer the three statements, and these answers restore the page.
  obtain ⟨page, links, guests, hanswer, hget⟩ := hread hold
    (by rw [hinvited]; decide +kernel) (by decide +kernel)
  obtain ⟨q, w₂, hq, -, hrestores⟩ := hget .background
    { database := ⟨{ replies := [.rows page, .rows links, .rows guests] }, #[]⟩ } [] rfl rfl
  exact ⟨page, links, guests, q, w₂, hanswer, hq, hrestores⟩

end Sql

end SharedPages
