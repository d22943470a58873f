import Mathlib.Data.List.Perm.Basic
import SharedPages.Proofs.Selection

/-!
# Rows of users and pages

What the statements of the repositories say, once their texts are read: which
row each `INSERT` binds, and what a `SELECT` makes of the row of a user that is
joined to another row.

## Key results

- `inserted?_upsertUser`, `inserted?_upsertPage`, `inserted?_insertLink`,
  `inserted?_insertInvited`: the rows that are bound
- `Join.rows_users`: one user is joined to a row, the one whose identifier it holds
- `Join.filter_rows_users`: what a condition leaves of rows that are joined with users
- `Tables.Hold`: tables with what was inserted
- `PageRow.ofRow_project`: a page and its creator, as they are read back
-/

namespace SharedPages.Sql

/-! ## Inserted rows -/

/-- An optional text in a column. -/
def Cell.ofText? : Option String → Cell
  | some s => .text s
  | none => .null

/-- The row of a user. -/
def userRow (u : User) : Row :=
  [("id", .uuid u.id.uuid), ("uid", .text u.uid), ("provider", .text u.provider.name),
    ("email", .ofText? u.email)]

/-- The row of a page. -/
def pageRow (p : Page) : Row :=
  [("id", .uuid p.id.uuid), ("title", .text p.title), ("creator_id", .uuid p.creator.id.uuid),
    ("invite_code", .text p.inviteCode)]

/-- The row of a link. -/
def linkRow (page : PageId) (id : LinkId) (l : Link) : Row :=
  [("id", .uuid id.uuid), ("page_id", .uuid page.uuid), ("url", .text l.url),
    ("memo", if l.memo.isEmpty then .null else .text l.memo),
    ("priority", .integer l.priority.value)]

/-- The row of a guest. -/
def guestRow (page : PageId) (guest : UserId) : Row :=
  [("page_id", .uuid page.uuid), ("user_id", .uuid guest.uuid)]

/-- What is inserted is what the text says, with the parameters in their places. -/
private theorem inserted?_of_text {s : Statement} {insert : Insert} (hparams : s.params ≠ [])
    (htext : Insert.ofWords? (words s.text) = some insert) :
    s.inserted? = (insert.numbers.mapM fun n => (s.param? n).bind Param.cell?).map fun cells =>
      (insert.table, insert.columns.zip cells) := by
  rw [Statement.inserted?, if_neg (by simpa using hparams), htext]
  rfl

theorem inserted?_upsertUser (u : User) :
    (upsertUser u).inserted? = some ("users", userRow u) := by
  have htext : Insert.ofWords? (words (upsertUser u).text) =
      some ⟨"users", ["id", "uid", "provider", "email"], [1, 2, 3, 4]⟩ := by
    dsimp only [upsertUser, words]
    rw [String.toList_append, String.toList_append, String.toList_ofList, String.toList_ofList,
      String.toList_ofList]
    decide +kernel
  rw [inserted?_of_text (List.cons_ne_nil _ _) htext]
  obtain ⟨id, uid, provider, email, joined⟩ := u
  cases email <;> rfl

theorem inserted?_upsertPage (p : Page) :
    (upsertPage p).inserted? = some ("pages", pageRow p) := by
  have htext : Insert.ofWords? (words (upsertPage p).text) =
      some ⟨"pages", ["id", "title", "creator_id", "invite_code"], [1, 2, 3, 4]⟩ := by
    dsimp only [upsertPage, words]
    rw [String.toList_append, String.toList_ofList, String.toList_ofList]
    decide +kernel
  rw [inserted?_of_text (List.cons_ne_nil _ _) htext]
  rfl

theorem inserted?_insertLink (page : PageId) (id : LinkId) (l : Link) :
    (insertLink page id l).inserted? = some ("link_items", linkRow page id l) := by
  have htext : Insert.ofWords? (words (insertLink page id l).text) =
      some ⟨"link_items", ["id", "page_id", "url", "memo", "priority"], [1, 2, 3, 4, 5]⟩ := by
    dsimp only [insertLink, words]
    rw [String.toList_ofList]
    decide +kernel
  rw [inserted?_of_text (List.cons_ne_nil _ _) htext]
  dsimp only [insertLink, linkRow]
  cases l.memo.isEmpty <;> rfl

theorem inserted?_insertInvited (page : PageId) (guest : UserId) :
    (insertInvited page guest).inserted? = some ("page_users", guestRow page guest) := by
  have htext : Insert.ofWords? (words (insertInvited page guest).text) =
      some ⟨"page_users", ["page_id", "user_id"], [1, 2]⟩ := by
    dsimp only [insertInvited, words]
    rw [String.toList_ofList]
    decide +kernel
  rw [inserted?_of_text (List.cons_ne_nil _ _) htext]
  rfl

theorem inserted?_deleteLinks (id : PageId) : (deleteLinks id).inserted? = none := by
  have htext : Insert.ofWords? (words (deleteLinks id).text) = none := by
    dsimp only [deleteLinks, words]
    rw [String.toList_ofList]
    decide +kernel
  rw [Statement.inserted?, htext]
  rfl

theorem inserted?_deleteInvited (id : PageId) : (deleteInvited id).inserted? = none := by
  have htext : Insert.ofWords? (words (deleteInvited id).text) = none := by
    dsimp only [deleteInvited, words]
    rw [String.toList_ofList]
    decide +kernel
  rw [Statement.inserted?, htext]
  rfl

theorem inserted_cons (s : Statement) (ss : List Statement) (table : String) :
    inserted (s :: ss) table =
      (s.inserted?.elim [] fun (t, row) => if t = table then [row] else []) ++
        inserted ss table := by
  simp only [inserted]
  cases hs : s.inserted? with
  | none => rw [List.filterMap_cons_none hs]; rfl
  | some insertion =>
    obtain ⟨t, row⟩ := insertion
    rw [List.filterMap_cons_some hs, List.filterMap_cons]
    by_cases ht : t = table <;> simp [ht]

/-- Rows are inserted by one list of statements after another. -/
theorem inserted_append (statements more : List Statement) (table : String) :
    inserted (statements ++ more) table = inserted statements table ++ inserted more table := by
  simp only [inserted, List.filterMap_append]

theorem inserted_flatMap {α : Type} (as : List α) (f : α → List Statement) (table : String) :
    inserted (as.flatMap f) table = as.flatMap fun a => inserted (f a) table := by
  induction as with
  | nil => rfl
  | cons a as ih => rw [List.flatMap_cons, List.flatMap_cons, inserted_append, ih]

/-- Statements that insert into one table, each a row. -/
theorem inserted_map {α : Type} {f : α → Statement} {table : String} {row : α → Row}
    (h : ∀ a, (f a).inserted? = some (table, row a)) (as : List α) (table' : String) :
    inserted (as.map f) table' = if table = table' then as.map row else [] := by
  simp only [inserted, List.filterMap_map, Function.comp_def, h]
  by_cases htable : table = table' <;> simp [htable, List.filterMap_map]

/-! ## Users that are joined -/

/-- Cells of identifiers agree if the identifiers are the same. -/
theorem Cell.agrees_uuid (u v : Uuid) : (Cell.uuid u).agrees (.uuid v) = decide (u = v) := by
  simp [agrees]

/-- The table of users holds these, told apart by their identifiers. -/
structure Tables.HaveUsers (tables : Tables) (users : List User) : Prop where
  rows : (tables "users").Perm (users.map userRow)
  distinct : (users.map (·.id)).Nodup

/-- One element of a list has the key that it has, if all keys are different. -/
private theorem filter_key {α κ : Type} [DecidableEq κ] {key : α → κ} {as : List α}
    (h : (as.map key).Nodup) {a : α} (ha : a ∈ as) : as.filter (key · = key a) = [a] := by
  induction as with
  | nil => cases ha
  | cons b as ih =>
    obtain ⟨hb, hrest⟩ := List.nodup_cons.mp h
    rw [List.filter_cons]
    obtain rfl | hmem := List.mem_cons.mp ha
    · -- nothing behind the first element has its key
      have hnone : as.filter (key · = key a) = [] := by
        simp only [List.filter_eq_nil_iff, decide_eq_true_eq]
        exact fun c hc hkey => hb (hkey ▸ List.mem_map_of_mem hc)
      simp [hnone]
    · have hne : key b ≠ key a := fun hkey => hb (hkey ▸ List.mem_map_of_mem hmem)
      simpa [hne] using ih hrest hmem

/-- One user is joined to a row, the one whose identifier is in a column of it. -/
theorem Join.rows_users {tables : Tables} {users : List User} (h : tables.HaveUsers users)
    {u : User} (hu : u ∈ users) {row : Row} {column : String} (hid : row.lookup "u.id" = none)
    (hcolumn : row.lookup column = some (.uuid u.id.uuid)) :
    (Join.rows ⟨⟨"users", "u."⟩, "u.id", column⟩ tables row).Perm
      [row ++ (userRow u).qualify "u."] := by
  -- The joined row carries the identifier of the user, and comparing values compares users.
  have hagrees (v : User) :
      ((row ++ (userRow v).qualify "u.").cell "u.id").agrees
        ((row ++ (userRow v).qualify "u.").cell column) = decide (v.id = u.id) := by
    have hcell : (row ++ (userRow v).qualify "u.").cell "u.id" = .uuid v.id.uuid := by
      rw [Row.cell, List.lookup_append, hid]
      rfl
    have hsame : v.id.uuid = u.id.uuid ↔ v.id = u.id := ⟨congrArg Id.mk, congrArg Id.uuid⟩
    rw [hcell, Row.cell, List.lookup_append, hcolumn]
    simp [Cell.agrees_uuid, hsame]
  have hjoined := ((h.rows.map (Row.qualify "u.")).map (row ++ ·)).filter fun row =>
    (row.cell "u.id").agrees (row.cell column)
  refine hjoined.trans (.of_eq ?_)
  rw [List.map_map, List.map_map, List.filter_map]
  simp only [Function.comp_def, hagrees]
  -- Identifiers are distinct, so the one row is left.
  rw [filter_key h.distinct hu]
  rfl

/-- A column of a row is found again in what is joined to it. -/
theorem Row.cell_append_of_lookup {row : Row} {column : String} {cell : Cell}
    (h : row.lookup column = some cell) (more : Row) : (row ++ more).cell column = cell := by
  rw [Row.cell, List.lookup_append, h]
  rfl

/-- A condition on a column of identifiers leaves the rows that have the right one. -/
theorem Row.filter_agrees {own others : List Row} {key : String} {v : Uuid}
    (hown : ∀ r ∈ own, r.cell key = .uuid v)
    (hothers : ∀ r ∈ others, ∃ u, r.cell key = .uuid u ∧ u ≠ v) :
    (own ++ others).filter (fun r => (r.cell key).agrees (.uuid v)) = own := by
  have hkept : own.filter (fun r => (r.cell key).agrees (.uuid v)) = own := by
    rw [List.filter_eq_self]
    intro r hr
    rw [hown r hr, Cell.agrees_uuid]
    exact decide_eq_true rfl
  have hnone : others.filter (fun r => (r.cell key).agrees (.uuid v)) = [] := by
    rw [List.filter_eq_nil_iff]
    intro r hr
    obtain ⟨u, hcell, hne⟩ := hothers r hr
    rw [hcell, Cell.agrees_uuid]
    simpa using hne
  rw [List.filter_append, hkept, hnone, List.append_nil]

/-- Of rows that are joined with users, a condition on a column of theirs leaves those that meet it,
    each with its user. -/
theorem Join.filter_rows_users {tables : Tables} {users : List User} (h : tables.HaveUsers users)
    {α : Type} {own : List α} {row : α → Row} {user : α → User} {others : List Row}
    {column key : String} {v : Uuid}
    (hown : ∀ a ∈ own, user a ∈ users ∧ (row a).lookup "u.id" = none ∧
      (row a).lookup column = some (.uuid (user a).id.uuid) ∧ (row a).lookup key = some (.uuid v))
    (hothers : ∀ r ∈ others, ∃ u, r.lookup key = some (.uuid u) ∧ u ≠ v) :
    (((own.map row ++ others).flatMap
      (Join.rows ⟨⟨"users", "u."⟩, "u.id", column⟩ tables)).filter fun r =>
        (r.cell key).agrees (.uuid v)).Perm
      (own.map fun a => row a ++ (userRow (user a)).qualify "u.") := by
  let join (r : Row) := Join.rows ⟨⟨"users", "u."⟩, "u.id", column⟩ tables r
  -- the column is the row's own, so it is the same in all that is joined to the row
  have hjoined (r joined : Row) (hmem : joined ∈ join r) {cell : Cell}
      (hkey : r.lookup key = some cell) : joined.cell key = cell := by
    obtain ⟨more, -, rfl⟩ := List.mem_map.mp (List.mem_filter.mp hmem).1
    exact Row.cell_append_of_lookup hkey more
  rw [List.flatMap_append, Row.filter_agrees]
  · rw [List.flatMap_map, List.map_eq_flatMap]
    refine .flatMap_left own fun a ha => ?_
    obtain ⟨hknown, hid, hcolumn, -⟩ := hown a ha
    exact Join.rows_users h hknown hid hcolumn
  · intro joined hmem
    obtain ⟨r, hr, hmem⟩ := List.mem_flatMap.mp hmem
    obtain ⟨a, ha, rfl⟩ := List.mem_map.mp hr
    exact hjoined _ _ hmem (hown a ha).2.2.2
  · intro joined hmem
    obtain ⟨r, hr, hmem⟩ := List.mem_flatMap.mp hmem
    obtain ⟨u, hkey, hne⟩ := hothers r hr
    exact ⟨u, hjoined _ _ hmem hkey, hne⟩

/-! ## Tables with what was inserted -/

/-- Users are all that there is in their table, if the other statements insert none. -/
theorem inserted_users (users : List User) {statements : List Statement}
    (hnone : inserted statements "users" = []) :
    inserted (users.map upsertUser ++ statements) "users" = users.map userRow := by
  rw [inserted_append, inserted_map inserted?_upsertUser, hnone, List.append_nil]
  rfl

/-- Users are in no other table. -/
theorem inserted_others (users : List User) (statements : List Statement) {table : String}
    (htable : "users" ≠ table) :
    inserted (users.map upsertUser ++ statements) table = inserted statements table := by
  rw [inserted_append, inserted_map inserted?_upsertUser, if_neg htable]
  rfl

/-- Tables with the rows of users, told apart by their identifiers, and those that some statements
    inserted. -/
structure Tables.Hold (tables : Tables) (users : List User) (statements : List Statement) :
    Prop where
  rows : ∀ table, (tables table).Perm (inserted (users.map upsertUser ++ statements) table)
  distinct : (users.map (·.id)).Nodup

namespace Tables.Hold

variable {tables : Tables} {users : List User} {statements : List Statement}
  (h : tables.Hold users statements)
include h

theorem haveUsers (hnone : inserted statements "users" = []) : tables.HaveUsers users :=
  ⟨(h.rows "users").trans (.of_eq (inserted_users users hnone)), h.distinct⟩

theorem perm {table : String} (htable : "users" ≠ table) :
    (tables table).Perm (inserted statements table) :=
  (h.rows table).trans (.of_eq (inserted_others users statements htable))

end Tables.Hold

/-! ## Pages and their creators -/

/-- The row of a page, joined with the row of a user. -/
def pageScope (p : Page) (u : User) : Row :=
  (pageRow p).qualify "p." ++ (userRow u).qualify "u."

/-- What all statements that select pages have in common. -/
def pageSelect : Select where
  outputs := [⟨"p.id", false, "id"⟩, ⟨"p.title", false, "title"⟩,
    ⟨"p.invite_code", false, "invite_code"⟩, ⟨"u.id", false, "creator_id"⟩,
    ⟨"u.uid", false, "creator_uid"⟩, ⟨"u.provider", false, "creator_provider"⟩,
    ⟨"u.email", false, "creator_email"⟩]
  source := ⟨"pages", "p."⟩
  join? := some ⟨⟨"users", "u."⟩, "u.id", "p.creator_id"⟩
  conditions := []

/-- The row of a user as it is read back. -/
def UserRow.ofUser (u : User) : UserRow := ⟨u.id, u.uid, u.provider.name, u.email⟩

/-- A page and its creator are read back as they were stored. -/
theorem PageRow.ofRow_project (p : Page) (u : User) :
    ofRow (pageSelect.project (pageScope p u)) =
      .ok ⟨p.id, p.title, p.inviteCode, .ofUser u⟩ := by
  obtain ⟨id, uid, provider, email, joined⟩ := u
  cases email <;> rfl

/-- Rows that can all be read are read one by one. -/
theorem mapM_map_eq_pure {m : Type → Type} [Monad m] [LawfulMonad m] {α β γ : Type} {row : α → β}
    {read : β → m γ} {value : α → γ} {as : List α} (h : ∀ a ∈ as, read (row a) = pure (value a)) :
    (as.map row).mapM read = pure (as.map value) := by
  induction as with
  | nil => rw [List.map_nil, List.mapM_nil, List.map_nil]
  | cons a as ih =>
    rw [List.map_cons, List.mapM_cons, h a List.mem_cons_self,
      ih fun b hb => h b (List.mem_cons_of_mem _ hb), pure_bind, pure_bind, List.map_cons]

end SharedPages.Sql
