import SharedPages.Proofs.StoredPages
import SharedPages.Service.Page

/-!
# Lists of stored pages

A repository in memory lists the stored pages that a query lets through, in the
order of their identifiers, and a query may ask for one result page of that list.
The service sets the creator of the query to the user of the request, and so it
must not matter to anyone which pages others have.

The memory here is any that a repository comes to: pages that it was made with,
whether or not some share an identifier, and then pages that were saved and
deleted in any order. So all of its pages are stored under their identifiers
(`Memory.Filed`).

## Key results

- `PageQuery.flatMap_resultPage`, `PageQuery.length_resultPage`: result pages one after the other
- `PageQuery.window_ofWords`: the window of a query, counted with words
- `Memory.list_resultPages`: what is listed in memory, and how it is cut into result pages
- `PageService.list_ownPages`: what a user sees of two memories with the same pages of their own
-/

namespace SharedPages

/-! ## Windows -/

namespace PageQuery

/-- The result page of that number: numbers are from one, and all result pages have one size. -/
def resultPage (all : List Page) (size number : Nat) : List Page :=
  (all.drop ((number - 1) * size)).take size

variable {all : List Page} {size : Nat}

theorem slice_of_window {q : PageQuery} {offset limit : Nat}
    (h : q.window = some (offset, limit)) (ps : List Page) :
    q.slice ps = (ps.drop offset).take limit := by
  rw [slice, h]

/-- The first result pages, one after the other, are the first pages of the list. -/
theorem flatMap_resultPage (all : List Page) (size count : Nat) :
    (List.range' 1 count).flatMap (resultPage all size) = all.take (count * size) := by
  induction count with
  | zero => rw [Nat.zero_mul]; rfl
  | succ count ih =>
    have hnext : resultPage all size (1 + 1 * count) = (all.drop (count * size)).take size := by
      rw [resultPage, show 1 + 1 * count - 1 = count by omega]
    rw [List.range'_concat, List.flatMap_append, ih, List.flatMap_singleton, hnext,
      Nat.succ_mul, List.take_add]

/-- A result page is full if there is anything on a later one. -/
theorem length_resultPage {number later : Nat} (hnumber : 0 < number) (hlater : number < later)
    (h : resultPage all size later ≠ []) : (resultPage all size number).length = size := by
  have hbefore : (later - 1) * size < all.length := by
    by_contra hbeyond
    refine h ?_
    rw [resultPage, List.drop_eq_nil_of_le (by omega), List.take_nil]
  -- what comes before the later page has room for this one
  have hroom : (number - 1) * size + size ≤ (later - 1) * size := by
    rw [← Nat.succ_mul]
    exact Nat.mul_le_mul_right size (by omega)
  rw [resultPage, List.length_take, List.length_drop]
  omega

/-- The window of a query whose numbers are words: number and size of the result page have 32 bits
    each, and what is skipped and taken is counted with 64. -/
def windowOfWords (page pageSize : Option UInt32) : Option (UInt64 × UInt64) :=
  match pageSize with
  | none => none
  | some size =>
    if size = 0 then none
    else some (((max (page.getD 1) 1).toUInt64 - 1) * size.toUInt64, size.toUInt64)

/-- The greatest offset of all has 64 bits. -/
theorem mul_lt_of_words {m n : Nat} (hm : m < 0x100000000) (hn : n < 0x100000000) :
    m * n < 0x10000000000000000 :=
  calc m * n ≤ 0xffffffff * 0xffffffff := Nat.mul_le_mul (by omega) (by omega)
    _ < 0x10000000000000000 := by decide

theorem toNat_max_one (n : UInt32) : (max n 1).toNat = max n.toNat 1 := by
  show (if n ≤ 1 then 1 else n).toNat = max n.toNat 1
  split
  · rename_i hle
    have hle := UInt32.le_iff_toNat_le.mp hle
    simp only [UInt32.toNat_one] at hle ⊢
    omega
  · rename_i hgt
    rw [UInt32.le_iff_toNat_le, UInt32.toNat_one] at hgt
    omega

theorem toNat_offset {number size : UInt32} (h : 1 ≤ number.toNat) :
    ((number.toUInt64 - 1) * size.toUInt64).toNat = (number.toNat - 1) * size.toNat := by
  have hle : (1 : UInt64) ≤ number.toUInt64 := by
    rw [UInt64.le_iff_toNat_le, UInt32.toNat_toUInt64]
    exact h
  have hnumber := number.toNat_lt
  rw [UInt64.toNat_mul, UInt64.toNat_sub_of_le _ _ hle, UInt32.toNat_toUInt64,
    UInt32.toNat_toUInt64]
  exact Nat.mod_eq_of_lt (mul_lt_of_words (by simp only [UInt64.toNat_one]; omega) size.toNat_lt)

/-- Nothing overflows: the window that is counted with words is the window of the query. -/
theorem window_ofWords (ids : List PageId) (createdBy : Option UserId)
    (page pageSize : Option UInt32) :
    (windowOfWords page pageSize).map (fun w => (w.1.toNat, w.2.toNat)) =
      window ⟨ids, createdBy, page.map (·.toNat), pageSize.map (·.toNat)⟩ := by
  cases pageSize with
  | none => rfl
  | some size =>
    by_cases hsize : size = 0
    · subst hsize
      rfl
    · have hpos : size.toNat ≠ 0 := fun h => hsize (UInt32.toNat_inj.mp h)
      have hnumber : (max (page.getD 1) 1).toNat = max ((page.map (·.toNat)).getD 1) 1 := by
        cases page with
        | none => rfl
        | some n => exact toNat_max_one n
      simp only [windowOfWords, if_neg hsize, window, Option.map_some]
      rw [toNat_offset (by omega), hnumber, UInt32.toNat_toUInt64]

end PageQuery

/-! ## Pages in memory -/

namespace Memory

variable {m : Memory}

/-- The stored pages that match a query are the ones that it lets through. -/
theorem Filed.mem_matching_iff (h : m.Filed) {q : PageQuery} {p : Page} :
    p ∈ m.pages.values.filter q.isMatch ↔ m.pages.find? p.id = some p ∧
      (q.ids = [] ∨ p.id ∈ q.ids) ∧ ∀ creator, q.createdBy = some creator →
        p.creator.id = creator := by
  rw [List.mem_filter, h.mem_values_iff]
  simp [PageQuery.isMatch, Option.all_eq_true]

/-- What is listed in memory, whatever was saved and deleted before: without a size of result pages,
    all stored pages that match, each one once and in the order of their identifiers. The result
    pages of any one size are that list cut up. They are numbered from one, and every one before the
    last is full. Numbers of 32 bits lead to no offset beyond 64. -/
theorem list_resultPages (users : List User) (pages : List Page) (writes : List Write)
    (ctx : Context) (ids : List PageId) (createdBy : Option UserId) {size : Nat}
    (hsize : 0 < size) :
    let m := (ofStored users pages).written writes
    let list (page pageSize : Option Nat) :=
      (pageRepository.list ctx ⟨ids, createdBy, page, pageSize⟩ : Work Memory PageError _) m
    ∃ (all : List Page) (part : Nat → List Page),
      (∀ page, list page none = (.done all, m) ∧ list page (some 0) = (.done all, m)) ∧
      (∀ p, p ∈ all ↔ m.pages.find? p.id = some p ∧ (ids = [] ∨ p.id ∈ ids) ∧
        ∀ creator, createdBy = some creator → p.creator.id = creator) ∧
      all.Pairwise (·.id.uuid < ·.id.uuid) ∧
      (∀ number, 0 < number → list (some number) (some size) = (.done (part number), m)) ∧
      list none (some size) = (.done (part 1), m) ∧
      list (some 0) (some size) = (.done (part 1), m) ∧
      (∀ count, all.length ≤ count * size → (List.range' 1 count).flatMap part = all) ∧
      (∀ number later, 0 < number → number < later → part later ≠ [] →
        (part number).length = size) ∧
      ∀ page pageSize : Option UInt32,
        (PageQuery.windowOfWords page pageSize).map (fun w => (w.1.toNat, w.2.toNat)) =
          PageQuery.window ⟨ids, createdBy, page.map (·.toNat), pageSize.map (·.toNat)⟩ := by
  intro m list
  have hfiled : m.Filed := (filed_ofStored users pages).written writes
  let all := m.pages.values.filter (PageQuery.isMatch ⟨ids, createdBy, none, none⟩)
  -- The filters do not look at the window.
  have hlist (page pageSize : Option Nat) : list page pageSize =
      (.done (PageQuery.slice ⟨ids, createdBy, page, pageSize⟩ all), m) := rfl
  have hwindow (page : Option Nat) : PageQuery.window ⟨ids, createdBy, page, some size⟩ =
      some ((max (page.getD 1) 1 - 1) * size, size) := by
    cases size with
    | zero => omega
    | succ n => rfl
  have hpart (page : Option Nat) : list page (some size) =
      (.done (PageQuery.resultPage all size (max (page.getD 1) 1)), m) := by
    rw [hlist, PageQuery.slice_of_window (hwindow page)]
    rfl
  refine ⟨all, PageQuery.resultPage all size, fun page => ⟨rfl, rfl⟩,
    fun p => hfiled.mem_matching_iff, hfiled.pairwise_values.filter _, fun number hnumber => ?_,
    hpart none, hpart (some 0), fun count hcount => ?_,
    fun number later hnumber hlater h => PageQuery.length_resultPage hnumber hlater h,
    PageQuery.window_ofWords ids createdBy⟩
  · rw [hpart, Option.getD_some, Nat.max_eq_left hnumber]
  · rw [PageQuery.flatMap_resultPage, List.take_of_length_le hcount]

/-- Three pages of a creator, two at a time, among pages that were replaced and deleted. -/
theorem list_resultPages_replaced :
    let ann : User := .new ⟨.ofNat 1⟩ "ann"
    let bob : User := .new ⟨.ofNat 2⟩ "bob"
    let page (n : Nat) (u : User) : Page := ⟨⟨.ofNat n⟩, "Title", u, "code", [], []⟩
    let m := (ofStored [] [page 9 ann, page 3 bob, page 7 bob, page 5 ann]).written
      [.save (page 3 ann), .delete ⟨.ofNat 5⟩, .save (page 8 ann), .delete ⟨.ofNat 6⟩]
    let list (number : Option Nat) : List PageId :=
      match (pageRepository.list .background ⟨[], some ann.id, number, some 2⟩ :
        Work Memory PageError _) m with
      | (.done ps, _) => ps.map (·.id)
      | _ => []
    0 < 2 ∧ list none = [⟨.ofNat 3⟩, ⟨.ofNat 8⟩] ∧ list (some 2) = [⟨.ofNat 9⟩] ∧
      list (some 3) = [] ∧
      ∃ all : List Page, all.map (·.id) = [⟨.ofNat 3⟩, ⟨.ofNat 8⟩, ⟨.ofNat 9⟩] ∧
        ∀ p, p ∈ all ↔ m.pages.find? p.id = some p ∧ p.creator.id = ann.id := by
  intro ann bob page m list
  obtain ⟨all, part, hall, hmem, -⟩ := list_resultPages []
    [page 9 ann, page 3 bob, page 7 bob, page 5 ann]
    [.save (page 3 ann), .delete ⟨.ofNat 5⟩, .save (page 8 ann), .delete ⟨.ofNat 6⟩]
    .background [] (some ann.id) (by decide : 0 < 2)
  refine ⟨by decide, by decide +kernel, by decide +kernel, by decide +kernel, all, ?_, ?_⟩
  · cases (hall none).1
    decide +kernel
  · intro p
    refine (hmem p).trans ⟨fun h => ⟨h.1, h.2.2 _ rfl⟩, fun h => ⟨h.1, .inl rfl, ?_⟩⟩
    rintro _ ⟨rfl⟩
    exact h.2

end Memory

/-! ## Pages of the user of the request -/

namespace Memory

variable {m m' : Memory}

/-- Two memories in which the same pages of a user are found list the same pages of that user. -/
theorem filter_owner_eq (h : m.Filed) (h' : m'.Filed) {owner : UserId}
    (hown : ∀ p : Page, p.creator.id = owner →
      (m.pages.find? p.id = some p ↔ m'.pages.find? p.id = some p)) :
    m.pages.values.filter (·.creator.id == owner) =
      m'.pages.values.filter (·.creator.id == owner) := by
  let before (p q : Page) : Prop := p.id.uuid < q.id.uuid
  have : Std.Irrefl before := ⟨fun p => Nat.lt_irrefl p.id.uuid.value⟩
  have : Std.Antisymm before := ⟨fun p q hpq hqp => absurd hpq (Nat.lt_asymm hqp)⟩
  refine List.Pairwise.eq_of_mem_iff (r := before) (h.pairwise_values.filter _)
    (h'.pairwise_values.filter _) fun p => ?_
  rw [List.mem_filter, List.mem_filter, h.mem_values_iff, h'.mem_values_iff]
  refine and_congr_left fun howner => hown p ?_
  exact beq_iff_eq.mp howner

end Memory

namespace PageService

/-- The creator that the service sets filters before anything else does. -/
theorem select_owner (q : PageQuery) (owner : UserId) (ps : List Page) :
    { q with createdBy := some owner }.select ps =
      { q with createdBy := none }.select (ps.filter (·.creator.id == owner)) := by
  have hfilter : ps.filter { q with createdBy := some owner }.isMatch =
      (ps.filter (·.creator.id == owner)).filter { q with createdBy := none }.isMatch := by
    rw [List.filter_filter]
    refine List.filter_congr fun p _ => ?_
    simp [PageQuery.isMatch]
  rw [PageQuery.select, PageQuery.select, hfilter]
  rfl

/-- What a user sees of the pages in memory, whatever was saved and deleted before: if the same
    pages of that user are stored in two memories, then both are listed alike, in any context of the
    user and for any query, and it does not matter which creator the query asks for. All pages that
    are listed are the user's own. -/
theorem list_ownPages {u : User} {ctx ctx' : Context} (hctx : ctx.user? = some u)
    (hctx' : ctx'.user? = some u) (users users' : List User) (pages pages' : List Page)
    (writes writes' : List Write) (run run' : UnitRunner Memory) (query : PageQuery) :
    let m := (Memory.ofStored users pages).written writes
    let m' := (Memory.ofStored users' pages').written writes'
    (∀ p : Page, p.creator.id = u.id →
      (m.pages.find? p.id = some p ↔ m'.pages.find? p.id = some p)) →
    ∃ listed : List Page,
      (∀ creator, PageService.list ⟨Memory.pageRepository, run⟩ ctx
        { query with createdBy := creator } m = (.done listed, m)) ∧
      (∀ creator, PageService.list ⟨Memory.pageRepository, run'⟩ ctx'
        { query with createdBy := creator } m' = (.done listed, m')) ∧
      ∀ p ∈ listed, p.creator.id = u.id ∧ m.pages.find? p.id = some p := by
  intro m m' hown
  have hfiled : m.Filed := (Memory.filed_ofStored users pages).written writes
  have hfiled' : m'.Filed := (Memory.filed_ofStored users' pages').written writes'
  -- The service replaces the creator that was asked for by the user of the context.
  have hlist {ctx : Context} (hctx : ctx.user? = some u) (run : UnitRunner Memory) (m : Memory)
      (creator : Option UserId) : PageService.list ⟨Memory.pageRepository, run⟩ ctx
        { query with createdBy := creator } m =
      (.done ({ query with createdBy := none }.select
        (m.pages.values.filter (·.creator.id == u.id))), m) := by
    rw [← select_owner]
    simp only [PageService.list, currentUser, hctx]
    rfl
  refine ⟨_, hlist hctx run m, fun creator => ?_, fun p hp => ?_⟩
  · -- Both memories have the same pages of this user, and in the same order.
    rw [hlist hctx' run' m' creator, Memory.filter_owner_eq hfiled hfiled' hown]
  · obtain ⟨hstored, howner⟩ := List.mem_filter.mp (PageQuery.select_subset _ _ hp)
    exact ⟨beq_iff_eq.mp howner, hfiled.mem_values_iff.mp hstored⟩

/-- The second of two pages of a user, with pages of another one before and between them in one
    memory, and none in the other. The query asks for the other one's pages. -/
theorem list_ownPages_second :
    let ann : User := .new ⟨.ofNat 1⟩ "ann"
    let bob : User := .new ⟨.ofNat 2⟩ "bob"
    let page (n : Nat) (u : User) : Page := ⟨⟨.ofNat n⟩, "Title", u, "code", [], []⟩
    let ctx := Context.background.withUser ann
    let m := (Memory.ofStored [] [page 3 bob, page 5 ann]).written
      [.save (page 8 bob), .save (page 9 ann)]
    let m' := (Memory.ofStored [] [page 9 ann]).written [.save (page 5 ann)]
    let second : PageQuery := { createdBy := some bob.id, page := some 2, pageSize := some 1 }
    ctx.user? = some ann ∧
    (∀ p : Page, p.creator.id = ann.id →
      (m.pages.find? p.id = some p ↔ m'.pages.find? p.id = some p)) ∧
    PageService.list ⟨Memory.pageRepository, fun _ _ _ _ => Work.pend⟩ ctx second m =
      (.done [page 9 ann], m) ∧
    PageService.list ⟨Memory.pageRepository, fun _ _ _ _ => Work.pend⟩ ctx second m' =
      (.done [page 9 ann], m') := by
  intro ann bob page ctx m m' second
  have hctx : ctx.user? = some ann := rfl
  have hentries : m.pages.entries = [page 3 bob, page 5 ann, page 8 bob, page 9 ann].map
      fun p => (p.id, p) := by decide +kernel
  have hentries' : m'.pages.entries = [page 5 ann, page 9 ann].map fun p => (p.id, p) := by
    decide +kernel
  -- The pages of `bob` are the only difference between the two memories.
  have hown : ∀ p : Page, p.creator.id = ann.id →
      (m.pages.find? p.id = some p ↔ m'.pages.find? p.id = some p) := by
    intro p hp
    have hnot (n : Nat) : p ≠ page n bob := by
      rintro rfl
      exact absurd hp (by decide : bob.id ≠ ann.id)
    rw [Table.find?_eq_some_iff, Table.find?_eq_some_iff, hentries, hentries']
    simp [hnot]
  obtain ⟨listed, hlist, hlist', -⟩ := list_ownPages hctx hctx [] [] [page 3 bob, page 5 ann]
    [page 9 ann] [.save (page 8 bob), .save (page 9 ann)] [.save (page 5 ann)]
    (fun _ _ _ _ => Work.pend) (fun _ _ _ _ => Work.pend) second hown
  -- On the second page there is one page, whichever creator is asked for.
  have hlisted : listed = [page 9 ann] := by
    cases hlist (some bob.id)
    decide +kernel
  subst hlisted
  exact ⟨hctx, hown, hlist (some bob.id), hlist' (some bob.id)⟩

end PageService

end SharedPages
