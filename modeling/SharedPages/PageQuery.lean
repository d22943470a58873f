import SharedPages.Page

/-! # Queries for pages

A query filters pages by identifier and by creator, and may ask for one page of the result at a
time.  Result pages are numbered from one. -/

namespace SharedPages

/-- Which pages to list.  An absent filter lets every page through. -/
structure PageQuery where
  ids : List PageId := []
  createdBy : Option UserId := none
  /-- The number of the result page; ignored without a size. -/
  page : Option Nat := none
  /-- How many pages a result page holds; zero counts as absent. -/
  pageSize : Option Nat := none
deriving DecidableEq

namespace PageQuery

/-- How many results to skip and how many to take, if the query asks for one result page. -/
def window (q : PageQuery) : Option (Nat × Nat) :=
  match q.pageSize with
  | none | some 0 => none
  | some size => some ((max (q.page.getD 1) 1 - 1) * size, size)

/-- The page passes the filters. -/
def isMatch (q : PageQuery) (p : Page) : Bool :=
  (q.ids.isEmpty || q.ids.contains p.id) && q.createdBy.all (p.creator.id == ·)

/-- The results that the window shows. -/
def slice (q : PageQuery) (ps : List Page) : List Page :=
  match q.window with
  | some (offset, limit) => (ps.drop offset).take limit
  | none => ps

/-- What the query selects from pages in order. -/
def select (q : PageQuery) (ps : List Page) : List Page := q.slice (ps.filter q.isMatch)

/-- A query selects from the pages that it is given. -/
theorem select_subset (q : PageQuery) (ps : List Page) : q.select ps ⊆ ps := by
  intro p hp
  have hslice : q.slice (ps.filter q.isMatch) ⊆ ps.filter q.isMatch := by
    simp only [slice]
    split
    · exact List.Subset.trans (List.take_subset _ _) (List.drop_subset _ _)
    · exact List.Subset.refl _
  exact (List.mem_filter.mp (hslice hp)).1

end PageQuery

end SharedPages
