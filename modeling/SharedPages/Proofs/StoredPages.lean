import Mathlib.Data.List.Induction
import Mathlib.Data.List.Sort
import SharedPages.Repository.Memory

/-!
# Pages in memory

What is found in a table says what the table is, entry by entry. Pages are written
to the memory one at a time (`Write`), under their own identifiers. So that is
where they are found, whatever was written before (`Memory.Filed`), and the pages
are listed in the order of their identifiers.

## Key results

- `Table.ext_find?`: two tables in which the same is found are the same
- `Write.perform_perform`: of two writes to one page, the later one is what is left
- `Memory.Filed.pairwise_values`: pages that are stored under their identifiers are in order
- `Memory.values_ofStored`: which pages are stored to begin with
-/

namespace SharedPages

/-! ## Entries of a table -/

namespace Table

variable {kind : Kind} {α : Type} {t t' : Table kind α}

theorem find?_eq_some_iff {id : Id kind} {a : α} : t.find? id = some a ↔ (id, a) ∈ t.entries := by
  obtain ⟨es, hsorted⟩ := t
  simp only [find?]
  induction es with
  | nil => simp
  | cons e es ih =>
    obtain ⟨hfirst, hrest⟩ := List.pairwise_cons.mp hsorted
    by_cases he : e.1 = id
    · -- Nothing behind the first entry has its identifier.
      have hnot : (id, a) ∉ es := by
        intro hmem
        have := hfirst _ hmem
        simp [he, Uuid.lt_def] at this
      simp only [List.find?_cons, he, decide_true, List.mem_cons, hnot, or_false]
      rw [Option.map_some, Option.some.injEq, Prod.ext_iff]
      simp [he, eq_comm]
    · -- The first entry is another one, so the search goes on behind it.
      have hne : (id, a) ≠ e := fun h => he (h ▸ rfl)
      simpa [he, hne] using ih hrest

/-- Two tables in which the same is found are the same. -/
theorem ext_find? (h : ∀ id, t.find? id = t'.find? id) : t = t' := by
  let before (a b : Id kind × α) : Prop := a.1.uuid < b.1.uuid
  have : Std.Irrefl before := ⟨fun a => Nat.lt_irrefl a.1.uuid.value⟩
  have : Std.Antisymm before := ⟨fun a b hab hba => absurd hab (Nat.lt_asymm hba)⟩
  have hmem : ∀ e, e ∈ t.entries ↔ e ∈ t'.entries := by
    rintro ⟨id, a⟩
    rw [← find?_eq_some_iff, ← find?_eq_some_iff, h]
  have hentries : t.entries = t'.entries := List.Pairwise.eq_of_mem_iff t.sorted t'.sorted hmem
  cases t
  cases t'
  cases hentries
  rfl

end Table

/-! ## Writes -/

/-- How a call changes the pages in memory. -/
inductive Write where
  | save (p : Page)
  | delete (id : PageId)

namespace Write

/-- The page that is written. -/
def target : Write → PageId
  | save p => p.id
  | delete id => id

/-- Changes the memory. -/
def perform : Write → Memory → Memory
  | save p => Memory.savePage p
  | delete id => Memory.deletePage id

/-- What is stored after a write. -/
def page? : Write → Option Page
  | save p => some p
  | delete _ => none

/-- A page is written under its own identifier. -/
theorem id_of_page? {w : Write} {p : Page} (h : w.page? = some p) : p.id = w.target := by
  cases w with
  | save q => cases h; rfl
  | delete id => cases h

/-- A write changes one page, and nothing else. -/
theorem find?_perform (w : Write) (m : Memory) (id : PageId) :
    (w.perform m).pages.find? id = if w.target = id then w.page? else m.pages.find? id := by
  cases w with
  | save p => exact m.pages.find?_insert p.id id p
  | delete other => exact m.pages.find?_erase other id

/-- What holds of all stored pages and of what is written holds after the write. -/
theorem forall_perform {R : PageId → Page → Prop} {m : Memory} {w : Write}
    (h : ∀ id p, m.pages.find? id = some p → R id p)
    (hw : ∀ p, w.page? = some p → R w.target p) :
    ∀ id p, (w.perform m).pages.find? id = some p → R id p := by
  intro id p hp
  rw [find?_perform] at hp
  by_cases hid : w.target = id
  · rw [if_pos hid] at hp
    exact hid ▸ hw p hp
  · rw [if_neg hid] at hp
    exact h id p hp

theorem users_perform (w : Write) (m : Memory) : (w.perform m).users = m.users := by
  cases w <;> rfl

/-- Of two writes to one page, the later one is what is left. -/
theorem perform_perform {w w' : Write} (h : w.target = w'.target) (m : Memory) :
    w'.perform (w.perform m) = w'.perform m := by
  have husers : (w'.perform (w.perform m)).users = (w'.perform m).users := by
    simp only [users_perform]
  have hpages : (w'.perform (w.perform m)).pages = (w'.perform m).pages := by
    refine Table.ext_find? fun id => ?_
    simp only [find?_perform, h]
    split <;> rfl
  exact congrArg₂ Memory.mk husers hpages

end Write

/-! ## Stored pages -/

namespace Memory

variable {m : Memory}

/-- Pages that are stored one after the other are writes. -/
theorem ofStored_snoc (users : List User) (pages : List Page) (p : Page) :
    ofStored users (pages ++ [p]) = (Write.save p).perform (ofStored users pages) := by
  simp only [ofStored, Write.perform, savePage, List.foldl_append, List.foldl_cons, List.foldl_nil]

/-- What holds of all pages to begin with holds of those that are stored. -/
theorem forall_ofStored {R : PageId → Page → Prop} (users : List User) {pages : List Page}
    (h : ∀ p ∈ pages, R p.id p) :
    ∀ id p, (ofStored users pages).pages.find? id = some p → R id p := by
  induction pages using List.reverseRecOn with
  | nil => exact fun id p hp => nomatch hp
  | append_singleton pages p ih =>
    rw [ofStored_snoc]
    refine Write.forall_perform (ih fun q hq => h q (by simp [hq])) ?_
    rintro q ⟨rfl⟩
    exact h p (by simp)

/-- Every page is stored under its own identifier. -/
def Filed (m : Memory) : Prop := ∀ id p, m.pages.find? id = some p → p.id = id

theorem filed_ofStored (users : List User) (pages : List Page) : (ofStored users pages).Filed :=
  forall_ofStored users fun _ _ => rfl

theorem Filed.perform (h : m.Filed) (w : Write) : (w.perform m).Filed :=
  Write.forall_perform h fun _ => Write.id_of_page?

theorem Filed.key_eq (h : m.Filed) {e : PageId × Page} (he : e ∈ m.pages.entries) :
    e.1 = e.2.id :=
  (h e.1 e.2 (Table.find?_eq_some_iff.mpr he)).symm

/-- The pages that are listed are those that are found under their identifiers. -/
theorem Filed.mem_values_iff (h : m.Filed) {p : Page} :
    p ∈ m.pages.values ↔ m.pages.find? p.id = some p := by
  rw [Table.find?_eq_some_iff]
  constructor
  · intro hp
    obtain ⟨e, he, rfl⟩ := List.mem_map.mp hp
    rw [← h.key_eq he]
    exact he
  · exact fun hp => List.mem_map_of_mem (f := Prod.snd) hp

/-- Pages are listed in the order of their identifiers. -/
theorem Filed.pairwise_values (h : m.Filed) :
    m.pages.values.Pairwise (·.id.uuid < ·.id.uuid) := by
  rw [Table.values, List.pairwise_map]
  refine m.pages.sorted.imp_of_mem fun {a b} ha hb hlt => ?_
  rw [← h.key_eq ha, ← h.key_eq hb]
  exact hlt

/-- The memory after some writes, one after the other. -/
def written (m : Memory) (writes : List Write) : Memory := writes.foldl (fun m w => w.perform m) m

theorem Filed.written (h : m.Filed) (writes : List Write) : (m.written writes).Filed := by
  induction writes generalizing m with
  | nil => exact h
  | cons w writes ih => exact ih (h.perform w)

end Memory

end SharedPages
