import Mathlib.Data.List.Perm.Subperm
import SharedPages.Proofs.PageAccess

/-!
# Edits of links

An edit is given the links anew and puts them in the order of their priorities.
It refuses as soon as their number differs, or as soon as one of them has an
address that no link had before. What it does not look at is how often an address
comes (`Links.edit_eq_ok_iff`): where the new links have one address twice and
another one not at all, the edit goes through, and the link with the other address
is gone.

So an edit only reorders the links (`Links.Reorders`) exactly if the new links do
not have an address more often than the old ones, or are refused for another
reason.

## Key results

- `Links.edit_cases`: what comes of an edit of links
- `Links.reorders_edit_iff`: when an edit only reorders the links
- `Page.edit_reorders_iff`: the same for the edit of a page
-/

namespace SharedPages

namespace Links

/-- The addresses of links, in order. -/
def urls (ls : Links) : List String := ls.map (·.url)

/-- What an edit of links is to do with the new ones: it goes through exactly if they have the same
    addresses, each as often as before, and then no address is lost. Otherwise there are more or
    fewer of them, or one of their addresses is unknown. -/
structure Reorders (ls new : Links) (edited : Except PageError Links) : Prop where
  granted_iff : (∃ sorted, edited = .ok sorted) ↔ new.urls.Perm ls.urls
  kept : ∀ sorted, edited = .ok sorted → ∀ url, sorted.urls.count url = ls.urls.count url
  refused : ∀ e, edited = .error e → e = .invalidLinksLength ∨ ∃ url, e = .linkNotFound url

variable {ls new sorted : Links}

theorem length_urls (ls : Links) : ls.urls.length = ls.length := List.length_map _

theorem has_iff {url : String} : ls.has url = true ↔ url ∈ ls.urls := by
  simp [has, urls]

/-! ## Sorting -/

theorem insertByPriority_perm (l : Link) (ls : Links) : (insertByPriority l ls).Perm (l :: ls) := by
  induction ls with
  | nil => exact .refl _
  | cons m rest ih =>
    rw [insertByPriority]
    split
    · exact .refl _
    · exact (ih.cons m).trans (.swap l m rest)

theorem sortByPriority_perm (ls : Links) : (sortByPriority ls).Perm ls := by
  -- Links are inserted into those that came before, so the statement is about any of those.
  suffices hacc : ∀ acc : Links,
      (ls.foldl (fun sorted l => insertByPriority l sorted) acc).Perm (acc ++ ls) from hacc []
  induction ls with
  | nil => intro acc; rw [List.append_nil]; exact .refl _
  | cons l ls ih =>
    intro acc
    exact (ih (insertByPriority l acc)).trans
      (((insertByPriority_perm l acc).append_right ls).trans List.perm_middle.symm)

theorem urls_numberFrom (first : Nat) (ls : Links) : (numberFrom first ls).urls = ls.urls := by
  induction ls generalizing first with
  | nil => rfl
  | cons l ls ih => exact congrArg (l.url :: ·) (ih (first + 1))

/-- The addresses of the links that an edit leaves are those of the new ones. -/
theorem urls_edited (new : Links) : (renumber (sortByPriority new)).urls.Perm new.urls := by
  rw [renumber, urls_numberFrom]
  exact (sortByPriority_perm new).map _

/-! ## What comes of an edit -/

/-- An edit is refused for the number of links, or for an address that is unknown, or else it
    leaves the new links in order. -/
theorem edit_cases (ls new : Links) :
    (new.length ≠ ls.length ∧ ls.edit new = .error .invalidLinksLength) ∨
      (new.length = ls.length ∧ ∃ url ∈ new.urls, url ∉ ls.urls ∧
        ls.edit new = .error (.linkNotFound url)) ∨
      (new.length = ls.length ∧ new.urls ⊆ ls.urls ∧
        ls.edit new = .ok (renumber (sortByPriority new))) := by
  have hmem {l : Link} : l ∈ sortByPriority new ↔ l ∈ new := (sortByPriority_perm new).mem_iff
  by_cases hlength : new.length = ls.length
  · refine .inr ?_
    -- The search for an unknown address goes over the sorted links, but these are the same links.
    rw [edit, if_neg (not_not.mpr hlength)]
    dsimp only
    cases hfind : (sortByPriority new).find? (!ls.has ·.url) with
    | some l =>
      have hunknown : l.url ∉ ls.urls := by
        rw [← has_iff, Bool.not_eq_true]
        simpa using List.find?_some hfind
      have hnew := List.mem_map_of_mem (f := Link.url) (hmem.mp (List.mem_of_find?_eq_some hfind))
      exact .inl ⟨hlength, l.url, hnew, hunknown, rfl⟩
    | none =>
      refine .inr ⟨hlength, fun url hurl => ?_, rfl⟩
      obtain ⟨l, hl, rfl⟩ := List.mem_map.mp hurl
      have hknown := List.find?_eq_none.mp hfind l (hmem.mpr hl)
      simpa [has_iff] using hknown
  · exact .inl ⟨hlength, by rw [edit, if_pos hlength]⟩

/-- How often an address comes is of no importance. -/
theorem edit_eq_ok_iff :
    ls.edit new = .ok sorted ↔ new.length = ls.length ∧ new.urls ⊆ ls.urls ∧
      sorted = renumber (sortByPriority new) := by
  obtain ⟨hlength, hedit⟩ | ⟨-, url, hnew, hunknown, hedit⟩ | ⟨hlength, hknown, hedit⟩ :=
    edit_cases ls new
  · rw [hedit]
    exact ⟨(nomatch ·), fun h => absurd h.1 hlength⟩
  · rw [hedit]
    exact ⟨(nomatch ·), fun h => absurd (h.2.1 hnew) hunknown⟩
  · rw [hedit, Except.ok.injEq, eq_comm]
    exact ⟨fun h => ⟨hlength, hknown, h⟩, fun h => h.2.2⟩

theorem urls_of_edit (h : ls.edit new = .ok sorted) : sorted.urls.Perm new.urls := by
  obtain ⟨-, -, rfl⟩ := edit_eq_ok_iff.mp h
  exact urls_edited new

theorem refused_of_edit {e : PageError} (h : ls.edit new = .error e) :
    e = .invalidLinksLength ∨ ∃ url, e = .linkNotFound url := by
  obtain ⟨-, hedit⟩ | ⟨-, url, -, -, hedit⟩ | ⟨-, -, hedit⟩ := edit_cases ls new
  · exact .inl (by cases hedit.symm.trans h; rfl)
  · exact .inr ⟨url, by cases hedit.symm.trans h; rfl⟩
  · cases hedit.symm.trans h

/-- As many addresses as before, none of them more often, are the same addresses. -/
theorem urls_perm_of_count_le (hlength : new.length = ls.length)
    (hcount : ∀ url, new.urls.count url ≤ ls.urls.count url) : new.urls.Perm ls.urls := by
  have hsub : new.urls.Subperm ls.urls := List.subperm_ext_iff.mpr fun url _ => hcount url
  exact hsub.perm_of_length_le (by rw [length_urls, length_urls]; exact Nat.le_of_eq hlength.symm)

/-- An edit only reorders the links exactly if the new ones that it lets through have no address
    more often than the old ones. -/
theorem reorders_edit_iff (ls new : Links) :
    ls.Reorders new (ls.edit new) ↔
      (new.length = ls.length → new.urls ⊆ ls.urls →
        ∀ url, new.urls.count url ≤ ls.urls.count url) := by
  constructor
  · intro hreorders hlength hknown url
    have hgranted := hreorders.granted_iff.mp ⟨_, edit_eq_ok_iff.mpr ⟨hlength, hknown, rfl⟩⟩
    exact Nat.le_of_eq (hgranted.count_eq url)
  · intro hcount
    -- That links were let through says nothing of how often, which is where the bound comes in.
    have hperm {sorted : Links} (h : ls.edit new = .ok sorted) : new.urls.Perm ls.urls := by
      obtain ⟨hlength, hknown, -⟩ := edit_eq_ok_iff.mp h
      exact urls_perm_of_count_le hlength (hcount hlength hknown)
    refine ⟨⟨fun ⟨_, h⟩ => hperm h, fun h => ?_⟩, fun sorted h url => ?_,
      fun e h => refused_of_edit h⟩
    · have hlength : new.length = ls.length := by rw [← length_urls, ← length_urls, h.length_eq]
      exact ⟨_, edit_eq_ok_iff.mpr ⟨hlength, h.subset, rfl⟩⟩
    · exact ((urls_of_edit h).trans (hperm h)).count_eq url

end Links

/-! ## Pages -/

namespace Page

variable {p : Page} {u : User} {title : String} {new : Links}

/-- Where user and title pass, the links decide. -/
theorem edit_of_checks (may : p.authorize u = .ok ()) (fits : checkTitle title = .ok ()) :
    p.edit u title new = (p.links.edit new).map fun links => { p with title, links } := by
  rw [edit, may, fits]
  cases p.links.edit new <;> rfl

/-- The edit of a page, for a user and a title that pass, only reorders the links exactly if the new
    ones, as many as before and all of them with known addresses, have no address more often than
    the old ones. Whatever they are, the edit keeps the rest of the page, it leaves the addresses
    that the new links have, and a refusal leaves the page. -/
theorem edit_reorders_iff (may : p.authorize u = .ok ()) (fits : checkTitle title = .ok ())
    (new : Links) :
    let edited := p.edit u title new
    let within := new.length = p.links.length → new.urls ⊆ p.links.urls →
      ∀ url, new.urls.count url ≤ p.links.urls.count url
    (p.links.Reorders new (p.links.edit new) ↔ within) ∧
      (p.links.Reorders new (edited.map (·.links)) ↔ within) ∧
      ((∃ q, edited = .ok q) ↔ new.length = p.links.length ∧ new.urls ⊆ p.links.urls) ∧
      (∀ q, edited = .ok q → q = { p with title, links := q.links } ∧
        q.links.urls.Perm new.urls ∧ p.after ⟨u, .edit title new⟩ = q) ∧
      ∀ e, edited = .error e → p.after ⟨u, .edit title new⟩ = p := by
  intro edited within
  -- All that can go wrong with the page is what can go wrong with its links.
  have hlinks : edited.map (·.links) = p.links.edit new := by
    rw [show edited = _ from edit_of_checks may fits]
    cases p.links.edit new <;> rfl
  refine ⟨Links.reorders_edit_iff _ _, ?_, ⟨?_, ?_⟩, fun q hq => ?_, fun e he => after_of_error he⟩
  · rw [hlinks]
    exact Links.reorders_edit_iff _ _
  · rintro ⟨q, hq⟩
    rw [hq] at hlinks
    obtain ⟨hlength, hknown, -⟩ := Links.edit_eq_ok_iff.mp hlinks.symm
    exact ⟨hlength, hknown⟩
  · rintro ⟨hlength, hknown⟩
    have hedit := Links.edit_eq_ok_iff.mpr ⟨hlength, hknown, rfl⟩
    exact ⟨_, by rw [show edited = _ from edit_of_checks may fits, hedit]; rfl⟩
  · have hgranted : p.Granted u (.edit title new) q := edit_eq_ok_iff.mp hq
    refine ⟨by cases hgranted; rfl, ?_, after_of_ok hq⟩
    rw [hq] at hlinks
    exact Links.urls_of_edit hlinks.symm

/-- Two links change places. -/
theorem edit_reorders_swapped :
    let ann : User := .new ⟨.ofNat 1⟩ "ann"
    let page : Page := ⟨⟨.ofNat 7⟩, "Title", ann, "code",
      [⟨"a", "", .ofNat 0⟩, ⟨"b", "", .ofNat 1⟩], []⟩
    let new : Links := [⟨"a", "later", .ofNat 9⟩, ⟨"b", "first", .ofNat 1⟩]
    page.authorize ann = .ok () ∧ checkTitle "Ours" = .ok () ∧
      page.links.Reorders new ((page.edit ann "Ours" new).map (·.links)) ∧
      (page.after ⟨ann, .edit "Ours" new⟩).links =
        [⟨"b", "first", .ofNat 1⟩, ⟨"a", "later", .ofNat 2⟩] := by
  intro ann page new
  have may : page.authorize ann = .ok () := rfl
  have fits : checkTitle "Ours" = .ok () := rfl
  obtain ⟨-, hreorders, -⟩ := edit_reorders_iff may fits new
  refine ⟨may, fits, hreorders.mpr fun _ _ url => ?_, by decide +kernel⟩
  exact Nat.le_refl _

/-- Two links with one address are let through, and the other address is lost. -/
theorem edit_loses_link :
    let ann : User := .new ⟨.ofNat 1⟩ "ann"
    let page : Page := ⟨⟨.ofNat 7⟩, "Title", ann, "code",
      [⟨"a", "", .ofNat 0⟩, ⟨"b", "", .ofNat 1⟩], []⟩
    let new : Links := [⟨"a", "", .ofNat 0⟩, ⟨"a", "", .ofNat 1⟩]
    page.edit ann "Title" new =
        .ok { page with links := [⟨"a", "", .ofNat 1⟩, ⟨"a", "", .ofNat 2⟩] } ∧
      page.links.edit new = .ok [⟨"a", "", .ofNat 1⟩, ⟨"a", "", .ofNat 2⟩] ∧
      ¬ new.urls.Perm page.links.urls ∧
      ¬ page.links.Reorders new (page.links.edit new) ∧
      ¬ page.links.Reorders new ((page.edit ann "Title" new).map (·.links)) := by
  intro ann page new
  have hlinks : page.links.edit new = .ok [⟨"a", "", .ofNat 1⟩, ⟨"a", "", .ofNat 2⟩] := rfl
  have hpage : page.edit ann "Title" new =
      .ok { page with links := [⟨"a", "", .ofNat 1⟩, ⟨"a", "", .ofNat 2⟩] } := rfl
  -- The address b does not come at all among the new ones.
  have hnot : ¬ new.urls.Perm page.links.urls := fun h => absurd (h.count_eq "b") (by decide)
  exact ⟨hpage, hlinks, hnot, fun h => hnot (h.granted_iff.mp ⟨_, hlinks⟩),
    fun h => hnot (h.granted_iff.mp ⟨_, by rw [hpage]; rfl⟩)⟩

end Page

end SharedPages
