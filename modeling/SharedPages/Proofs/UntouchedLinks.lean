import SharedPages.Proofs.PageChanges

/-!
# Saving links as they are

An edit sorts the links that it is given, so it is not clear that a user who edits
a page and sends back the links just as they are on it finds them in the same
order. Priorities do not tell all of them apart, for a link that is added to
numbered links shares its priority with the last of them. But they never decrease
along the links of a page (`Page.ordered_run`), and sorting leaves links of one
priority in their order, so links that are in order stay where they are
(`Links.sortByPriority_of_ordered`). All that is left of such an edit is that the
links are numbered from one.

## Key results

- `Links.sortByPriority_of_ordered`: links in order are not moved
- `Links.edit_self`: an edit that gives the links back
- `Page.run_edit_untouched`: the same for the page after any calls
-/

namespace SharedPages

namespace Links

variable {ls acc : Links} {l : Link}

/-- A link that no other one is above goes last, behind those of its own priority. -/
theorem insertByPriority_of_le (h : ∀ m ∈ ls, m.priority.value ≤ l.priority.value) :
    insertByPriority l ls = ls ++ [l] := by
  induction ls with
  | nil => rfl
  | cons m rest ih =>
    have hm : ¬ l.priority.value < m.priority.value := Int.not_lt.mpr (h m List.mem_cons_self)
    rw [insertByPriority, if_neg hm, ih fun x hx => h x (List.mem_cons_of_mem m hx),
      List.cons_append]

/-- Inserting links in order, one after the other, puts each of them last. -/
theorem foldl_insertByPriority_of_ordered
    (h : (acc ++ ls).Pairwise (·.priority.value ≤ ·.priority.value)) :
    ls.foldl (fun sorted l => insertByPriority l sorted) acc = acc ++ ls := by
  induction ls generalizing acc with
  | nil => simp
  | cons l ls ih =>
    -- all links that were inserted before stand in front of this one
    have hle : ∀ m ∈ acc, m.priority.value ≤ l.priority.value := fun m hm =>
      (List.pairwise_append.mp h).2.2 m hm l List.mem_cons_self
    rw [List.append_cons] at h ⊢
    rw [List.foldl_cons, insertByPriority_of_le hle, ih h]

/-- Links in order stay where they are, also those that share a priority. -/
theorem sortByPriority_of_ordered (h : ls.Pairwise (·.priority.value ≤ ·.priority.value)) :
    sortByPriority ls = ls := by
  rw [← List.nil_append ls] at h
  exact foldl_insertByPriority_of_ordered h

/-- An edit that gives links in order back numbers them from one. -/
theorem edit_self (h : ls.Pairwise (·.priority.value ≤ ·.priority.value)) :
    ls.edit ls = .ok (renumber ls) := by
  refine edit_eq_ok_iff.mpr ⟨rfl, List.Subset.refl _, ?_⟩
  rw [sortByPriority_of_ordered h]

/-- Numbers are overwritten by others. -/
theorem numberFrom_numberFrom (first other : Nat) (ls : Links) :
    numberFrom first (numberFrom other ls) = numberFrom first ls := by
  induction ls generalizing first other with
  | nil => rfl
  | cons l ls ih => simp only [numberFrom, ih]

theorem renumber_renumber (ls : Links) : renumber (renumber ls) = renumber ls :=
  numberFrom_numberFrom 1 1 ls

end Links

namespace Page

variable {p : Page} {u : User} {title : String}

/-- An edit that gives links in order back changes the title and numbers the links. -/
theorem edit_self (h : p.links.Ordered) (may : p.authorize u = .ok ())
    (fits : checkTitle title = .ok ()) :
    p.edit u title p.links = .ok { p with title, links := p.links.renumber } := by
  rw [edit_of_checks may fits, Links.edit_self h.sorted]
  rfl

/-- A page after any calls, and an edit of it that gives the links back as they are, by an
    authorized user and with a title that fits: it succeeds, every address and note stays in its
    place, the priorities are the numbers from one, and nothing but these and the title changes. If
    this is done again, also by another authorized user, nothing changes any more. -/
theorem run_edit_untouched {id : PageId} {code first : String} {creator : User}
    (hnew : new id code first creator = .ok p) (calls : List Call)
    (hfew : (p.run calls).links.length < 0x80000000)
    (may : (p.run calls).authorize u = .ok ()) (fits : checkTitle title = .ok ()) :
    let page := p.run calls
    ∃ q, page.edit u title page.links = .ok q ∧
      q = { page with title, links := q.links } ∧
      q.links.map (fun l => (l.url, l.memo)) = page.links.map (fun l => (l.url, l.memo)) ∧
      q.links.map (·.priority.value) = (List.range' 1 page.links.length).map Int.ofNat ∧
      ∀ v, page.authorize v = .ok () → q.edit v title q.links = .ok q := by
  intro page
  have hordered : page.links.Ordered := ordered_run (ordered_new hnew) calls
  have hnumbers : page.links.Renumbers page.links.renumber := Links.renumbers_renumber hfew
  refine ⟨_, edit_self hordered may fits, rfl, hnumbers.contents, hnumbers.priorities,
    fun v mayToo => ?_⟩
  -- Numbered links are in order, whatever they were before, so the same goes for the second edit.
  have hagain := edit_self (p := { page with title, links := page.links.renumber }) (u := v)
    (Links.ordered_renumber page.links) mayToo fits
  rwa [Links.renumber_renumber] at hagain

/-- Two links share the priority one, for one of them was added to the other after that had been
    numbered. An edit that gives them back tells them apart. -/
theorem run_edit_untouched_equal :
    let ann : User := .new ⟨.ofNat 1⟩ "ann"
    let bob : User := .new ⟨.ofNat 2⟩ "bob"
    let page : Page := ⟨⟨.ofNat 7⟩, "Title", ann, "code", [], []⟩
    let calls : List Call := [⟨ann, .addLink "z" ""⟩, ⟨ann, .addLink "b" "second"⟩,
      ⟨bob, .join "code"⟩, ⟨bob, .removeLink "z"⟩, ⟨ann, .addLink "a" ""⟩]
    new ⟨.ofNat 7⟩ "code" "Title" ann = .ok page ∧
      (page.run calls).links = [⟨"b", "second", .ofNat 1⟩, ⟨"a", "", .ofNat 1⟩] ∧
      (page.run calls).authorize bob = .ok () ∧ checkTitle "Ours" = .ok () ∧
      ∃ q, (page.run calls).edit bob "Ours" (page.run calls).links = .ok q ∧
        q.links.map (fun l => (l.url, l.memo)) = [("b", "second"), ("a", "")] ∧
        q.links.map (·.priority.value) = [1, 2] ∧ q.edit ann "Ours" q.links = .ok q := by
  intro ann bob page calls
  have hnew : new ⟨.ofNat 7⟩ "code" "Title" ann = .ok page := rfl
  have hlinks : (page.run calls).links = [⟨"b", "second", .ofNat 1⟩, ⟨"a", "", .ofNat 1⟩] := by
    decide +kernel
  have may : (page.run calls).authorize bob = .ok () := rfl
  have fits : checkTitle "Ours" = .ok () := rfl
  obtain ⟨q, hedit, -, hcontents, hpriorities, hagain⟩ :=
    run_edit_untouched hnew calls (by rw [hlinks]; decide) may fits
  rw [hlinks] at hcontents hpriorities
  exact ⟨hnew, hlinks, may, fits, q, hedit, hcontents, hpriorities, hagain ann rfl⟩

end Page

end SharedPages
