import SharedPages.Proofs.LinkEdits
import SharedPages.Proofs.LinkOrder
import SharedPages.Work

/-!
# Changes of a page in place

A request is answered with a page or with an error, and the page that is asked
stays as it is. Whoever holds a page for good changes it in place instead, one
step after the other, and then a request that is refused half-way could leave the
steps before. `Page.carryOut` is that: the same checks and changes, each of them a
step on the page. It comes to what the request is answered with, and it leaves the
page alone whenever it fails (`Page.carryOut_eq`).

What a request changes, if it is granted, is told field by field and link by link
(`Page.Changes`). Nothing is assumed of the page: addresses may come twice,
priorities may be any, and the creator may be among the guests.

## Key results

- `Links.stablySorts_sortByPriority`: sorting keeps the order of links of one priority
- `Links.editInPlace_eq`, `Links.removeInPlace_eq`: links that are changed in place
- `Page.carryOut_eq`: a page that is changed in place
- `Page.carryOut_changes`: what a request takes, and what it changes
-/

namespace SharedPages

/-! ## Sorting links -/

namespace Links

variable {ls new sorted : Links}

/-- The links are in the order of their priorities, and those of one priority in the order that
    they had before. -/
structure StablySorts (ls sorted : Links) : Prop where
  perm : sorted.Perm ls
  ordered : sorted.Pairwise (·.priority.value ≤ ·.priority.value)
  stable : ∀ priority, sorted.filter (·.priority = priority) = ls.filter (·.priority = priority)

theorem ordered_insertByPriority (l : Link)
    (h : ls.Pairwise (·.priority.value ≤ ·.priority.value)) :
    (insertByPriority l ls).Pairwise (·.priority.value ≤ ·.priority.value) := by
  induction ls with
  | nil => exact List.pairwise_singleton _ _
  | cons m rest ih =>
    obtain ⟨hm, hrest⟩ := List.pairwise_cons.mp h
    rw [insertByPriority]
    split
    · rename_i hlt
      -- The link comes first, and what follows has no lower priority than the old first one.
      refine .cons (fun x hx => ?_) h
      obtain rfl | hx := List.mem_cons.mp hx
      · omega
      · have := hm x hx
        omega
    · rename_i hge
      -- The link goes further down, so the old first one still has the least priority.
      refine .cons (fun x hx => ?_) (ih hrest)
      obtain rfl | hx := List.mem_cons.mp ((insertByPriority_perm l rest).subset hx)
      · omega
      · exact hm x hx

/-- Among ordered links, a link is put behind all others of its priority. -/
theorem filter_insertByPriority (l : Link)
    (h : ls.Pairwise (·.priority.value ≤ ·.priority.value)) (priority : Priority) :
    (insertByPriority l ls).filter (·.priority = priority) =
      (ls ++ [l]).filter (·.priority = priority) := by
  induction ls with
  | nil => rfl
  | cons m rest ih =>
    obtain ⟨hm, hrest⟩ := List.pairwise_cons.mp h
    rw [insertByPriority]
    split
    · rename_i hlt
      by_cases hl : l.priority = priority
      · -- the links from here on are all of a greater priority
        have hnone : (m :: rest).filter (·.priority = priority) = [] := by
          refine List.filter_eq_nil_iff.mpr fun x hx => ?_
          have hle : m.priority.value ≤ x.priority.value := by
            obtain rfl | hx := List.mem_cons.mp hx
            · exact Int.le_refl _
            · exact hm x hx
          rw [decide_eq_true_iff]
          rintro rfl
          rw [hl] at hlt
          omega
        rw [List.filter_append, hnone, List.filter_cons_of_pos (by simpa using hl), hnone]
        simp [hl]
      · -- A link of another priority is filtered out wherever it stands.
        rw [List.filter_append, List.filter_cons_of_neg (by simpa using hl)]
        simp [hl]
    · rw [List.cons_append, List.filter_cons, List.filter_cons, ih hrest]

theorem stablySorts_sortByPriority (ls : Links) : ls.StablySorts (sortByPriority ls) := by
  -- Links are inserted into those that came before, which are in order.
  suffices hacc : ∀ acc : Links, acc.Pairwise (·.priority.value ≤ ·.priority.value) →
      let sorted := ls.foldl (fun sorted l => insertByPriority l sorted) acc
      sorted.Pairwise (·.priority.value ≤ ·.priority.value) ∧
        ∀ priority, sorted.filter (·.priority = priority) =
          (acc ++ ls).filter (·.priority = priority) from
    ⟨sortByPriority_perm ls, (hacc [] .nil).1, (hacc [] .nil).2⟩
  induction ls with
  | nil =>
    intro acc hacc
    exact ⟨hacc, fun _ => by rw [List.append_nil]; rfl⟩
  | cons l ls ih =>
    intro acc hacc
    obtain ⟨hordered, hstable⟩ := ih (insertByPriority l acc) (ordered_insertByPriority l hacc)
    refine ⟨hordered, fun priority => (hstable priority).trans ?_⟩
    rw [List.filter_append, filter_insertByPriority l hacc, ← List.filter_append, List.append_assoc]
    rfl

/-! ## Numbering links -/

/-- The links are the same as before, in the same order, but for their priorities, which are the
    numbers from one. -/
structure Renumbers (ls numbered : Links) : Prop where
  contents : numbered.map (fun l => (l.url, l.memo)) = ls.map fun l => (l.url, l.memo)
  priorities : numbered.map (·.priority.value) = (List.range' 1 ls.length).map Int.ofNat

theorem contents_numberFrom (first : Nat) (ls : Links) :
    (numberFrom first ls).map (fun l => (l.url, l.memo)) = ls.map fun l => (l.url, l.memo) := by
  induction ls generalizing first with
  | nil => rfl
  | cons l ls ih => rw [numberFrom, List.map_cons, List.map_cons, ih]

theorem renumbers_renumber (hfew : ls.length < 0x80000000) : ls.Renumbers (renumber ls) := by
  refine ⟨contents_numberFrom 1 ls, ?_⟩
  have hlength : (renumber ls).length = ls.length := length_numberFrom 1 ls
  rw [(numberedTo_renumber ls).values (by omega), numbers, hlength, Nat.sub_self, List.range'_zero,
    List.append_nil]

end Links

/-! ## Changes in place -/

namespace Work

variable {σ ε : Type}

/-- Looks at the state and goes on, or fails. -/
def check (test : σ → Except ε Unit) : Work σ ε Unit := fun s => (.ofExcept (test s), s)

/-- Changes the state as a whole, or fails and leaves it as it was. -/
def atomically (change : σ → Except ε σ) : Work σ ε Unit := fun s =>
  match change s with
  | .ok s' => (.done (), s')
  | .error e => (.failed e, s)

theorem modify_eq_atomically (f : σ → σ) :
    (modify f : Work σ ε Unit) = atomically fun s => .ok (f s) := rfl

/-- What is checked first leaves nothing behind when it fails. -/
theorem check_bind_atomically (test : σ → Except ε Unit) (change : σ → Except ε σ) :
    (do check test; atomically change) = atomically fun s => (do test s; change s) := by
  funext s
  have hcheck : check test s = (.ofExcept (test s), s) := rfl
  cases htest : test s with
  | error e =>
    rw [htest] at hcheck
    rw [bind_of_failed hcheck]
    simp only [atomically, htest]
    rfl
  | ok =>
    rw [htest] at hcheck
    rw [bind_of_done hcheck]
    simp only [atomically, htest]
    rfl

/-- What cannot fail may come last. -/
theorem atomically_bind_modify (change : σ → Except ε σ) (f : σ → σ) :
    (do atomically change; modify f) = atomically fun s => (change s).map f := by
  funext s
  cases hchange : change s with
  | error e =>
    have hfailed : atomically change s = (.failed e, s) := by simp only [atomically, hchange]
    rw [bind_of_failed hfailed]
    simp only [atomically, hchange]
    rfl
  | ok s' =>
    have hdone : atomically change s = (.done (), s') := by simp only [atomically, hchange]
    rw [bind_of_done hdone]
    simp only [atomically, hchange]
    rfl

end Work

namespace Links

variable {ls : Links} {url : String}

/-- Finds the first link with that address. -/
def locate (url : String) : Work Links PageError Nat := fun ls =>
  (.ofExcept ((ls.findIdx? (·.url == url)).elim (.error (.linkNotFound url)) .ok), ls)

/-- Removes the first link with that address in place. -/
def removeInPlace (url : String) : Work Links PageError Unit := do
  let index ← locate url
  Work.modify (·.eraseIdx index)
  Work.modify renumber

/-- Replaces the links in place. The new ones are sorted before they are looked up. -/
def editInPlace (new : Links) : Work Links PageError Unit := do
  Work.check fun ls => if new.length ≠ ls.length then .error .invalidLinksLength else .ok ()
  let sorted := sortByPriority new
  for l in sorted do
    let _ ← locate l.url
  Work.modify fun _ => sorted
  Work.modify renumber

theorem locate_of_has (h : ls.has url = true) :
    ∃ i, ls.eraseP (·.url == url) = ls.eraseIdx i ∧ locate url ls = (.done i, ls) := by
  have herase : ls.eraseP (·.url == url) = _ := List.eraseP_eq_eraseIdx
  cases hfind : ls.findIdx? (·.url == url) with
  | none =>
    rw [List.findIdx?_eq_none_iff] at hfind
    obtain ⟨l, hl, hurl⟩ := List.any_eq_true.mp h
    rw [hfind l hl] at hurl
    cases hurl
  | some i =>
    rw [hfind] at herase
    exact ⟨i, herase, by rw [locate, hfind]; rfl⟩

theorem locate_of_not_has (h : ls.has url = false) :
    locate url ls = (.failed (.linkNotFound url), ls) := by
  have hfind : ls.findIdx? (·.url == url) = none :=
    List.findIdx?_eq_none_iff.mpr fun l hl => by simpa using List.any_eq_false.mp h l hl
  rw [locate, hfind]
  rfl

theorem removeInPlace_eq (url : String) : removeInPlace url = .atomically (·.remove url) := by
  funext ls
  cases hhas : ls.has url with
  | false =>
    rw [removeInPlace, Work.bind_of_failed (locate_of_not_has hhas)]
    simp [Work.atomically, remove, hhas]
  | true =>
    obtain ⟨i, herase, hlocate⟩ := locate_of_has hhas
    rw [removeInPlace, Work.bind_of_done hlocate]
    simp only [Work.atomically, remove, hhas, if_true, herase]
    rfl

/-- Looking up links stops at the first one that is unknown. -/
theorem locateAll_eq (ls : Links) (found : Links) :
    (forIn found PUnit.unit fun l _ => do
      let _ ← locate l.url
      pure (ForInStep.yield PUnit.unit) : Work Links PageError PUnit) ls =
      match found.find? (!ls.has ·.url) with
      | some l => (.failed (.linkNotFound l.url), ls)
      | none => (.done PUnit.unit, ls) := by
  induction found with
  | nil => rfl
  | cons l found ih =>
    rw [List.forIn_cons, List.find?_cons]
    cases hhas : ls.has l.url with
    | false =>
      rw [bind_assoc, Work.bind_of_failed (locate_of_not_has hhas)]
      rfl
    | true =>
      obtain ⟨i, -, hlocate⟩ := locate_of_has hhas
      rw [bind_assoc, Work.bind_of_done hlocate]
      exact ih

theorem editInPlace_eq (new : Links) : editInPlace new = .atomically (·.edit new) := by
  -- What follows the check of the length fails before it writes, so it is atomic by itself.
  have hrest : (do
      for l in sortByPriority new do
        let _ ← locate l.url
      Work.modify fun _ => sortByPriority new
      Work.modify renumber : Work Links PageError Unit) = .atomically fun ls =>
        match (sortByPriority new).find? (!ls.has ·.url) with
        | some l => .error (.linkNotFound l.url)
        | none => .ok (renumber (sortByPriority new)) := by
    funext ls
    have hlocate := locateAll_eq ls (sortByPriority new)
    cases hfind : (sortByPriority new).find? (!ls.has ·.url) with
    | some l =>
      rw [hfind] at hlocate
      rw [Work.bind_of_failed hlocate]
      simp only [Work.atomically, hfind]
    | none =>
      rw [hfind] at hlocate
      rw [Work.bind_of_done hlocate]
      simp only [Work.atomically, hfind]
      rfl
  simp only [editInPlace]
  rw [hrest, Work.check_bind_atomically]
  congr 1
  funext ls
  -- Together the two checks are those of `edit`.
  by_cases hlength : new.length ≠ ls.length
  · simp only [if_pos hlength, edit]
    rfl
  · simp only [if_neg hlength, edit]
    rfl

end Links

namespace Page

instance : Holds Links Page := ⟨Page.links, fun links p => { p with links }⟩

/-- Does in place what a user asks of the page. -/
def carryOut (call : Call) : Work Page PageError Unit :=
  match call.request with
  | .edit title new => do
    Work.check (·.authorize call.user)
    Work.check fun _ => checkTitle title
    (Links.editInPlace new).on
    Work.modify fun p => { p with title }
  | .addLink url memo => do
    Work.check (·.authorize call.user)
    Work.modify fun p => { p with links := p.links.add url memo }
  | .removeLink url => do
    Work.check (·.authorize call.user)
    (Links.removeInPlace url).on
  | .join code => do
    Work.check fun p => if code ≠ p.inviteCode then .error .invalidInviteCode else .ok ()
    Work.check fun p => if p.creator.id = call.user.id then .error .creatorCannotJoin else .ok ()
    Work.check fun p => if p.isInvited call.user then .error .alreadyJoined else .ok ()
    Work.modify fun p => { p with invited := p.invited ++ [call.user] }

variable {p q : Page} {u : User} {request : Request}

/-- Links that change as a whole change the page as a whole. -/
theorem on_atomically (change : Links → Except PageError Links) :
    (Work.atomically change).on =
      Work.atomically fun p : Page => (change p.links).map fun links => { p with links } := by
  funext p
  have hget : (Holds.get p : Links) = p.links := rfl
  simp only [Work.on, Work.atomically, hget]
  cases change p.links <;> rfl

/-- A page that is changed in place becomes what is answered, and stays as it was if that is an
    error. -/
theorem carryOut_eq (call : Call) : carryOut call = .atomically (·.answer call) := by
  obtain ⟨u, request⟩ := call
  cases request with
  | edit title new =>
    -- Two checks come first, and the edit of the links, which may fail too, goes before the title.
    simp only [carryOut]
    rw [Links.editInPlace_eq, on_atomically, Work.atomically_bind_modify,
      Work.check_bind_atomically, Work.check_bind_atomically]
    congr 1
    funext p
    simp only [answer, edit]
    cases p.authorize u with
    | error e => rfl
    | ok =>
      cases checkTitle title with
      | error e => rfl
      | ok => cases p.links.edit new <;> rfl
  | addLink url memo =>
    simp only [carryOut]
    rw [Work.modify_eq_atomically, Work.check_bind_atomically]
    rfl
  | removeLink url =>
    simp only [carryOut]
    rw [Links.removeInPlace_eq, on_atomically, Work.check_bind_atomically]
    rfl
  | join code =>
    -- Three checks, and only then is anything written.
    simp only [carryOut]
    rw [Work.modify_eq_atomically, Work.check_bind_atomically, Work.check_bind_atomically,
      Work.check_bind_atomically]
    congr 1
    funext p
    simp only [answer, join]
    split
    · rfl
    · split
      · rfl
      · split <;> rfl

/-! ## What a request changes -/

/-- What it takes for a page to grant a request. -/
def Admits (p : Page) (u : User) : Request → Prop
  | .edit title new => p.isAuthorized u = true ∧ checkTitle title = .ok () ∧
      new.length = p.links.length ∧ new.urls ⊆ p.links.urls
  | .addLink _ _ => p.isAuthorized u = true
  | .removeLink url => p.isAuthorized u = true ∧ url ∈ p.links.urls
  | .join code => code = p.inviteCode ∧ p.isAuthorized u = false

/-- What a page becomes when it grants a request. Fields that are not named stay as they are. -/
inductive Changes (p : Page) (u : User) : Request → Page → Prop where
  | edit {title : String} {new sorted links : Links} (sorts : new.StablySorts sorted)
      (renumbers : sorted.Renumbers links) :
    Changes p u (.edit title new) { p with title, links }
  | addLink {url memo : String} {priority : Priority} (counts : priority.value = p.links.length) :
    Changes p u (.addLink url memo) { p with links := p.links ++ [⟨url, memo, priority⟩] }
  | removeLink {l : Link} {before after links : Links} (split : p.links = before ++ l :: after)
      (first : ∀ other ∈ before, other.url ≠ l.url)
      (renumbers : (before ++ after).Renumbers links) :
    Changes p u (.removeLink l.url) { p with links }
  | join (code : String) : Changes p u (.join code) { p with invited := p.invited ++ [u] }

theorem admits_iff : p.Admits u request ↔ ∃ q, p.Granted u request q := by
  cases request with
  | edit title new =>
    constructor
    · rintro ⟨may, fits, hlength, hknown⟩
      exact ⟨_, .edit may fits (Links.edit_eq_ok_iff.mpr ⟨hlength, hknown, rfl⟩)⟩
    · rintro ⟨_, may, fits, reordered⟩
      obtain ⟨hlength, hknown, -⟩ := Links.edit_eq_ok_iff.mp reordered
      exact ⟨may, fits, hlength, hknown⟩
  | addLink url memo =>
    constructor
    · exact fun may => ⟨_, .addLink url memo may⟩
    · rintro ⟨_, _ | ⟨_, _, may⟩⟩
      exact may
  | removeLink url =>
    -- A removal is granted just if the page has the link.
    rw [Admits, ← Links.has_iff]
    constructor
    · rintro ⟨may, hhas⟩
      exact ⟨_, .removeLink may (if_pos hhas)⟩
    · rintro ⟨_, _ | _ | ⟨may, removed⟩⟩
      refine ⟨may, ?_⟩
      by_contra hnot
      rw [Links.remove, if_neg hnot] at removed
      cases removed
  | join code =>
    constructor
    · rintro ⟨rfl, stranger⟩
      exact ⟨_, .join stranger⟩
    · rintro ⟨_, _ | _ | _ | stranger⟩
      exact ⟨rfl, stranger⟩

theorem Granted.changes (h : p.Granted u request q) (hfew : p.links.length < 0x80000000) :
    p.Changes u request q := by
  cases h with
  | @edit title new links _ _ reordered =>
    obtain ⟨hlength, -, rfl⟩ := Links.edit_eq_ok_iff.mp reordered
    have hsorts := Links.stablySorts_sortByPriority new
    refine .edit hsorts (Links.renumbers_renumber ?_)
    rw [hsorts.perm.length_eq, hlength]
    exact hfew
  | addLink url memo _ =>
    refine .addLink ?_
    simp only [Priority.ofNat]
    omega
  | @removeLink url rest _ removed =>
    simp only [Links.remove] at removed
    split at removed
    · rename_i hhas
      cases removed
      obtain ⟨l, hl, hurl⟩ := List.any_eq_true.mp hhas
      -- the link that is erased is the first one with the address
      obtain ⟨first, before, after, hbefore, hfirst, hsplit, herase⟩ :=
        List.exists_of_eraseP (p := (·.url == url)) hl hurl
      obtain rfl : first.url = url := by simpa using hfirst
      rw [herase]
      refine .removeLink hsplit (fun other hother => by simpa using hbefore other hother)
        (Links.renumbers_renumber ?_)
      rw [hsplit, List.length_append, List.length_cons] at hfew
      rw [List.length_append]
      omega
    · cases removed
  | join _ => exact .join _

/-- A request to a page, whatever it is like, with fewer than 2 ^ 31 links: either something is
    missing for it, and then it fails and the page is as it was; or it succeeds and changes what it
    is about and nothing else. An edit leaves the given links, stably sorted by their priorities and
    numbered from one; a link is added last; the first link with an address is removed, and the
    others are numbered; a user who joins is the last guest. -/
theorem carryOut_changes (hfew : p.links.length < 0x80000000) (call : Call) :
    (¬ p.Admits call.user call.request ∧
      ∃ e, p.answer call = .error e ∧ carryOut call p = (.failed e, p)) ∨
    (p.Admits call.user call.request ∧
      ∃ q, p.answer call = .ok q ∧ carryOut call p = (.done (), q) ∧
        p.Changes call.user call.request q) := by
  rw [admits_iff, carryOut_eq, Work.atomically]
  cases hanswer : p.answer call with
  | error e =>
    refine .inl ⟨?_, e, rfl, rfl⟩
    rintro ⟨q, hgranted⟩
    rw [answer_eq_ok_iff.mpr hgranted] at hanswer
    cases hanswer
  | ok q =>
    have hgranted := answer_eq_ok_iff.mp hanswer
    exact .inr ⟨⟨q, hgranted⟩, q, rfl, rfl, hgranted.changes hfew⟩

/-- A page whose creator is among its guests, with an address that comes twice and priorities that
    are equal and negative: an edit that sorts its links, and one that fails at the last of them. -/
theorem carryOut_changes_repeated :
    let ann : User := .new ⟨.ofNat 1⟩ "ann"
    let link (url memo : String) (n : Int) (h : -9 ≤ n ∧ n ≤ 9) : Link :=
      ⟨url, memo, n, by omega, by omega⟩
    let page : Page := ⟨⟨.ofNat 7⟩, "Title", ann, "code",
      [link "a" "x" (-3) (by decide), link "b" "" 0 (by decide), link "a" "y" (-3) (by decide)],
      [ann]⟩
    let edited : Links := [link "a" "late" 5 (by decide), link "b" "" (-2) (by decide),
      link "a" "early" (-2) (by decide)]
    let unknown : Links := [link "a" "" 0 (by decide), link "b" "" 0 (by decide),
      link "c" "" 9 (by decide)]
    page.links.length < 0x80000000 ∧
    (∃ q, carryOut ⟨ann, .edit "Ours" edited⟩ page = (.done (), q) ∧
      page.Changes ann (.edit "Ours" edited) q ∧
      q.links = [⟨"b", "", .ofNat 1⟩, ⟨"a", "early", .ofNat 2⟩, ⟨"a", "late", .ofNat 3⟩]) ∧
    carryOut ⟨ann, .edit "Ours" unknown⟩ page = (.failed (.linkNotFound "c"), page) := by
  intro ann link page edited unknown
  have hfew : page.links.length < 0x80000000 := by decide
  refine ⟨hfew, ?_, ?_⟩
  · -- The edit is answered with a page, which rules out that it was refused.
    obtain ⟨-, e, hanswer, -⟩ | ⟨-, q, hanswer, hdone, hchanges⟩ :=
      carryOut_changes hfew ⟨ann, .edit "Ours" edited⟩
    · exact nomatch hanswer
    · refine ⟨q, hdone, hchanges, ?_⟩
      cases hanswer
      decide +kernel
  · -- This one names an unknown link.
    obtain ⟨-, e, hanswer, hfailed⟩ | ⟨-, q, hanswer, -⟩ :=
      carryOut_changes hfew ⟨ann, .edit "Ours" unknown⟩
    · rw [hfailed]
      cases hanswer
      rfl
    · exact nomatch hanswer

end Page

end SharedPages
