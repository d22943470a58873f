import SharedPages.Proofs.PageAccess

/-!
# The order of links

A page keeps its links in a list, and a stored page has nothing but their
priorities to tell their order. Priorities can repeat: a link that is added to
links that were numbered from one has the number of the last of them. But along
the list they never decrease (`Links.Ordered`), whatever is asked of a page that
started without links. They stop at the greatest priority when there are more
links than that.

Which priorities repeat depends on one number, how many links the last removal
or edit left (`Page.numbered`): those were numbered from one, and each link that
came later counts the links before it (`Links.NumberedTo`).

## Key results

- `Links.Ordered.add`, `Links.ordered_renumber`: what each change of links does to their order
- `Page.ordered_run`: the links of a page after any calls
- `Page.run_priorities`: the priorities of a page after any calls, one by one
-/

namespace SharedPages

/-! ## Single changes -/

/-- Priorities never decrease along the links, and none is above the number of links. -/
structure Links.Ordered (ls : Links) : Prop where
  sorted : ls.Pairwise (·.priority.value ≤ ·.priority.value)
  bounded : ∀ l ∈ ls, l.priority.value ≤ (Priority.ofNat ls.length).value

theorem Priority.ofNat_le_ofNat {m n : Nat} (h : m ≤ n) : (ofNat m).value ≤ (ofNat n).value := by
  simp only [ofNat]
  omega

namespace Links

variable {ls : Links}

@[simp] theorem length_numberFrom (first : Nat) (ls : Links) :
    (numberFrom first ls).length = ls.length := by
  induction ls generalizing first with
  | nil => rfl
  | cons l ls ih => rw [numberFrom, List.length_cons, List.length_cons, ih]

/-- Numbered links have the numbers from the first one on. -/
theorem priority_of_mem_numberFrom {first : Nat} {l : Link} (h : l ∈ numberFrom first ls) :
    ∃ n, first ≤ n ∧ n < first + ls.length ∧ l.priority = .ofNat n := by
  induction ls generalizing first with
  | nil => cases h
  | cons l' ls ih =>
    rw [List.length_cons]
    obtain rfl | hmem := List.mem_cons.mp h
    · exact ⟨first, Nat.le_refl _, by omega, rfl⟩
    · obtain ⟨n, hfirst, hlast, hn⟩ := ih hmem
      exact ⟨n, by omega, by omega, hn⟩

theorem sorted_numberFrom (first : Nat) (ls : Links) :
    (numberFrom first ls).Pairwise (·.priority.value ≤ ·.priority.value) := by
  induction ls generalizing first with
  | nil => exact .nil
  | cons l ls ih =>
    refine .cons (fun l' hl' => ?_) (ih (first + 1))
    obtain ⟨n, hfirst, -, hn⟩ := priority_of_mem_numberFrom hl'
    rw [hn]
    exact Priority.ofNat_le_ofNat (by omega)

theorem ordered_nil : Ordered [] := ⟨.nil, fun _ h => nomatch h⟩

/-- Numbered links are in order, in whatever order they were before. -/
theorem ordered_renumber (ls : Links) : (renumber ls).Ordered := by
  refine ⟨sorted_numberFrom 1 ls, fun l hl => ?_⟩
  obtain ⟨n, -, hlast, hn⟩ := priority_of_mem_numberFrom hl
  rw [hn, renumber, length_numberFrom]
  exact Priority.ofNat_le_ofNat (by omega)

/-- A link that is put last has the greatest priority there may be. -/
theorem Ordered.add (h : ls.Ordered) (url memo : String) : (ls.add url memo).Ordered := by
  have hlength : (ls.add url memo).length = ls.length + 1 := List.length_append
  constructor
  · refine List.pairwise_append.mpr ⟨h.sorted, List.pairwise_singleton _ _, fun l hl l' hl' => ?_⟩
    rw [List.mem_singleton.mp hl']
    exact h.bounded l hl
  · intro l hl
    rw [hlength]
    have hle := Priority.ofNat_le_ofNat (Nat.le_succ ls.length)
    obtain hmem | hlast := List.mem_append.mp hl
    · exact Int.le_trans (h.bounded l hmem) hle
    · rw [List.mem_singleton.mp hlast]
      exact hle

theorem ordered_of_remove {url : String} {rest : Links} (h : ls.remove url = .ok rest) :
    rest.Ordered := by
  simp only [remove] at h
  split at h
  · cases h
    exact ordered_renumber _
  · cases h

theorem ordered_of_edit {new sorted : Links} (h : ls.edit new = .ok sorted) : sorted.Ordered := by
  simp only [edit] at h
  split at h
  · cases h
  · split at h
    · cases h
    · cases h
      exact ordered_renumber _

end Links

/-! ## Runs -/

namespace Page

variable {p q : Page} {u : User} {request : Request}

theorem Granted.ordered (h : p.Granted u request q) (hp : p.links.Ordered) : q.links.Ordered := by
  cases h with
  | edit _ _ reordered => exact Links.ordered_of_edit reordered
  | addLink url memo _ => exact hp.add url memo
  | removeLink _ removed => exact Links.ordered_of_remove removed
  | join _ => exact hp

/-- Links stay in order, whatever is asked of the page. -/
theorem ordered_run (hp : p.links.Ordered) (calls : List Call) : (p.run calls).links.Ordered :=
  run_induction (motive := fun p => p.links.Ordered) hp
    (fun hp hgranted => hgranted.ordered hp) calls

/-- A new page has no links. -/
theorem ordered_new {id : PageId} {code title : String} {creator : User}
    (h : new id code title creator = .ok p) : p.links.Ordered := by
  obtain ⟨-, rfl⟩ := new_eq_ok h
  exact Links.ordered_nil

end Page

/-! ## The priorities one by one -/

/-- The numbers of `n` links of which the first `k` were numbered together: those are numbered from
    one, and each of the others by how many links are before it. -/
def Links.numbers (k n : Nat) : List Nat := List.range' 1 k ++ List.range' k (n - k)

/-- The first `k` links were numbered together, and the others were added to them. -/
structure Links.NumberedTo (k : Nat) (ls : Links) : Prop where
  le_length : k ≤ ls.length
  priorities : ls.map (·.priority) = (numbers k ls.length).map .ofNat

namespace Links

variable {ls : Links} {k n : Nat}

/-- The numbers rise, but that of the last link numbered with others is that of the first one added
    to them. -/
theorem pairwise_numbers_iff (h : k ≤ n) : (numbers k n).Pairwise (· < ·) ↔ k = 0 ∨ k = n := by
  rw [numbers, List.pairwise_append]
  constructor
  · rintro ⟨-, -, hacross⟩
    by_contra hmixed
    exact Nat.lt_irrefl k (hacross k (List.mem_range'_1.mpr (by omega)) k
      (List.mem_range'_1.mpr (by omega)))
  · intro hone
    refine ⟨List.pairwise_lt_range', List.pairwise_lt_range', fun a ha b hb => ?_⟩
    rw [List.mem_range'_1] at ha hb
    omega

theorem lt_of_mem_numbers (h : k ≤ n) {i : Nat} (hi : i ∈ numbers k n) : i < n + 1 := by
  rw [numbers, List.mem_append, List.mem_range'_1, List.mem_range'_1] at hi
  omega

theorem priorities_numberFrom (first : Nat) (ls : Links) :
    (numberFrom first ls).map (·.priority) = (List.range' first ls.length).map .ofNat := by
  induction ls generalizing first with
  | nil => rfl
  | cons l ls ih => rw [numberFrom, List.map_cons, ih, List.length_cons, List.range'_succ]; rfl

theorem numberedTo_nil : NumberedTo 0 [] := ⟨Nat.le_refl _, rfl⟩

theorem numberedTo_renumber (ls : Links) : NumberedTo (renumber ls).length (renumber ls) := by
  refine ⟨Nat.le_refl _, ?_⟩
  rw [renumber, priorities_numberFrom, length_numberFrom, numbers, Nat.sub_self]
  simp

/-- A link that is put last counts all links before it. -/
theorem NumberedTo.add (h : ls.NumberedTo k) (url memo : String) :
    (ls.add url memo).NumberedTo k := by
  have hlength : (ls.add url memo).length = ls.length + 1 := List.length_append
  have hle := h.le_length
  refine ⟨by omega, ?_⟩
  have hnumbers : numbers k (ls.length + 1) = numbers k ls.length ++ [ls.length] := by
    have hrest : ls.length + 1 - k = ls.length - k + 1 := by omega
    have hlast : k + 1 * (ls.length - k) = ls.length := by omega
    rw [numbers, numbers, hrest, List.range'_concat, hlast, List.append_assoc]
  rw [hlength, hnumbers, List.map_append, ← h.priorities, Links.add, List.map_append]
  rfl

theorem numberedTo_of_remove {url : String} {rest : Links} (h : ls.remove url = .ok rest) :
    rest.NumberedTo rest.length := by
  simp only [remove] at h
  split at h
  · cases h
    exact numberedTo_renumber _
  · cases h

theorem numberedTo_of_edit {new sorted : Links} (h : ls.edit new = .ok sorted) :
    sorted.NumberedTo sorted.length := by
  simp only [edit] at h
  split at h
  · cases h
  · split at h
    · cases h
    · cases h
      exact numberedTo_renumber _

/-- Up to the greatest priority, priorities are the numbers themselves. -/
theorem NumberedTo.values (h : ls.NumberedTo k) (hfew : ls.length < 0x80000000) :
    ls.map (·.priority.value) = (numbers k ls.length).map Int.ofNat := by
  have hvalues := congrArg (List.map Priority.value) h.priorities
  rw [List.map_map, List.map_map] at hvalues
  refine hvalues.trans (List.map_congr_left fun i hi => ?_)
  have hi := lt_of_mem_numbers h.le_length hi
  simp only [Function.comp_apply, Priority.ofNat, Int.ofNat_eq_natCast]
  omega

/-- So links have priorities of their own, unless some were added to others that were numbered. -/
theorem NumberedTo.pairwise_iff (h : ls.NumberedTo k) (hfew : ls.length < 0x80000000) :
    ls.Pairwise (·.priority.value < ·.priority.value) ↔ k = 0 ∨ k = ls.length := by
  have hcast : (ls.map (·.priority.value)).Pairwise (· < ·) ↔
      (numbers k ls.length).Pairwise (· < ·) := by
    rw [h.values hfew, List.pairwise_map]
    simp only [Int.ofNat_eq_natCast, Int.ofNat_lt]
  rw [← pairwise_numbers_iff h.le_length, ← hcast, List.pairwise_map]

end Links

namespace Page

variable {p : Page}

/-- How many links a call left if it numbered them, or else `k`. -/
def numberedBy (p : Page) (k : Nat) (call : Call) : Nat :=
  match call.request, p.answer call with
  | .edit _ _, .ok q | .removeLink _, .ok q => q.links.length
  | _, _ => k

/-- How many links were left by the last call that removed a link or edited the page, or else
    `k`. -/
def numbered (p : Page) (k : Nat) : List Call → Nat
  | [] => k
  | call :: calls => (p.after call).numbered (p.numberedBy k call) calls

/-- Only what removes or edits links numbers them, and then it numbers all that are left. -/
theorem numberedTo_after {k : Nat} (h : p.links.NumberedTo k) (call : Call) :
    (p.after call).links.NumberedTo (p.numberedBy k call) := by
  cases hanswer : p.answer call with
  | error e =>
    -- A refused call changes neither the links nor the count.
    have hkept : p.numberedBy k call = k := by
      simp only [numberedBy, hanswer]
      split <;> simp_all
    rwa [after_of_error hanswer, hkept]
  | ok q =>
    rw [after_of_ok hanswer]
    obtain ⟨user, request⟩ := call
    have hgranted : p.Granted user request q := answer_eq_ok_iff.mp hanswer
    -- Of the granted ones, edits and removals number the links anew, and a new link is counted.
    cases hgranted with
    | edit _ _ reordered =>
      simp only [numberedBy, hanswer]
      exact Links.numberedTo_of_edit reordered
    | addLink url memo _ => exact h.add url memo
    | removeLink _ removed =>
      simp only [numberedBy, hanswer]
      exact Links.numberedTo_of_remove removed
    | join _ => exact h

theorem numberedTo_run {k : Nat} (h : p.links.NumberedTo k) (calls : List Call) :
    (p.run calls).links.NumberedTo (p.numbered k calls) := by
  induction calls generalizing p k with
  | nil => exact h
  | cons call calls ih => exact ih (numberedTo_after h call)

/-- The priorities of a page's links after any calls: those that the last removal or edit left have
    their numbers from one, and each link that was added since counts the links before it. So they
    never decrease. They strictly increase exactly if no link was added since to any that were
    left. -/
theorem run_priorities {id : PageId} {code title : String} {creator : User}
    (hnew : new id code title creator = .ok p) (calls : List Call)
    (hfew : (p.run calls).links.length < 0x80000000) :
    let links := (p.run calls).links
    let left := p.numbered 0 calls
    left ≤ links.length ∧
      links.map (·.priority.value) =
        (List.range' 1 left ++ List.range' left (links.length - left)).map Int.ofNat ∧
      links.Pairwise (·.priority.value ≤ ·.priority.value) ∧
      (links.Pairwise (·.priority.value < ·.priority.value) ↔
        left = 0 ∨ left = links.length) := by
  have hnumbered : (p.run calls).links.NumberedTo (p.numbered 0 calls) := by
    obtain ⟨-, rfl⟩ := new_eq_ok hnew
    exact numberedTo_run Links.numberedTo_nil calls
  exact ⟨hnumbered.le_length, hnumbered.values hfew, (ordered_run (ordered_new hnew) calls).sorted,
    hnumbered.pairwise_iff hfew⟩

/-- One of three links is removed, two more are added, and a stranger's removal is refused. -/
theorem run_priorities_mixed :
    let ann : User := .new ⟨.ofNat 1⟩ "ann"
    let bob : User := .new ⟨.ofNat 2⟩ "bob"
    let page : Page := ⟨⟨.ofNat 7⟩, "Title", ann, "code", [], []⟩
    let calls : List Call := [⟨ann, .addLink "a" ""⟩, ⟨ann, .addLink "b" ""⟩,
      ⟨ann, .addLink "c" ""⟩, ⟨ann, .removeLink "a"⟩, ⟨ann, .addLink "d" ""⟩,
      ⟨bob, .removeLink "b"⟩, ⟨ann, .addLink "e" ""⟩]
    new ⟨.ofNat 7⟩ "code" "Title" ann = .ok page ∧ (page.run calls).links.length = 4 ∧
      page.numbered 0 calls = 2 ∧
      (page.run calls).links.map (·.priority.value) = [1, 2, 2, 3] ∧
      ¬ (page.run calls).links.Pairwise (·.priority.value < ·.priority.value) := by
  intro ann bob page calls
  have hnew : new ⟨.ofNat 7⟩ "code" "Title" ann = .ok page := rfl
  have hlength : (page.run calls).links.length = 4 := by decide +kernel
  have hleft : page.numbered 0 calls = 2 := by decide +kernel
  obtain ⟨-, hvalues, -, hstrict⟩ := run_priorities hnew calls (by rw [hlength]; decide)
  rw [hleft, hlength] at hvalues hstrict
  exact ⟨hnew, hlength, hleft, hvalues, by rw [hstrict]; decide⟩

/-- All calls are granted, and still two links share a priority: a removal numbered the one from
    one, and the other counts the one before it. -/
theorem run_repeats_priority :
    let ann : User := .new ⟨.ofNat 1⟩ "ann"
    let page : Page := ⟨⟨.ofNat 7⟩, "Title", ann, "code", [], []⟩
    let calls : List Call := [⟨ann, .addLink "a" ""⟩, ⟨ann, .addLink "b" ""⟩,
      ⟨ann, .removeLink "a"⟩, ⟨ann, .addLink "c" ""⟩]
    new ⟨.ofNat 7⟩ "code" "Title" ann = .ok page ∧
      calls.foldlM answer page = .ok (page.run calls) ∧
      (page.run calls).links = [⟨"b", "", .ofNat 1⟩, ⟨"c", "", .ofNat 1⟩] ∧
      ¬ (page.run calls).links.Pairwise (·.priority.value < ·.priority.value) := by
  intro ann page calls
  have hlinks : (page.run calls).links = [⟨"b", "", .ofNat 1⟩, ⟨"c", "", .ofNat 1⟩] := by
    decide +kernel
  exact ⟨rfl, rfl, hlinks, by rw [hlinks]; decide⟩

end Page

end SharedPages
