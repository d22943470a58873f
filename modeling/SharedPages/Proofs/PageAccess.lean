import Mathlib.Data.List.Induction
import Mathlib.Data.List.Nodup
import SharedPages.Page

/-!
# Who may change a page

A page that was just made belongs to its creator. Then users call what changes a
page, in any order and with any arguments. A call that is refused leaves the page
as it was; a call that is granted has met the conditions in `Page.Granted`, and
everything below is read off them.

Users are told apart by their identifiers alone, so what is said about a user
here holds of every user with that identifier.

## Key results

- `Page.answer_eq_ok_iff`: when a call is granted, and the page that it leaves
- `Page.Granted.sound`, `Page.sound_run`: what every page keeps, call by call and over a run
- `Page.isAuthorized_run`: those who are authorized are the creator and those who joined
- `Page.run_access`: the rules of access over every run
-/

namespace SharedPages

namespace Page

/-! ## Calls -/

/-- What a user asks of a page, with the arguments. -/
inductive Request where
  | edit (title : String) (links : Links)
  | addLink (url memo : String)
  | removeLink (url : String)
  | join (code : String)
deriving DecidableEq

/-- A request, and who makes it. -/
structure Call where
  user : User
  request : Request
deriving DecidableEq

/-- What comes of a call: an error, or the page that it leaves. -/
def answer (p : Page) (call : Call) : Except PageError Page :=
  match call.request with
  | .edit title links => p.edit call.user title links
  | .addLink url memo => p.addLink call.user url memo
  | .removeLink url => p.removeLink call.user url
  | .join code => p.join call.user code

/-- The page after a call. -/
def after (p : Page) (call : Call) : Page :=
  match p.answer call with
  | .ok q => q
  | .error _ => p

/-- The page after some calls. -/
def run (p : Page) (calls : List Call) : Page := calls.foldl after p

/-- A user with that identifier has joined the page in the course of some calls. -/
def HasJoined (p : Page) (calls : List Call) (id : UserId) : Prop :=
  ∃ before u code later q, calls = before ++ ⟨u, .join code⟩ :: later ∧ u.id = id ∧
    (p.run before).join u code = .ok q

/-- What a page keeps, whatever is asked of it. -/
structure Sound (p : Page) : Prop where
  title : checkTitle p.title = .ok ()
  guests : (p.invited.map (·.id)).Nodup
  creator : p.creator.id ∉ p.invited.map (·.id)

variable {p q : Page} {u v : User} {call : Call} {calls : List Call}

/-! ## Single checks -/

theorem checkTitle_eq_ok_iff {title : String} :
    checkTitle title = .ok () ↔ 1 ≤ title.toList.length ∧ title.toList.length ≤ 50 := by
  have hmax : maxTitleLength = 50 := rfl
  simp only [checkTitle]
  by_cases hempty : title.toList.length = 0
  · rw [if_pos hempty]
    exact ⟨(nomatch ·), fun _ => by omega⟩
  · rw [if_neg hempty]
    by_cases hlong : maxTitleLength < title.toList.length
    · rw [if_pos hlong]
      exact ⟨(nomatch ·), fun _ => by omega⟩
    · rw [if_neg hlong]
      exact ⟨fun _ => by omega, fun _ => rfl⟩

theorem authorize_eq_ok_iff : p.authorize u = .ok () ↔ p.isAuthorized u = true := by
  simp [authorize]

theorem isInvited_iff : p.isInvited u = true ↔ u.id ∈ p.invited.map (·.id) := by
  simp [isInvited]

theorem isAuthorized_iff :
    p.isAuthorized u = true ↔ u.id = p.creator.id ∨ u.id ∈ p.invited.map (·.id) := by
  rw [isAuthorized, Bool.or_eq_true, isInvited_iff, beq_iff_eq, or_comm, eq_comm]

theorem new_eq_ok {id : PageId} {code title : String} {creator : User}
    (h : new id code title creator = .ok p) :
    checkTitle title = .ok () ∧ p = ⟨id, title, creator, code, [], []⟩ := by
  unfold new at h
  cases hc : checkTitle title with
  | error e => rw [hc] at h; cases h
  | ok _ => rw [hc] at h; cases h; exact ⟨rfl, rfl⟩

/-- A new page has a fitting title and no guests. -/
theorem sound_new {id : PageId} {code title : String} {creator : User}
    (h : new id code title creator = .ok p) : p.Sound := by
  obtain ⟨htitle, rfl⟩ := new_eq_ok h
  exact ⟨htitle, List.nodup_nil, List.not_mem_nil⟩

/-! ## Granted requests -/

/-- A page grants a request to a user, which leaves another page. -/
inductive Granted (p : Page) (u : User) : Request → Page → Prop where
  | edit {title : String} {links sorted : Links} (may : p.isAuthorized u = true)
      (fits : checkTitle title = .ok ()) (reordered : p.links.edit links = .ok sorted) :
      Granted p u (.edit title links) { p with title, links := sorted }
  | addLink (url memo : String) (may : p.isAuthorized u = true) :
      Granted p u (.addLink url memo) { p with links := p.links.add url memo }
  | removeLink {url : String} {rest : Links} (may : p.isAuthorized u = true)
      (removed : p.links.remove url = .ok rest) :
      Granted p u (.removeLink url) { p with links := rest }
  | join (stranger : p.isAuthorized u = false) :
      Granted p u (.join p.inviteCode) { p with invited := p.invited ++ [u] }

/-- What needs authorization goes on exactly for those who are authorized. -/
private theorem authorize_bind_eq_ok {α : Type} {k : Except PageError α} {a : α} :
    (do p.authorize u; k) = .ok a ↔ p.isAuthorized u = true ∧ k = .ok a := by
  unfold authorize
  cases p.isAuthorized u with
  | true => exact ⟨fun h => ⟨rfl, h⟩, And.right⟩
  | false => exact ⟨(nomatch ·), (nomatch ·.1)⟩

theorem edit_eq_ok_iff {title : String} {links : Links} :
    p.edit u title links = .ok q ↔ p.Granted u (.edit title links) q := by
  rw [edit, authorize_bind_eq_ok]
  constructor
  · rintro ⟨may, h⟩
    -- The checks come one after the other, and an error of either would be the answer.
    cases fits : checkTitle title with
    | error e => rw [fits] at h; cases h
    | ok _ =>
      cases reordered : p.links.edit links with
      | error e => rw [fits, reordered] at h; cases h
      | ok sorted =>
        rw [fits, reordered] at h
        cases h
        exact .edit may fits reordered
  · rintro (⟨may, fits, reordered⟩)
    rw [fits, reordered]
    exact ⟨may, rfl⟩

theorem addLink_eq_ok_iff {url memo : String} :
    p.addLink u url memo = .ok q ↔ p.Granted u (.addLink url memo) q := by
  rw [addLink, authorize_bind_eq_ok]
  constructor
  · rintro ⟨may, h⟩
    cases h
    exact .addLink url memo may
  · rintro (_ | ⟨_, _, may⟩)
    exact ⟨may, rfl⟩

theorem removeLink_eq_ok_iff {url : String} :
    p.removeLink u url = .ok q ↔ p.Granted u (.removeLink url) q := by
  rw [removeLink, authorize_bind_eq_ok]
  constructor
  · rintro ⟨may, h⟩
    cases removed : p.links.remove url with
    | error e => rw [removed] at h; cases h
    | ok rest =>
      rw [removed] at h
      cases h
      exact .removeLink may removed
  · rintro (_ | _ | ⟨may, removed⟩)
    rw [removed]
    exact ⟨may, rfl⟩

/-- Both checks of `join` beside the code say that the user is not authorized yet. -/
theorem join_eq_ok_iff {code : String} :
    p.join u code = .ok q ↔ p.Granted u (.join code) q := by
  constructor
  · intro h
    -- Joining makes its own checks, which together say that the user was not yet authorized.
    unfold join at h
    split at h
    · cases h
    · rename_i hcode
      split at h
      · cases h
      · rename_i hcreator
        split at h
        · cases h
        · rename_i hinvited
          cases h
          obtain rfl : code = p.inviteCode := not_not.mp hcode
          exact .join (by simp [isAuthorized, hcreator, hinvited])
  · rintro (_ | _ | _ | stranger)
    simp only [isAuthorized, Bool.or_eq_false_iff, beq_eq_false_iff_ne] at stranger
    simp [join, stranger]

/-- The inversion of every call, which the rest of the module splits on. -/
theorem answer_eq_ok_iff : p.answer call = .ok q ↔ p.Granted call.user call.request q := by
  obtain ⟨u, request⟩ := call
  cases request with
  | edit title links => exact edit_eq_ok_iff
  | addLink url memo => exact addLink_eq_ok_iff
  | removeLink url => exact removeLink_eq_ok_iff
  | join code => exact join_eq_ok_iff

/-! ## What one call does -/

theorem answer_of_join {code : String} (h : call.request = .join code) :
    p.answer call = p.join call.user code := by
  rw [answer, h]

theorem after_of_ok (h : p.answer call = .ok q) : p.after call = q := by
  rw [after, h]

theorem after_of_error {e : PageError} (h : p.answer call = .error e) : p.after call = p := by
  rw [after, h]

/-- A call is refused and leaves the page, or it is granted. -/
theorem after_cases (p : Page) (call : Call) :
    (∃ e, p.answer call = .error e ∧ p.after call = p) ∨
      p.Granted call.user call.request (p.after call) := by
  cases h : p.answer call with
  | error e => exact .inl ⟨e, rfl, after_of_error h⟩
  | ok q =>
    rw [after_of_ok h]
    exact .inr (answer_eq_ok_iff.mp h)

namespace Granted

variable {request : Request}

/-- What a page is known by stays. -/
theorem identity (h : p.Granted u request q) :
    q.id = p.id ∧ q.creator = p.creator ∧ q.inviteCode = p.inviteCode := by
  cases h <;> exact ⟨rfl, rfl, rfl⟩

theorem sound (h : p.Granted u request q) (hp : p.Sound) : q.Sound := by
  cases h with
  | edit _ fits _ => exact ⟨fits, hp.guests, hp.creator⟩
  | addLink _ _ _ => exact ⟨hp.title, hp.guests, hp.creator⟩
  | removeLink _ _ => exact ⟨hp.title, hp.guests, hp.creator⟩
  | join stranger =>
    -- whoever is let in is neither the creator nor among the guests
    have hnot := mt isAuthorized_iff.mpr (Bool.eq_false_iff.mp stranger)
    rw [not_or] at hnot
    refine ⟨hp.title, ?_, ?_⟩
    · simp only [List.map_append, List.map_cons, List.map_nil]
      exact List.Nodup.append hp.guests (List.nodup_singleton _)
        (List.disjoint_singleton.mpr hnot.2)
    · simp only [List.map_append, List.map_cons, List.map_nil, List.mem_append,
        List.mem_singleton]
      exact not_or.mpr ⟨hp.creator, Ne.symm hnot.1⟩

/-- Nobody is shut out, and only the user who joins is let in. -/
theorem isAuthorized_iff (h : p.Granted u request q) :
    q.isAuthorized v = true ↔
      p.isAuthorized v = true ∨ u.id = v.id ∧ ∃ code, request = .join code := by
  cases h with
  | edit _ _ _ => simp [Page.isAuthorized_iff]
  | addLink _ _ _ => simp [Page.isAuthorized_iff]
  | removeLink _ _ => simp [Page.isAuthorized_iff]
  | join _ =>
    have hself : v.id = u.id ↔ u.id = v.id := eq_comm
    simp [Page.isAuthorized_iff, hself, or_assoc]

/-- Who is not authorized is granted nothing but to join, with the invite code. -/
theorem of_stranger (h : p.Granted u request q) (hu : p.isAuthorized u = false) :
    request = .join p.inviteCode ∧ q = { p with invited := p.invited ++ [u] } := by
  cases h with
  | edit may _ _ => rw [may] at hu; cases hu
  | addLink _ _ may => rw [may] at hu; cases hu
  | removeLink may _ => rw [may] at hu; cases hu
  | join _ => exact ⟨rfl, rfl⟩

end Granted

/-! ## Runs -/

theorem run_append (p : Page) (calls more : List Call) :
    p.run (calls ++ more) = (p.run calls).run more := List.foldl_append

theorem run_snoc (p : Page) (calls : List Call) (call : Call) :
    p.run (calls ++ [call]) = (p.run calls).after call := run_append p calls [call]

/-- What holds of a page and of what each granted request leaves holds after every run. -/
theorem run_induction {motive : Page → Prop} (hp : motive p)
    (step : ∀ {p q : Page} {call : Call}, motive p → p.Granted call.user call.request q → motive q)
    (calls : List Call) : motive (p.run calls) := by
  induction calls using List.reverseRecOn with
  | nil => exact hp
  | append_singleton calls call ih =>
    rw [run_snoc]
    obtain ⟨_, _, hsame⟩ | hgranted := (p.run calls).after_cases call
    · rwa [hsame]
    · exact step ih hgranted

theorem sound_run (h : p.Sound) (calls : List Call) : (p.run calls).Sound :=
  run_induction h (fun hp hgranted => hgranted.sound hp) calls

theorem run_identity (p : Page) (calls : List Call) :
    (p.run calls).id = p.id ∧ (p.run calls).creator = p.creator ∧
      (p.run calls).inviteCode = p.inviteCode := by
  refine run_induction (motive := fun q => q.id = p.id ∧ q.creator = p.creator ∧
    q.inviteCode = p.inviteCode) ⟨rfl, rfl, rfl⟩ ?_ calls
  rintro q q' call ⟨hid, hcreator, hcode⟩ hgranted
  obtain ⟨hid', hcreator', hcode'⟩ := hgranted.identity
  exact ⟨hid'.trans hid, hcreator'.trans hcreator, hcode'.trans hcode⟩

/-- Nobody loses access to a page. -/
theorem isAuthorized_run_of (h : p.isAuthorized u = true) (calls : List Call) :
    (p.run calls).isAuthorized u = true :=
  run_induction (motive := fun q => q.isAuthorized u = true) h
    (fun hp hgranted => hgranted.isAuthorized_iff.mpr (.inl hp)) calls

theorem not_hasJoined_nil {id : UserId} : ¬ p.HasJoined [] id := by
  rintro ⟨before, u, code, later, q, hcalls, -, -⟩
  exact absurd hcalls (by simp)

theorem hasJoined_snoc {id : UserId} :
    p.HasJoined (calls ++ [call]) id ↔ p.HasJoined calls id ∨
      call.user.id = id ∧ ∃ code q, call.request = .join code ∧
        (p.run calls).join call.user code = .ok q := by
  constructor
  · rintro ⟨before, u, code, later, q, hcalls, hid, hjoin⟩
    -- the join was the last call, or the last call came later
    induction later using List.reverseRecOn with
    | nil =>
      obtain ⟨rfl, hlast⟩ := List.append_inj' hcalls rfl
      cases hlast
      exact .inr ⟨hid, code, q, rfl, hjoin⟩
    | append_singleton later last _ =>
      rw [← List.cons_append, ← List.append_assoc] at hcalls
      obtain ⟨rfl, -⟩ := List.append_inj' hcalls rfl
      exact .inl ⟨before, u, code, later, q, rfl, hid, hjoin⟩
  · rintro (⟨before, u, code, later, q, rfl, hid, hjoin⟩ | ⟨hid, code, q, hrequest, hjoin⟩)
    · exact ⟨before, u, code, later ++ [call], q, by simp, hid, hjoin⟩
    · obtain ⟨u, request⟩ := call
      cases hrequest
      exact ⟨calls, u, code, [], q, rfl, hid, hjoin⟩

/-- Those who are authorized in the end were authorized in the beginning or have joined since. -/
theorem isAuthorized_run (p : Page) (calls : List Call) (u : User) :
    (p.run calls).isAuthorized u = true ↔
      p.isAuthorized u = true ∨ p.HasJoined calls u.id := by
  induction calls using List.reverseRecOn with
  | nil => exact ⟨.inl, fun h => h.resolve_right not_hasJoined_nil⟩
  | append_singleton calls call ih =>
    rw [run_snoc, hasJoined_snoc, ← or_assoc, ← ih]
    cases hanswer : (p.run calls).answer call with
    | error e =>
      -- a call that was refused is no join that succeeded
      rw [after_of_error hanswer]
      refine ⟨.inl, fun h => h.resolve_right ?_⟩
      rintro ⟨-, code, q, hrequest, hjoin⟩
      rw [answer_of_join hrequest, hjoin] at hanswer
      cases hanswer
    | ok q =>
      rw [after_of_ok hanswer, (answer_eq_ok_iff.mp hanswer).isAuthorized_iff]
      refine or_congr_right (and_congr_right fun _ => exists_congr fun code => ?_)
      constructor
      · intro hrequest
        rw [answer_of_join hrequest] at hanswer
        exact ⟨q, hrequest, hanswer⟩
      · rintro ⟨_, hrequest, -⟩
        exact hrequest

/-! ## Access -/

/-- The rules of access to a page, over every run of calls by any users: it keeps its identity, a
    title of 1 to 50 characters, and guests who are pairwise different and not the creator; it is
    open to its creator and to those who joined, for good; only its invite code lets a user in; and
    who is not authorized changes nothing otherwise. -/
theorem run_access {id : PageId} {code title : String} {creator : User}
    (hnew : new id code title creator = .ok p) (calls : List Call) :
    ((p.run calls).id = id ∧ (p.run calls).creator = creator ∧ (p.run calls).inviteCode = code) ∧
      (1 ≤ (p.run calls).title.toList.length ∧ (p.run calls).title.toList.length ≤ 50) ∧
      ((p.run calls).invited.map (·.id)).Nodup ∧
      creator.id ∉ (p.run calls).invited.map (·.id) ∧
      (∀ u, (p.run calls).authorize u = .ok () ↔ u.id = creator.id ∨ p.HasJoined calls u.id) ∧
      (∀ u more, (p.run calls).authorize u = .ok () →
        (p.run (calls ++ more)).authorize u = .ok ()) ∧
      (∀ u given q, (p.run calls).join u given = .ok q → given = code) ∧
      ∀ call : Call, (p.run calls).authorize call.user ≠ .ok () →
        (call.request = .join code ∧ (p.run calls).answer call =
            .ok { p.run calls with invited := (p.run calls).invited ++ [call.user] }) ∨
          (∃ e, (p.run calls).answer call = .error e) ∧
            p.run (calls ++ [call]) = p.run calls := by
  obtain ⟨hid, hcreator, hcode⟩ := run_identity p calls
  obtain ⟨-, hp⟩ := new_eq_ok hnew
  -- In the beginning the page is that of its creator, who has invited nobody.
  have howner : p.creator = creator := by rw [hp]
  have hguests : p.invited = [] := by rw [hp]
  replace hcode : (p.run calls).inviteCode = code := by rw [hcode, hp]
  -- Title and guests are kept in order by every step, so they are in order after all of them.
  have hsound := sound_run (sound_new hnew) calls
  refine ⟨⟨by rw [hid, hp], hcreator.trans howner, hcode⟩, checkTitle_eq_ok_iff.mp hsound.title,
    hsound.guests, ?_, ?_, ?_, ?_, ?_⟩
  · -- The creator is never among the guests.
    rw [← howner, ← hcreator]
    exact hsound.creator
  · -- Authorized are the creator and those who joined in the course of the calls.
    intro u
    rw [authorize_eq_ok_iff, isAuthorized_run, isAuthorized_iff, howner, hguests]
    simp
  · -- Nobody loses access by later calls.
    intro u more hu
    rw [authorize_eq_ok_iff] at hu ⊢
    rw [run_append]
    exact isAuthorized_run_of hu more
  · -- Joining takes the code that the page was created with.
    intro u given q hjoin
    cases join_eq_ok_iff.mp hjoin
    exact hcode
  · -- Of the calls that are granted only a join can come from someone without access.
    intro call hcall
    rw [ne_eq, authorize_eq_ok_iff, Bool.not_eq_true] at hcall
    rw [run_snoc]
    cases hanswer : (p.run calls).answer call with
    | error e => exact .inr ⟨⟨e, rfl⟩, after_of_error hanswer⟩
    | ok q =>
      obtain ⟨hrequest, rfl⟩ := (answer_eq_ok_iff.mp hanswer).of_stranger hcall
      exact .inl ⟨hrequest.trans (by rw [hcode]), rfl⟩

/-- A stranger's edit and a wrong code are refused; then the stranger joins, and may edit. -/
theorem run_access_guest :
    let ann : User := .new ⟨.ofNat 1⟩ "ann"
    let bob : User := .new ⟨.ofNat 2⟩ "bob"
    let page : Page := ⟨⟨.ofNat 7⟩, "Title", ann, "code", [], []⟩
    let calls : List Call := [⟨bob, .edit "Mine" []⟩, ⟨bob, .join "cod"⟩, ⟨bob, .join "code"⟩,
      ⟨bob, .edit "Ours" []⟩]
    new ⟨.ofNat 7⟩ "code" "Title" ann = .ok page ∧
      page.run calls = { page with title := "Ours", invited := [bob] } ∧
      page.HasJoined calls bob.id ∧ (page.run calls).authorize bob = .ok () := by
  intro ann bob page calls
  have hnew : new ⟨.ofNat 7⟩ "code" "Title" ann = .ok page := rfl
  have hjoined : page.HasJoined calls bob.id :=
    ⟨calls.take 2, bob, "code", calls.drop 3, { page with invited := [bob] }, rfl, rfl, rfl⟩
  obtain ⟨-, -, -, -, hauthorized, -⟩ := run_access hnew calls
  exact ⟨hnew, rfl, hjoined, (hauthorized bob).mpr (.inr hjoined)⟩

end Page

end SharedPages
