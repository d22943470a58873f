import SharedPages.Proofs.PageChanges

/-!
# Logging in more than once

A user who tries to log in is changed in place (`User.logIn`): the checks come
first, so an attempt that is refused leaves the user alone (`User.logIn_eq`).

Whether a user has logged in is told by the provider alone. Nobody vouches for an
anonymous user, but `anonymous` is the name of a provider as well, and an attempt
that names it is granted: the user is anonymous afterwards, with the email of the
attempt, and can log in again, any number of times. An attempt that names another
provider is granted once at most, and from then on none is.

## Key results

- `User.logIn_eq`: an attempt changes the user as a whole, or not at all
- `User.tried_of_loggedIn`: who has logged in stays the same
- `User.logs_in_once`: all attempts of a new user
- `User.logs_in_twice`: two attempts that are both granted
-/

namespace SharedPages

/-- An attempt to log in. -/
structure LoginAttempt where
  provider : String
  email : Option String
deriving DecidableEq

/-- What an attempt gives, if it has an email and names a provider that there is. -/
def LoginAttempt.credentials? (a : LoginAttempt) : Option (Provider × String) := do
  let email ← a.email
  let provider ← Provider.ofName? a.provider
  return (provider, email)

namespace Provider

theorem anonymous_iff_of_ofName? {name : String} {p : Provider} (h : ofName? name = some p) :
    p = anonymous ↔ name = "anonymous" := by
  rw [← ofName?_eq_some_iff.mp h]
  cases p <;> decide

theorem ofName?_isSome_iff (name : String) :
    (ofName? name).isSome ↔ name ∈ ["anonymous", "google", "facebook"] := by
  rw [Option.isSome_iff_exists]
  simp only [ofName?_eq_some_iff]
  constructor
  · rintro ⟨p, rfl⟩
    cases p <;> decide
  · intro h
    simp only [List.mem_cons, List.not_mem_nil, or_false] at h
    rcases h with rfl | rfl | rfl
    · exact ⟨anonymous, rfl⟩
    · exact ⟨google, rfl⟩
    · exact ⟨facebook, rfl⟩

end Provider

/-- What an attempt has to come with. -/
theorem LoginAttempt.credentials?_isSome_iff (a : LoginAttempt) :
    a.credentials?.isSome ↔
      a.email.isSome ∧ a.provider ∈ ["anonymous", "google", "facebook"] := by
  rw [← Provider.ofName?_isSome_iff, credentials?]
  cases a.email with
  | none => simp
  | some email => cases Provider.ofName? a.provider <;> simp

namespace User

/-- Logs a user in, in place. -/
def logIn (a : LoginAttempt) : Work User UserError Unit := do
  let email ← Work.orFail .noSpecifiedEmail a.email
  let provider ← Work.ofExcept (readProvider a.provider)
  Work.check fun u =>
    if u.provider ≠ .anonymous then .error (.alreadyLoggedIn u.provider) else .ok ()
  Work.modify fun u => { u with provider }
  Work.modify fun u => { u with email := some email }

/-- The user after some attempts. -/
def tried (u : User) (attempts : List LoginAttempt) : User :=
  attempts.foldl (fun u a => (logIn a u).2) u

/-- The attempts that are granted, of those that are made one after the other. -/
def granted (u : User) : List LoginAttempt → List LoginAttempt
  | [] => []
  | a :: attempts =>
    match logIn a u with
    | (.done (), u) => a :: u.granted attempts
    | (_, u) => u.granted attempts

variable {u : User} {a : LoginAttempt} {p : Provider} {email : String}

/-! ## One attempt -/

/-- What is changed in place becomes what `login` gives, and stays as it was if that is an error. -/
theorem logIn_eq (a : LoginAttempt) : logIn a = .atomically (·.login a.provider a.email) := by
  obtain ⟨provider, email⟩ := a
  funext u
  cases email with
  | none => rfl
  | some email =>
    have hemail : (Work.orFail .noSpecifiedEmail (some email) : Work User UserError String) u =
        (.done email, u) := rfl
    rw [logIn, Work.bind_of_done hemail]
    cases hread : readProvider provider with
    | error e =>
      have hprovider : (Work.ofExcept (.error e) : Work User UserError Provider) u =
          (.failed e, u) := rfl
      rw [Work.bind_of_failed hprovider]
      simp only [Work.atomically, login, hread]
      rfl
    | ok p =>
      have hprovider : (Work.ofExcept (.ok p) : Work User UserError Provider) u = (.done p, u) := rfl
      rw [Work.bind_of_done hprovider]
      -- two changes that cannot fail come after a check
      have hchanges : (do
          Work.modify fun u : User => { u with provider := p }
          Work.modify fun u : User => { u with email := some email } : Work User UserError Unit) =
          .atomically fun u => .ok { u with provider := p, email := some email } := rfl
      rw [hchanges, Work.check_bind_atomically]
      simp only [Work.atomically, login, hread]
      by_cases hanonymous : u.provider = .anonymous
      · simp [hanonymous, bind, Except.bind]
      · simp [hanonymous, bind, Except.bind]

theorem logIn_of_no_credentials (h : a.credentials? = none) (u : User) :
    ∃ e, logIn a u = (.failed e, u) := by
  obtain ⟨provider, email⟩ := a
  rw [logIn_eq]
  cases email with
  | none => exact ⟨.noSpecifiedEmail, rfl⟩
  | some email =>
    cases hprovider : Provider.ofName? provider with
    | none =>
      have hread : readProvider provider = .error (.invalidProvider provider) := by
        simp only [readProvider, hprovider]
      exact ⟨.invalidProvider provider, by simp only [Work.atomically, login, hread]; rfl⟩
    | some p => simp [LoginAttempt.credentials?, hprovider] at h

section Credentials

variable (h : a.credentials? = some (p, email))
include h

theorem readProvider_of_credentials :
    a.email = some email ∧ Provider.ofName? a.provider = some p ∧
      readProvider a.provider = .ok p := by
  simp only [LoginAttempt.credentials?, Option.bind_eq_bind, Option.bind_eq_some_iff] at h
  obtain ⟨email', hemail, p', hprovider, hpure⟩ := h
  cases hpure
  exact ⟨hemail, hprovider, by simp only [readProvider, hprovider]⟩

theorem logIn_of_anonymous (hu : u.provider = .anonymous) :
    logIn a u = (.done (), { u with provider := p, email := some email }) := by
  obtain ⟨hemail, -, hread⟩ := readProvider_of_credentials h
  rw [logIn_eq, hemail]
  simp only [Work.atomically, login, hread, bind, Except.bind, if_pos hu]

theorem logIn_of_loggedIn (hu : u.provider ≠ .anonymous) :
    logIn a u = (.failed (.alreadyLoggedIn u.provider), u) := by
  obtain ⟨hemail, -, hread⟩ := readProvider_of_credentials h
  rw [logIn_eq, hemail]
  simp only [Work.atomically, login, hread, bind, Except.bind, if_neg hu]

end Credentials

/-- An attempt is refused and leaves the user, or an anonymous user takes what it gives. -/
theorem logIn_cases (a : LoginAttempt) (u : User) :
    (∃ e, logIn a u = (.failed e, u)) ∨
      ∃ p email, a.credentials? = some (p, email) ∧ u.provider = .anonymous ∧
        logIn a u = (.done (), { u with provider := p, email := some email }) := by
  cases hcredentials : a.credentials? with
  | none => exact .inl (logIn_of_no_credentials hcredentials u)
  | some given =>
    obtain ⟨p, email⟩ := given
    by_cases hu : u.provider = .anonymous
    · exact .inr ⟨p, email, rfl, hu, logIn_of_anonymous hcredentials hu⟩
    · exact .inl ⟨_, logIn_of_loggedIn hcredentials hu⟩

/-- What an attempt names is anonymous exactly if its provider has that name. -/
theorem provider_of_credentials (h : a.credentials? = some (p, email)) :
    p.name = a.provider ∧ (p = .anonymous ↔ a.provider = "anonymous") := by
  obtain ⟨-, hprovider, -⟩ := readProvider_of_credentials h
  exact ⟨Provider.ofName?_eq_some_iff.mp hprovider, Provider.anonymous_iff_of_ofName? hprovider⟩

/-- Whoever is changed by an attempt has just logged in. -/
theorem of_logIn_done (h : (logIn a u).1 = .done ()) :
    ∃ p email, a.credentials? = some (p, email) ∧ u.provider = .anonymous ∧
      (logIn a u).2 = { u with provider := p, email := some email } := by
  obtain ⟨e, hfailed⟩ | ⟨p, email, hcredentials, hu, hdone⟩ := logIn_cases a u
  · rw [hfailed] at h
    cases h
  · exact ⟨p, email, hcredentials, hu, by rw [hdone]⟩

/-! ## Many attempts -/

theorem tried_append (u : User) (first rest : List LoginAttempt) :
    u.tried (first ++ rest) = (u.tried first).tried rest := List.foldl_append

/-- Who has logged in stays the same, whatever is tried. -/
theorem tried_of_loggedIn (hu : u.provider ≠ .anonymous) (attempts : List LoginAttempt) :
    u.tried attempts = u := by
  induction attempts with
  | nil => rfl
  | cons a attempts ih =>
    obtain ⟨e, hfailed⟩ | ⟨_, _, -, hanonymous, -⟩ := logIn_cases a u
    · have hafter : u.tried (a :: attempts) = (logIn a u).2.tried attempts := rfl
      rw [hafter, hfailed, ih]
    · exact absurd hanonymous hu

theorem granted_of_loggedIn (hu : u.provider ≠ .anonymous) (attempts : List LoginAttempt) :
    u.granted attempts = [] := by
  induction attempts with
  | nil => rfl
  | cons a attempts ih =>
    obtain ⟨e, hfailed⟩ | ⟨_, _, -, hanonymous, -⟩ := logIn_cases a u
    · simp only [granted, hfailed, ih]
    · exact absurd hanonymous hu

/-- An anonymous user stays anonymous as long as no attempt that could be granted names another
    provider. -/
theorem provider_tried_iff (hu : u.provider = .anonymous) (attempts : List LoginAttempt) :
    (u.tried attempts).provider = .anonymous ↔
      ∀ a ∈ attempts, a.credentials?.isSome → a.provider = "anonymous" := by
  induction attempts generalizing u with
  | nil => simpa [tried] using hu
  | cons a attempts ih =>
    have hafter : u.tried (a :: attempts) = (logIn a u).2.tried attempts := rfl
    rw [hafter, List.forall_mem_cons]
    cases hcredentials : a.credentials? with
    | none =>
      -- Without credentials the attempt fails and the user stays anonymous.
      obtain ⟨e, hfailed⟩ := logIn_of_no_credentials hcredentials u
      rw [hfailed, ih hu]
      simp
    | some given =>
      obtain ⟨p, email⟩ := given
      obtain ⟨-, hname⟩ := provider_of_credentials hcredentials
      rw [logIn_of_anonymous hcredentials hu]
      by_cases hp : p = .anonymous
      · rw [ih (u := { u with provider := p, email := some email }) hp]
        simp [hname.mp hp]
      · -- a user who has logged in stays so
        rw [tried_of_loggedIn (u := { u with provider := p, email := some email }) hp]
        simp [hp, mt hname.mpr hp]

theorem length_granted_le (u : User) (attempts : List LoginAttempt) :
    ((u.granted attempts).filter (·.provider ≠ "anonymous")).length ≤ 1 := by
  induction attempts generalizing u with
  | nil => exact Nat.zero_le 1
  | cons a attempts ih =>
    obtain ⟨e, hfailed⟩ | ⟨p, email, hcredentials, -, hdone⟩ := logIn_cases a u
    · simp only [granted, hfailed]
      exact ih u
    · obtain ⟨-, hname⟩ := provider_of_credentials hcredentials
      simp only [granted, hdone]
      by_cases hp : p = .anonymous
      · rw [List.filter_cons_of_neg (by simp [hname.mp hp])]
        exact ih _
      · rw [granted_of_loggedIn (u := { u with provider := p, email := some email }) hp]
        exact List.length_filter_le _ _

/-- All attempts of a new user. Of those that do not name `anonymous` one is granted at most, and
    after it every attempt with an email and a known provider fails because the user has logged in
    already. An attempt that is not granted leaves the user as it was. An attempt is granted exactly
    if it has an email and a known provider and no earlier one that had both named another provider
    than `anonymous`. And an attempt that is granted gives the user its provider and its email, so
    that one that names `anonymous` leaves the user anonymous. -/
theorem logs_in_once (id : UserId) (uid : String) :
    let u := new id uid
    (∀ attempts, ((u.granted attempts).filter (·.provider ≠ "anonymous")).length ≤ 1) ∧
    (∀ before a between b, (logIn a (u.tried before)).1 = .done () → a.provider ≠ "anonymous" →
      b.credentials?.isSome → ∃ p : Provider, p.name = a.provider ∧
        (logIn b (u.tried (before ++ a :: between))).1 = .failed (.alreadyLoggedIn p)) ∧
    (∀ before a, (logIn a (u.tried before)).1 ≠ .done () →
      (logIn a (u.tried before)).2 = u.tried before) ∧
    (∀ before a, (logIn a (u.tried before)).1 = .done () ↔
      a.credentials?.isSome ∧ ∀ b ∈ before, b.credentials?.isSome → b.provider = "anonymous") ∧
    (∀ a : LoginAttempt, a.credentials?.isSome ↔
      a.email.isSome ∧ a.provider ∈ ["anonymous", "google", "facebook"]) ∧
    (∀ before a, (logIn a (u.tried before)).1 = .done () →
      ∃ p : Provider, p.name = a.provider ∧
        (logIn a (u.tried before)).2 = { u.tried before with provider := p, email := a.email }) ∧
    (∀ before a, (logIn a (u.tried before)).1 = .done () →
      ((logIn a (u.tried before)).2.provider = .anonymous ↔ a.provider = "anonymous")) := by
  intro u
  refine ⟨length_granted_le u, ?_, ?_, ?_, LoginAttempt.credentials?_isSome_iff, ?_, ?_⟩
  · -- From the granted attempt on the user is logged in, so what comes between changes nothing.
    intro before a between b hdone hother hb
    obtain ⟨p, email, hcredentials, -, hafter⟩ := of_logIn_done hdone
    obtain ⟨hpname, hname⟩ := provider_of_credentials hcredentials
    have hp : p ≠ .anonymous := mt hname.mp hother
    have htried : u.tried (before ++ a :: between) = (logIn a (u.tried before)).2.tried between :=
      tried_append u before (a :: between)
    obtain ⟨⟨q, email'⟩, hb⟩ := Option.isSome_iff_exists.mp hb
    refine ⟨p, hpname, ?_⟩
    rw [htried, hafter, tried_of_loggedIn (by exact hp), logIn_of_loggedIn hb (by exact hp)]
  · -- An attempt is refused as a whole.
    intro before a hrefused
    obtain ⟨e, hfailed⟩ | ⟨p, email, -, -, hdone⟩ := logIn_cases a (u.tried before)
    · rw [hfailed]
    · rw [hdone] at hrefused
      exact absurd rfl hrefused
  · intro before a
    -- Attempts are granted to anonymous users only, and `provider_tried_iff` says who is one.
    rw [← provider_tried_iff (u := u) rfl before]
    constructor
    · intro hdone
      obtain ⟨p, email, hcredentials, hanonymous, -⟩ := of_logIn_done hdone
      exact ⟨by rw [hcredentials]; rfl, hanonymous⟩
    · rintro ⟨hsome, hanonymous⟩
      obtain ⟨⟨p, email⟩, hcredentials⟩ := Option.isSome_iff_exists.mp hsome
      rw [logIn_of_anonymous hcredentials hanonymous]
  · -- What is stored is what the credentials say.
    intro before a hdone
    obtain ⟨p, email, hcredentials, -, hafter⟩ := of_logIn_done hdone
    obtain ⟨hemail, -, -⟩ := readProvider_of_credentials hcredentials
    exact ⟨p, (provider_of_credentials hcredentials).1, by rw [hafter, hemail]⟩
  · -- After it a user is anonymous just if the attempt named no other provider.
    intro before a hdone
    obtain ⟨p, email, hcredentials, -, hafter⟩ := of_logIn_done hdone
    rw [hafter]
    exact (provider_of_credentials hcredentials).2

/-- A login that is granted after one without an email, one with an unknown provider and one that
    names `anonymous`, and another one that is refused after it. -/
theorem logs_in_once_google :
    let ann : User := .new ⟨.ofNat 1⟩ "ann"
    let before : List LoginAttempt := [⟨"google", none⟩, ⟨"github", some "ann@example.com"⟩,
      ⟨"anonymous", some "ann@example.com"⟩]
    let google : LoginAttempt := ⟨"google", some "ann@example.com"⟩
    let facebook : LoginAttempt := ⟨"facebook", some "eve@example.com"⟩
    (ann.tried before).provider = .anonymous ∧
      (logIn google (ann.tried before)).1 = .done () ∧ google.provider ≠ "anonymous" ∧
      facebook.credentials?.isSome ∧
      (logIn facebook (ann.tried (before ++ [google]))).1 =
        .failed (.alreadyLoggedIn .google) ∧
      (logIn facebook (ann.tried (before ++ [google]))).2 =
        { ann with provider := .google, email := some "ann@example.com" } := by
  intro ann before google facebook
  obtain ⟨-, hlater, hkept, -, -, -, hanonymous⟩ := logs_in_once ⟨.ofNat 1⟩ "ann"
  -- the last attempt before the login names `anonymous` and is granted
  have hbefore : (ann.tried before).provider = .anonymous :=
    (hanonymous (before.take 2) ⟨"anonymous", some "ann@example.com"⟩ rfl).mpr rfl
  have hgranted : (logIn google (ann.tried before)).1 = .done () := rfl
  have hother : google.provider ≠ "anonymous" := by decide
  have hfacebook : facebook.credentials?.isSome := rfl
  obtain ⟨p, hp, hrefused⟩ := hlater before google [] facebook hgranted hother hfacebook
  obtain rfl : p = .google := by revert hp; cases p <;> decide
  refine ⟨hbefore, hgranted, hother, hfacebook, hrefused, ?_⟩
  exact (hkept (before ++ [google]) facebook (by rw [hrefused]; exact nofun)).trans rfl

/-- Two attempts are granted, and the second one overwrites the email of the first, which named
    `anonymous`. -/
theorem logs_in_twice :
    let ann : User := .new ⟨.ofNat 1⟩ "ann"
    let first : LoginAttempt := ⟨"anonymous", some "ann@example.com"⟩
    let second : LoginAttempt := ⟨"google", some "eve@example.com"⟩
    ann.granted [first, second] = [first, second] ∧
      ¬ (ann.granted [first, second]).length ≤ 1 ∧
      second.credentials?.isSome ∧
      logIn second (ann.tried [first]) =
        (.done (), { ann with provider := .google, email := some "eve@example.com" }) := by
  intro ann first second
  have hgranted : ann.granted [first, second] = [first, second] := rfl
  exact ⟨hgranted, by rw [hgranted]; decide, rfl, rfl⟩

end User

end SharedPages
