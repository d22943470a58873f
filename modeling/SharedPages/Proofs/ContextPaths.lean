import Mathlib.Data.Finset.Card
import SharedPages.Connection
import SharedPages.Proofs.FaultlessUnits

/-!
# Contexts and the paths to them

Contexts are derived from one another, each from the background or any other that was
there before it (`Family`). A context holds a flat list of bindings, one for each key.
What it says is read off the path that leads to it: going back from the context to
the background, the first binding of a key is the one that counts (`Nearest`).

The bindings of a context are never changed once it is made, so nothing that is
derived afterwards shows in it, and what is bound on another branch is not on its path.

## Key results

- `Context.Follows.bind`: a binding more on the path of a context
- `Context.Family.follows`: every context of a family has what is nearest on its own path
- `Context.Family.contexts_resolve`: what the contexts of a family say, and that they keep saying it
-/

namespace SharedPages

namespace Client

theorem ofContext_eq_transaction_iff {role : PoolRole} {c : Context} {id : TransactionId} :
    ofContext role c = .transaction id ↔ c.transaction? = some id := by
  unfold ofContext
  cases c.transaction? <;> simp

theorem ofContext_eq_pool_iff {role pool : PoolRole} {c : Context} :
    ofContext role c = .pool pool ↔ pool = role ∧ c.transaction? = none := by
  unfold ofContext
  cases c.transaction? <;> simp [eq_comm]

theorem sameTransaction_ofContext {role role' : PoolRole} {c : Context} :
    (ofContext role c).sameTransaction (ofContext role' c) = c.transaction?.isSome := by
  unfold ofContext
  cases c.transaction? <;> simp [sameTransaction]

end Client

namespace Context

/-! ## Paths -/

section Paths

variable {key other : Key} {path : List Binding} {c : Context}

/-- The path, followed from its end back to the background, binds the value before any other value
    of the key. -/
def Nearest (key : Key) (value : key.Value) (path : List Binding) : Prop :=
  ∃ later earlier, path = later ++ ⟨key, value⟩ :: earlier ∧ ∀ b ∈ later, b.1 ≠ key

/-- The path binds the key. -/
def Binds (path : List Binding) (key : Key) : Prop := key ∈ path.map (·.1)

theorem nearest_cons_self {value value' : key.Value} :
    Nearest key value (⟨key, value'⟩ :: path) ↔ value' = value := by
  constructor
  · rintro ⟨later, earlier, hpath, hlater⟩
    cases later with
    | nil =>
      obtain ⟨hbinding, -⟩ := List.cons.inj hpath
      exact eq_of_heq (Sigma.mk.inj hbinding).2
    | cons b later =>
      obtain ⟨rfl, -⟩ := List.cons.inj hpath
      exact absurd rfl (hlater _ List.mem_cons_self)
  · rintro rfl
    exact ⟨[], path, rfl, nofun⟩

theorem nearest_cons_of_ne {value : key.Value} {value' : other.Value} (h : other ≠ key) :
    Nearest key value (⟨other, value'⟩ :: path) ↔ Nearest key value path := by
  constructor
  · rintro ⟨later, earlier, hpath, hlater⟩
    cases later with
    | nil =>
      -- The binding in front is of another key, so it is not the nearest one.
      obtain ⟨hbinding, -⟩ := List.cons.inj hpath
      exact absurd (congrArg Sigma.fst hbinding) h
    | cons b later =>
      obtain ⟨-, hrest⟩ := List.cons.inj hpath
      exact ⟨later, earlier, hrest, fun b hb => hlater b (List.mem_cons_of_mem _ hb)⟩
  · rintro ⟨later, earlier, rfl, hlater⟩
    refine ⟨⟨other, value'⟩ :: later, earlier, rfl, fun b hb => ?_⟩
    -- The binding in front is passed over like all later ones.
    rcases List.mem_cons.mp hb with rfl | hb
    · exact h
    · exact hlater b hb

/-- Some value is nearest exactly if the key is bound at all. -/
theorem exists_nearest_iff : (∃ value, Nearest key value path) ↔ Binds path key := by
  induction path with
  | nil =>
    refine ⟨fun ⟨_, later, _, hpath, _⟩ => ?_, nofun⟩
    cases later <;> cases hpath
  | cons b path ih =>
    obtain ⟨other, value'⟩ := b
    by_cases h : other = key
    · subst h
      exact ⟨fun _ => List.mem_cons_self, fun _ => ⟨value', nearest_cons_self.mpr rfl⟩⟩
    · simp only [nearest_cons_of_ne h, ih, Binds, List.map_cons, List.mem_cons]
      exact ⟨.inr, fun hbinds => hbinds.resolve_left (Ne.symm h)⟩

/-! ## Contexts at the end of a path -/

/-- The context has the values that are nearest on the path, under the keys that the path binds. -/
structure Follows (c : Context) (path : List Binding) : Prop where
  find? : ∀ (key : Key) (value : key.Value), c.find? key = some value ↔ Nearest key value path
  keys : ∀ key, key ∈ c.bindings.map (·.1) ↔ Binds path key

theorem follows_background : Follows .background [] where
  find? key value := by
    refine ⟨nofun, fun ⟨later, _, hpath, _⟩ => ?_⟩
    cases later <;> cases hpath
  keys key := Iff.rfl

theorem find?_bind_self (c : Context) (key : Key) (value : key.Value) :
    (c.bind key value).find? key = some value := by
  simp [find?, bind, lookup?]

/-- Binding a value is a step further on the path. -/
theorem Follows.bind (h : Follows c path) (key : Key) (value : key.Value) :
    Follows (c.bind key value) (⟨key, value⟩ :: path) where
  find? asked value' := by
    by_cases hkey : key = asked
    · subst hkey
      rw [find?_bind_self, nearest_cons_self, Option.some.injEq]
    · rw [find?_bind_of_ne (Ne.symm hkey), nearest_cons_of_ne hkey, h.find?]
  keys asked := by
    have hbinds : Binds (⟨key, value⟩ :: path) asked ↔ asked = key ∨ Binds path asked :=
      List.mem_cons
    rw [hbinds, ← h.keys]
    by_cases hkey : asked = key
    · simp [Context.bind, hkey]
    · simp [Context.bind, hkey]

/-- What a context says is what its path says: the values that are nearest, where its clients go,
    and how many keys it has. -/
structure Resolves (c : Context) (path : List Binding) : Prop where
  find? : ∀ (key : Key) (value : key.Value), c.find? key = some value ↔ Nearest key value path
  find?_none : ∀ key, c.find? key = none ↔ ¬ Binds path key
  contains : ∀ key, c.contains key = true ↔ Binds path key
  user? : ∀ u, c.user? = some u ↔ Nearest .user u path
  transaction? : ∀ id, c.transaction? = some id ↔ Nearest .transaction id path
  /-- Reading and writing go to the transaction of the path. -/
  client_transaction : ∀ role id,
    Client.ofContext role c = .transaction id ↔ Nearest .transaction id path
  /-- Without one, each goes to its own pool. -/
  client_pool : ∀ role pool,
    Client.ofContext role c = .pool pool ↔ pool = role ∧ ¬ Binds path .transaction
  same_transaction : (Client.ofContext .read c).sameTransaction (.ofContext .write c) = true ↔
    Binds path .transaction
  describe : c.describe =
    "Context \x7b values: " ++ toString (path.map (·.1)).toFinset.card ++ " \x7d"

theorem Follows.find?_none (h : Follows c path) (key : Key) :
    c.find? key = none ↔ ¬ Binds path key := by
  rw [← exists_nearest_iff, Option.eq_none_iff_forall_ne_some, not_exists]
  exact forall_congr' fun value => (h.find? key value).not

theorem Follows.size (h : Follows c path) : c.size = (path.map (·.1)).toFinset.card := by
  have hkeys : (c.bindings.map (·.1)).toFinset = (path.map (·.1)).toFinset := by
    ext key
    rw [List.mem_toFinset, List.mem_toFinset, h.keys, Binds]
  rw [← hkeys, List.toFinset_card_of_nodup c.distinct, List.length_map, Context.size]

theorem Follows.resolves (h : Follows c path) : Resolves c path where
  find? := h.find?
  find?_none := h.find?_none
  contains key := by
    rw [Context.contains, Option.isSome_iff_ne_none, ne_eq, h.find?_none, not_not]
  user? := h.find? .user
  transaction? := h.find? .transaction
  client_transaction role id := by
    rw [Client.ofContext_eq_transaction_iff]
    exact h.find? .transaction id
  client_pool role pool := by
    rw [Client.ofContext_eq_pool_iff, Context.transaction?, h.find?_none]
  same_transaction := by
    rw [Client.sameTransaction_ofContext, Context.transaction?, Option.isSome_iff_ne_none, ne_eq,
      h.find?_none, not_not]
  describe := h.size ▸ rfl

end Paths

/-! ## Families of contexts -/

/-- A way to derive a context. -/
inductive Derivation where
  | withValue (name : String) (value : Json)
  | withUser (u : User)
  | withTransaction (id : TransactionId)
  | clone

namespace Derivation

/-- The context that is derived. -/
def apply : Derivation → Context → Context
  | withValue name value, c => c.bind (.value name) value
  | withUser u, c => c.withUser u
  | withTransaction id, c => c.withTransaction id
  | clone, c => c

/-- What is bound on the way. -/
def binding? : Derivation → Option Binding
  | withValue name value => some ⟨.value name, value⟩
  | withUser u => some ⟨.user, u⟩
  | withTransaction id => some ⟨.transaction, id⟩
  | clone => none

theorem follows_apply {c : Context} {path : List Binding} (h : Follows c path) :
    ∀ derivation, Follows (apply derivation c) (derivation.binding?.toList ++ path)
  | withValue name value => h.bind (.value name) value
  | withUser u => h.bind .user u
  | withTransaction id => h.bind .transaction id
  | clone => h

/-- A key keeps its value if the derivation binds another one, or none. -/
theorem find?_apply_of_ne {key : Key} (c : Context) :
    ∀ derivation : Derivation, (∀ b ∈ derivation.binding?, b.1 ≠ key) →
      (derivation.apply c).find? key = c.find? key
  | withValue name value, h => find?_bind_of_ne (h ⟨.value name, value⟩ rfl).symm c value
  | withUser u, h => find?_bind_of_ne (h ⟨.user, u⟩ rfl).symm c u
  | withTransaction id, h => find?_bind_of_ne (h ⟨.transaction, id⟩ rfl).symm c id
  | clone, _ => rfl

end Derivation

/-- Contexts that are derived one after another, beginning with the background. Each is derived from
    one of those before it. -/
inductive Family : Nat → Type where
  | background : Family 1
  | derive {n : Nat} (family : Family n) (parent : Fin n) (derivation : Derivation) : Family (n + 1)

namespace Family

/-- The contexts, in the order in which they are made. -/
def contexts : {n : Nat} → Family n → Vector Context n
  | _, background => #v[.background]
  | _, derive family parent derivation =>
    family.contexts.push (derivation.apply family.contexts[parent])

/-- The bindings on the way from a context back to the background. -/
def path : {n : Nat} → Family n → Fin n → List Binding
  | _, background, _ => []
  | _, derive family parent derivation, i =>
    Fin.lastCases (derivation.binding?.toList ++ family.path parent) family.path i

/-- The second family is the first one with contexts added to it. -/
inductive Grows : {n m : Nat} → Family n → Family m → Prop
  | refl {n : Nat} (family : Family n) : Grows family family
  | derive {n m : Nat} {family : Family n} {grown : Family m} (grows : Grows family grown)
      (parent : Fin m) (derivation : Derivation) : Grows family (grown.derive parent derivation)

section

variable {n m : Nat} (family : Family n) (parent : Fin n) (derivation : Derivation)

theorem contexts_derive_last :
    (family.derive parent derivation).contexts[Fin.last n] =
      derivation.apply family.contexts[parent] :=
  Vector.getElem_push_eq

theorem contexts_derive_castSucc (i : Fin n) :
    (family.derive parent derivation).contexts[i.castSucc] = family.contexts[i] :=
  Vector.getElem_push_lt i.isLt

theorem path_derive_last :
    (family.derive parent derivation).path (Fin.last n) =
      derivation.binding?.toList ++ family.path parent :=
  Fin.lastCases_last

theorem path_derive_castSucc (i : Fin n) :
    (family.derive parent derivation).path i.castSucc = family.path i :=
  Fin.lastCases_castSucc i

end

variable {n m : Nat}

theorem follows (family : Family n) (i : Fin n) : Follows family.contexts[i] (family.path i) := by
  induction family with
  | background =>
    rw [Fin.fin_one_eq_zero i]
    exact follows_background
  | derive family parent derivation ih =>
    cases i using Fin.lastCases with
    | last =>
      rw [contexts_derive_last, path_derive_last]
      exact Derivation.follows_apply (ih parent) derivation
    | cast i =>
      rw [contexts_derive_castSucc, path_derive_castSucc]
      exact ih i

namespace Grows

variable {family : Family n} {grown : Family m}

theorem le (h : Grows family grown) : n ≤ m := by
  induction h with
  | refl => exact le_rfl
  | derive _ _ _ ih => exact Nat.le_succ_of_le ih

theorem contexts_eq (h : Grows family grown) (i : Fin n) :
    grown.contexts[i.castLE h.le] = family.contexts[i] := by
  induction h with
  | refl => rfl
  | derive grows parent derivation ih =>
    rw [← ih]
    exact contexts_derive_castSucc _ parent derivation (i.castLE grows.le)

theorem path_eq (h : Grows family grown) (i : Fin n) :
    grown.path (i.castLE h.le) = family.path i := by
  induction h with
  | refl => rfl
  | derive grows parent derivation ih =>
    rw [← ih]
    exact path_derive_castSucc _ parent derivation (i.castLE grows.le)

end Grows

/-- Every context of a family says what its own path says. It does so, with the same bindings and
    the same path, however the family grows. A derivation that binds no user leaves the user as it
    is, and one that binds no transaction leaves the transaction. -/
theorem contexts_resolve (family : Family n) :
    (∀ i : Fin n, Resolves family.contexts[i] (family.path i)) ∧
    (∀ {m : Nat} {grown : Family m} (grows : Grows family grown) (i : Fin n),
      grown.contexts[i.castLE grows.le] = family.contexts[i] ∧
      grown.path (i.castLE grows.le) = family.path i) ∧
    (∀ (parent : Fin n) (derivation : Derivation), (∀ u, derivation ≠ .withUser u) →
      (family.derive parent derivation).contexts[Fin.last n].user? =
        family.contexts[parent].user?) ∧
    (∀ (parent : Fin n) (derivation : Derivation), (∀ id, derivation ≠ .withTransaction id) →
      (family.derive parent derivation).contexts[Fin.last n].transaction? =
        family.contexts[parent].transaction?) := by
  refine ⟨fun i => (family.follows i).resolves,
    fun grows i => ⟨grows.contexts_eq i, grows.path_eq i⟩,
    fun parent derivation hne => ?_, fun parent derivation hne => ?_⟩
  · rw [contexts_derive_last]
    refine derivation.find?_apply_of_ne _ ?_
    cases derivation with
    | withUser u => exact absurd rfl (hne u)
    | withValue | withTransaction | clone => simp [Derivation.binding?]
  · rw [contexts_derive_last]
    refine derivation.find?_apply_of_ne _ ?_
    cases derivation with
    | withTransaction id => exact absurd rfl (hne id)
    | withValue | withUser | clone => simp [Derivation.binding?]

/-- A transaction within a transaction, for a request of a user. -/
def nested (u : User) (outer inner : TransactionId) : Family 4 :=
  ((background.derive 0 (.withUser u)).derive 1 (.withTransaction outer)).derive 2
    (.withTransaction inner)

/-- The inner transaction counts inside, and the outer one still does outside. A context that is
    derived from the background afterwards has neither, nor the user. -/
theorem contexts_resolve_nested :
    let ann := User.new ⟨⟨1, by decide⟩⟩ "ann"
    let family := nested ann ⟨0⟩ ⟨1⟩
    let grown := family.derive 0 (.withValue "page" .null)
    (family.contexts[(3 : Fin 4)].user? = some ann ∧
      Client.ofContext .read family.contexts[(3 : Fin 4)] = .transaction ⟨1⟩ ∧
      family.contexts[(3 : Fin 4)].describe = "Context \x7b values: 2 \x7d") ∧
    grown.contexts[(2 : Fin 5)].transaction? = some ⟨0⟩ ∧
    grown.contexts[(4 : Fin 5)].user? = none ∧
    grown.contexts[(4 : Fin 5)].transaction? = none := by
  intro ann family grown
  obtain ⟨hresolves, hkept, huser, htransaction⟩ := contexts_resolve family
  -- The paths are read off the derivations, and all that is said of the contexts follows from them.
  have hinner : family.path 3 = [⟨.transaction, ⟨1⟩⟩, ⟨.transaction, ⟨0⟩⟩, ⟨.user, ann⟩] := rfl
  have hkeys : ((family.path 3).map (·.1)).toFinset.card = 2 := by
    rw [hinner]
    decide
  have houter : family.path 2 = [⟨.transaction, ⟨0⟩⟩, ⟨.user, ann⟩] := rfl
  have hempty : ∀ key, ¬ Binds (family.path 0) key := fun _ => nofun
  -- Growing the family leaves the earlier contexts as they were.
  have hsame : grown.contexts[(2 : Fin 5)] = family.contexts[(2 : Fin 4)] :=
    (hkept ((Grows.refl family).derive 0 (.withValue "page" .null)) 2).1
  refine ⟨⟨?_, ?_, ?_⟩, ?_, ?_, ?_⟩
  · rw [(hresolves 3).user?, hinner, nearest_cons_of_ne (by decide), nearest_cons_of_ne (by decide),
      nearest_cons_self]
  · rw [(hresolves 3).client_transaction, hinner, nearest_cons_self]
  · rw [(hresolves 3).describe, hkeys]
    rfl
  · rw [hsame, (hresolves 2).transaction?, houter, nearest_cons_self]
  · exact (huser 0 (.withValue "page" .null) nofun).trans
      (((hresolves 0).find?_none .user).mpr (hempty .user))
  · exact (htransaction 0 (.withValue "page" .null) nofun).trans
      (((hresolves 0).find?_none .transaction).mpr (hempty .transaction))

end Family

end Context

end SharedPages
