import SharedPages.User
import SharedPages.Json

/-! # Request contexts

A context carries values down a chain of calls: the user who makes the request, the transaction
that is open, and values under names of the caller's choice.  `bind` derives a context and leaves
the one it starts from as it is, so a value bound for a nested call is not seen outside of it. -/

namespace SharedPages

/-- Names a transaction that was begun. -/
structure TransactionId where
  index : Nat
deriving DecidableEq

namespace Context

/-- What a context can carry. -/
inductive Key where
  | user
  | transaction
  | value (name : String)
deriving DecidableEq

/-- The type of the value under a key. -/
abbrev Key.Value : Key → Type
  | .user => User
  | .transaction => TransactionId
  | .value _ => Json

/-- A key with its value. -/
abbrev Binding := (key : Key) × key.Value

end Context

open Context in
/-- The values that are bound, each under a key of its own. -/
structure Context where
  bindings : List Binding
  distinct : (bindings.map (·.1)).Nodup

namespace Context

/-- The context that carries nothing. -/
def background : Context := ⟨[], List.nodup_nil⟩

instance : Inhabited Context := ⟨background⟩

/-- Derives a context that carries `value` under `key`, in place of what was there. -/
def bind (c : Context) (key : Key) (value : key.Value) : Context where
  bindings := ⟨key, value⟩ :: c.bindings.filter (·.1 ≠ key)
  distinct := by
    rw [List.map_cons, List.nodup_cons]
    constructor
    · simp
    · exact (List.filter_sublist.map _).nodup c.distinct

/-- The first value under `key`. -/
def lookup? (key : Key) : List Binding → Option key.Value
  | [] => none
  | b :: rest => if h : b.1 = key then some (h ▸ b.2) else lookup? key rest

/-- The value under `key`. -/
def find? (c : Context) (key : Key) : Option key.Value := lookup? key c.bindings

/-- Something is bound under `key`. -/
def contains (c : Context) (key : Key) : Bool := (c.find? key).isSome

/-- The number of keys that are bound. -/
def size (c : Context) : Nat := c.bindings.length

/-- A short description, which does not show the values. -/
def describe (c : Context) : String := "Context \x7b values: " ++ toString c.size ++ " \x7d"

/-- The user who makes the request. -/
def user? (c : Context) : Option User := c.find? .user

/-- Derives a context for requests of a user. -/
def withUser (c : Context) (u : User) : Context := c.bind .user u

/-- The transaction that is open. -/
def transaction? (c : Context) : Option TransactionId := c.find? .transaction

/-- Derives a context for work in a transaction. -/
def withTransaction (c : Context) (id : TransactionId) : Context := c.bind .transaction id

end Context

end SharedPages
