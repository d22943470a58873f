/-! # Savepoints

A transaction numbers its savepoints from one.  The name of a savepoint is its number in at least
four decimal digits after `sp_`. -/

namespace SharedPages

/-- A savepoint, by its number in the transaction that opened it. -/
structure Savepoint where
  seq : Nat
deriving DecidableEq

namespace Savepoint

/-- Decimal digits, filled up with zeros to at least four. -/
def digits (n : Nat) : List Char :=
  let ds := Nat.toDigits 10 n
  List.replicate (4 - ds.length) '0' ++ ds

/-- The name that statements use. -/
def name (s : Savepoint) : String := "sp_" ++ String.ofList (digits s.seq)

instance : ToString Savepoint := ⟨name⟩

/-- The statement that opens the savepoint. -/
def createStatement (s : Savepoint) : String := "SAVEPOINT " ++ s.name

/-- The statement that discards what was written since the savepoint was opened. -/
def rollbackStatement (s : Savepoint) : String := "ROLLBACK TO SAVEPOINT " ++ s.name

/-- The statement that merges what was written since then into the enclosing scope. -/
def releaseStatement (s : Savepoint) : String := "RELEASE SAVEPOINT " ++ s.name

end Savepoint

end SharedPages
