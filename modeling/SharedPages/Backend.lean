import SharedPages.DatabaseError
import SharedPages.Work

/-! # Database backends

What the rest of the library needs of a database: two pools of connections, one for reading and one
for writing; statements that stand alone and take effect at once; and transactions, on a session
that a pool gives.  Committing or rolling back consumes the session, whether it succeeds or not. -/

namespace SharedPages

/-- The two pools. -/
inductive PoolRole where
  | read | write
deriving DecidableEq

/-- The name of a pool. -/
def PoolRole.name : PoolRole → String
  | .read => "read"
  | .write => "write"

instance : ToString PoolRole := ⟨PoolRole.name⟩

/-- Databases of type `β`, whose open transactions are sessions of type `τ`. -/
class Backend (β : Type) (τ : outParam Type) where
  /-- Takes a connection out of a pool. -/
  acquire : PoolRole → Work β DatabaseError Unit
  /-- Runs a statement that stands alone. -/
  executeAlone : PoolRole → String → Work β DatabaseError Unit
  /-- Begins a transaction. -/
  begin : PoolRole → Work β DatabaseError τ
  /-- Runs a statement in a transaction. -/
  execute : String → Work (τ × β) DatabaseError Unit
  /-- Makes what a transaction wrote visible to all. -/
  commit : τ → Work β DatabaseError Unit
  /-- Discards what a transaction wrote. -/
  rollback : τ → Work β DatabaseError Unit
  /-- Runs a statement that does nothing. -/
  ping : PoolRole → Work β DatabaseError Unit
  /-- Closes a pool. -/
  close : PoolRole → Work β DatabaseError Unit

end SharedPages
