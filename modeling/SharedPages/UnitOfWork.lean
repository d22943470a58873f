import SharedPages.Connection
import SharedPages.Repository

/-! # Units of work for the services

The services run their units of work on a database, or inline: without any database, in the context
that they were given, and with nothing undone if the steps fail. -/

namespace SharedPages

/-- Counts the units of work that were run inline. -/
structure InlineCalls where
  count : Nat := 0

namespace UnitRunner

variable {σ : Type}

/-- Units of work on a database. -/
def onDatabase (β : Type) {τ : Type} [Backend β τ] [Holds (Database β τ) σ] : UnitRunner σ :=
  fun _ _ ctx steps => (Database.run β ctx steps).mapError (·.mapCause .database)

/-- Units of work without a database. -/
def inline [Holds InlineCalls σ] : UnitRunner σ := fun _ _ ctx steps => do
  Work.on fun calls : InlineCalls => (.done (), ⟨calls.count + 1⟩)
  (steps ctx).mapError .aborted

end UnitRunner

end SharedPages
