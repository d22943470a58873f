import SharedPages.Proofs.Outermost

/-!
# Failed units that leak

What a nested unit wrote should be lost if its closure fails or panics. It is,
if the rollback to its savepoint succeeds. If the rollback fails as well, or is
refused because a connection is checked out or an earlier savepoint cannot be
settled, nothing else takes the rows back: the savepoint is not abandoned, the
units around it may go on and end well, and then the rows are committed
(`Program.run_leaks`). So a run contains its failed units exactly if every one of
them is undone, by itself or with a unit around it, or has nothing to leak
(`Trace.Contained`).

## Key results

- `Trace.surviving_eq_rightful`: what survives is what should, exactly for a contained trace
- `Program.run_contained`: which runs commit nothing of a failed unit
-/

namespace SharedPages

variable {ε α : Type} {ctx : Context} {d : Database Store Session}

/-- The closure failed or panicked. -/
def Ending.isFailure : Ending → Bool
  | failed | panicked => true
  | _ => false

namespace Trace

/-- The rows that survive in units whose closures neither failed nor panicked. -/
def rightful : Trace → List String
  | nil => []
  | note n rest => n.lasting ++ rest.rightful
  | unit ending undone _ inner rest =>
    (if undone || ending.isFailure then [] else inner.rightful) ++ rest.rightful

/-- Every unit whose closure failed or panicked is undone, with a unit around it if not by itself,
    or nothing survives in it. -/
def Contained : Trace → Prop
  | nil => True
  | note _ rest => rest.Contained
  | unit ending undone _ inner rest =>
    (undone = true ∨ if ending.isFailure then inner.surviving = [] else inner.Contained) ∧
      rest.Contained

theorem rightful_sublist (trace : Trace) : trace.rightful.Sublist trace.surviving := by
  -- Both go through the trace in one order, and what is rightful leaves more units out.
  induction trace with
  | nil => exact List.Sublist.refl _
  | note n rest ih => exact (List.Sublist.refl _).append ih
  | unit ending undone held inner rest ihinner ihrest =>
    refine List.Sublist.append ?_ ihrest
    cases undone with
    | true => exact List.Sublist.refl _
    | false =>
      cases ending.isFailure with
      | true => exact List.nil_sublist _
      | false => exact ihinner

/-- Two lists that contain two others are these others if they are so one after another. -/
private theorem append_eq_append_of_sublist {a a' b b' : List String} (ha : a'.Sublist a)
    (hb : b'.Sublist b) : a ++ b = a' ++ b' ↔ a = a' ∧ b = b' := by
  constructor
  · intro h
    have hlength := congrArg List.length h
    simp only [List.length_append] at hlength
    have hla := ha.length_le
    have hlb := hb.length_le
    exact ⟨(ha.eq_of_length (by omega)).symm, (hb.eq_of_length (by omega)).symm⟩
  · rintro ⟨rfl, rfl⟩
    rfl

/-- What survives is what should, exactly if the failed units are contained. -/
theorem surviving_eq_rightful (trace : Trace) :
    trace.surviving = trace.rightful ↔ trace.Contained := by
  -- Rows may repeat, so equal lists are split at a unit by the lengths of their parts.
  induction trace with
  | nil => exact ⟨fun _ => trivial, fun _ => rfl⟩
  | note n rest ih =>
    simp only [surviving, rightful, Contained, List.append_cancel_left_eq, ih]
  | unit ending undone held inner rest ihinner ihrest =>
    simp only [surviving, rightful, Contained]
    cases undone with
    | true => simp [ihrest]
    | false =>
      cases ending.isFailure with
      | true =>
        have := append_eq_append_of_sublist (List.nil_sublist inner.surviving) rest.rightful_sublist
        simpa [ihrest] using this
      | false =>
        have := append_eq_append_of_sublist inner.rightful_sublist rest.rightful_sublist
        simpa [ihinner, ihrest] using this

end Trace

namespace Program

/-- A run commits nothing of a unit whose closure failed or panicked, exactly if all these units are
    contained. -/
theorem run_contained (hctx : ctx.transaction? = none) (p : Program ε α)
    (d : Database Store Session) :
    (p.run ctx d).2.backend.rows =
        d.backend.rows ++ (p.runTrace ctx d).outside ++ (p.runTrace ctx d).rightful ↔
      (p.runTrace ctx d).Contained := by
  rw [p.run_rows hctx, List.append_cancel_left_eq, Trace.surviving_eq_rightful]

/-- A closure that writes a row and fails. -/
def failing : Program Unit Unit := .act (.insert .unit "b") fun _ => .fail ()

/-- A closure that fails because a nested unit failed. -/
def propagating : Program Unit Unit := .unit failing fun _ => .fail ()

/-- The rollback of a nested unit fails, but the unit around it fails too and takes its row back. -/
theorem run_contained_failing :
    let p : Program Unit Unit := .unit propagating fun _ => .done ()
    let d : Database Store Session :=
      { backend := { failures := ["ROLLBACK TO SAVEPOINT sp_0002"] } }
    (p.run .background d).2.backend.rows = [] ∧
    ((p.run .background d).2.backend.rows =
        [] ++ (p.runTrace .background d).outside ++ (p.runTrace .background d).rightful ↔
      (p.runTrace .background d).Contained) :=
  ⟨by decide +kernel, run_contained rfl (.unit propagating fun _ => .done ()) _⟩

/-- The rollback of a nested unit fails and its failure is swallowed: its row is committed. -/
theorem run_leaks :
    let p : Program Unit Unit := .unit failing fun _ => .done ()
    let d : Database Store Session :=
      { backend := { failures := ["ROLLBACK TO SAVEPOINT sp_0001"] } }
    (p.run .background d).2.backend.rows = ["b"] ∧
    ¬ (p.run .background d).2.backend.rows =
      [] ++ (p.runTrace .background d).outside ++ (p.runTrace .background d).rightful := by
  decide +kernel

end Program

end SharedPages
