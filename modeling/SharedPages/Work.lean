/-! # Work that can fail, panic or be cut off

A piece of work changes a state and ends in one of four ways (`Outcome`): with a value, with an
error, with a panic that carries a payload, or suspended, waiting for what never comes; suspended
work is dropped by whoever gave up waiting for it.  The state is kept in every case: what was done
before the end stays done. -/

namespace SharedPages

/-- What a panic carries. -/
inductive Panic where
  | text (message : String)
  | code (n : Int)
deriving DecidableEq

/-- How work ends. -/
inductive Outcome (ε α : Type) where
  | done (value : α)
  | failed (error : ε)
  | panicked (payload : Panic)
  | suspended
deriving DecidableEq

namespace Outcome

variable {ε ε' α β : Type}

/-- Changes the value. -/
def map (f : α → β) : Outcome ε α → Outcome ε β
  | done a => done (f a)
  | failed e => failed e
  | panicked p => panicked p
  | suspended => suspended

/-- Changes the error. -/
def mapError (f : ε → ε') : Outcome ε α → Outcome ε' α
  | done a => done a
  | failed e => failed (f e)
  | panicked p => panicked p
  | suspended => suspended

/-- The outcome of work that can only succeed or fail. -/
def ofExcept : Except ε α → Outcome ε α
  | .ok a => done a
  | .error e => failed e

end Outcome

/-- Values of `σ` have a part of type `π`. -/
class Holds (π σ : Type) where
  /-- The part. -/
  get : σ → π
  /-- Puts another part in its place. -/
  set : π → σ → σ

instance (σ : Type) : Holds σ σ := ⟨id, fun s _ => s⟩

/-- Work on a state of type `σ` that can fail with an error of type `ε`. -/
def Work (σ ε α : Type) := σ → Outcome ε α × σ

namespace Work

variable {σ π ε ε' α β : Type}

/-- Runs work on a state. -/
def run (w : Work σ ε α) (s : σ) : Outcome ε α × σ := w s

/-- Work that succeeds at once. -/
def done (a : α) : Work σ ε α := fun s => (.done a, s)

/-- Work that fails at once. -/
def fail (e : ε) : Work σ ε α := fun s => (.failed e, s)

/-- Work that panics at once. -/
def panic (p : Panic) : Work σ ε α := fun s => (.panicked p, s)

/-- Work that waits for ever. -/
def pend : Work σ ε α := fun s => (.suspended, s)

/-- Goes on with what `w` gives.  Any other end of `w` is the end of it all. -/
def andThen (w : Work σ ε α) (next : α → Work σ ε β) : Work σ ε β := fun s =>
  match w s with
  | (.done a, s) => next a s
  | (.failed e, s) => (.failed e, s)
  | (.panicked p, s) => (.panicked p, s)
  | (.suspended, s) => (.suspended, s)

instance : Monad (Work σ ε) where
  pure := done
  bind := andThen

instance : LawfulMonad (Work σ ε) := by
  refine .mk' _ (fun w => ?_) (fun _ _ => rfl) (fun w _ _ => ?_) <;>
  · funext s
    simp only [Functor.map, bind, andThen]
    rcases w s with ⟨_ | _ | _ | _, s'⟩ <;> rfl

/-- Changes the outcome. -/
def mapOutcome (f : Outcome ε α → Outcome ε' β) (w : Work σ ε α) : Work σ ε' β := fun s =>
  (f (w s).1, (w s).2)

/-- Changes the error. -/
def mapError (f : ε → ε') (w : Work σ ε α) : Work σ ε' α := w.mapOutcome (·.mapError f)

/-- Gives the outcome as a value and goes on, however the work ended. -/
def outcome (w : Work σ ε α) : Work σ ε' (Outcome ε α) := w.mapOutcome .done

/-- Succeeds or fails at once. -/
def ofExcept (x : Except ε α) : Work σ ε α := fun s => (.ofExcept x, s)

/-- The value, or the error that there is none. -/
def orFail (e : ε) (a : Option α) : Work σ ε α := ofExcept (a.elim (.error e) .ok)

/-- The state. -/
def state : Work σ ε σ := fun s => (.done s, s)

/-- Changes the state. -/
def modify (f : σ → σ) : Work σ ε Unit := fun s => (.done (), f s)

/-- Work on the part of the state that has type `π`. -/
def on [Holds π σ] (w : Work π ε α) : Work σ ε α := fun s =>
  let (o, p) := w (Holds.get s)
  (o, Holds.set p s)

/-- Runs `w` and then `last`, which cannot fail, however `w` ends. -/
def ensuring (w : Work σ ε α) (last : σ → σ) : Work σ ε α := fun s => ((w s).1, last (w s).2)

/-! ## Running work -/

variable {w : Work σ ε α} {s s' : σ}

theorem bind_of_done {a : α} (h : w s = (.done a, s')) (next : α → Work σ ε β) :
    (w >>= next) s = next a s' := by
  simp only [bind, andThen, h]

theorem bind_of_failed {e : ε} (h : w s = (.failed e, s')) (next : α → Work σ ε β) :
    (w >>= next) s = (.failed e, s') := by
  simp only [bind, andThen, h]

theorem bind_of_panicked {p : Panic} (h : w s = (.panicked p, s')) (next : α → Work σ ε β) :
    (w >>= next) s = (.panicked p, s') := by
  simp only [bind, andThen, h]

theorem bind_of_suspended (h : w s = (.suspended, s')) (next : α → Work σ ε β) :
    (w >>= next) s = (.suspended, s') := by
  simp only [bind, andThen, h]

theorem mapError_of_done {a : α} (h : w s = (.done a, s')) (f : ε → ε') :
    w.mapError f s = (.done a, s') := by
  simp only [mapError, mapOutcome, h, Outcome.mapError]

theorem mapError_of_failed {e : ε} (h : w s = (.failed e, s')) (f : ε → ε') :
    w.mapError f s = (.failed (f e), s') := by
  simp only [mapError, mapOutcome, h, Outcome.mapError]

theorem mapError_of_panicked {p : Panic} (h : w s = (.panicked p, s')) (f : ε → ε') :
    w.mapError f s = (.panicked p, s') := by
  simp only [mapError, mapOutcome, h, Outcome.mapError]

theorem mapError_of_suspended (h : w s = (.suspended, s')) (f : ε → ε') :
    w.mapError f s = (.suspended, s') := by
  simp only [mapError, mapOutcome, h, Outcome.mapError]

/-- Work on the whole state is work. -/
@[simp] theorem on_self (w : Work σ ε α) : w.on = w := rfl

/-- Looking at the outcome always goes on. -/
theorem bind_outcome (w : Work σ ε α) (next : Outcome ε α → Work σ ε' β) (s : σ) :
    (w.outcome >>= next) s = next (w s).1 (w s).2 := rfl

theorem bind_modify (f : σ → σ) (next : Unit → Work σ ε β) (s : σ) :
    (modify f >>= next) s = next () (f s) := rfl

theorem bind_state (next : σ → Work σ ε β) (s : σ) : (state >>= next) s = next s s := rfl

end Work

end SharedPages
