import SharedPages.Failure

/-!
# Root causes

An error may wrap another, which may wrap a third, and so on to the innermost. A
layer in between either has a text of its own and names the next error as its
source, or is transparent (`Cause.wrapped?` says which). The chain of an error,
its text and the texts of the sources behind it, has one entry for every layer of
the first kind and ends with the text of the innermost error.

Whatever a failure is, it can be boxed as a `Cause` and then says the same
(`Boxed`), so all this is shown of causes.

What lies behind an error of the driver is the driver's own.

## Key results

- `Cause.chain_of_own`, `Cause.chain_of_transparent`: what one layer adds
- `Cause.chain_eq`: the chain, layer by layer
- `UserError.chain_ofTransaction`, `PageError.chain_ofTransaction`: failed units that are converted
- `Boxed.chain_ends_at_root`: all of it, of any failure
-/

namespace SharedPages

open Report

/-! ## Layers -/

/-- How an error stands to the one that it wraps. -/
inductive Layer where
  /-- It has a text of its own, and the other is its source. -/
  | own
  /-- It speaks with the voice of the other. -/
  | transparent
deriving DecidableEq

namespace Cause

/-- The error that an error wraps, and how. If a rollback failed, this is the error of the steps. -/
def wrapped? : Cause → Option (Layer × Cause)
  | .database (.savepoint _ _ source) => some (.own, .database source)
  | .user (.repository c) => some (.own, c)
  | .user (.transaction t) => some (.transparent, .unit (t.mapSource .user))
  | .page (.user e) => some (.transparent, .user e)
  | .page (.repository c) => some (.own, c)
  | .page (.transaction t) => some (.transparent, .unit (t.mapSource .page))
  | .unit (.aborted e) => some (.transparent, e)
  | .unit (.rollbackFailed e _) => some (.own, e)
  | .unit (.begin c) | .unit (.release c) | .unit (.commit c) => some (.own, c)
  | _ => none

/-- One for errors that may hold a failed unit, which can be as large as they are. -/
def rank : Cause → Nat
  | .user _ | .page _ => 1
  | _ => 0

theorem rank_le (e : Cause) : e.rank ≤ 1 := by
  cases e <;> simp [rank]

theorem sizeOf_mapSource_le {ε : Type} [SizeOf ε] {f : ε → Cause}
    (hf : ∀ e, sizeOf (f e) = 1 + sizeOf e) (t : TransactionError Cause ε) :
    sizeOf (t.mapSource f) ≤ 1 + sizeOf t := by
  cases t with
  | rollbackFailed e r =>
    simp only [TransactionError.mapSource, TransactionError.rollbackFailed.sizeOf_spec, hf]
    omega
  | _ => simp [TransactionError.mapSource, hf]

theorem wrapped_lt {e inner : Cause} {layer : Layer} (h : e.wrapped? = some (layer, inner)) :
    2 * sizeOf inner + inner.rank < 2 * sizeOf e + e.rank := by
  have hrank := inner.rank_le
  unfold wrapped? at h
  split at h <;> cases h
  -- Only a unit in a user or page error may be no smaller than the error, but its rank is.
  case h_3 t =>
    have hunit := sizeOf_mapSource_le user.sizeOf_spec t
    simp only [unit.sizeOf_spec, user.sizeOf_spec, UserError.transaction.sizeOf_spec, rank]
    omega
  case h_6 t =>
    have hunit := sizeOf_mapSource_le page.sizeOf_spec t
    simp only [unit.sizeOf_spec, page.sizeOf_spec, PageError.transaction.sizeOf_spec, rank]
    omega
  all_goals
    simp
    omega

/-- The error that is wrapped in all the others. -/
def innermost (e : Cause) : Cause :=
  match _h : e.wrapped? with
  | some (_, inner) => inner.innermost
  | none => e
termination_by 2 * sizeOf e + e.rank
decreasing_by exact wrapped_lt _h

/-- The layers around the innermost error, the outermost first. -/
def layers (e : Cause) : List (Layer × Cause) :=
  match _h : e.wrapped? with
  | some (layer, inner) => (layer, e) :: inner.layers
  | none => []
termination_by 2 * sizeOf e + e.rank
decreasing_by exact wrapped_lt _h

/-- The errors around the innermost one that have texts of their own, the outermost first. -/
def speaking (e : Cause) : List Cause := (e.layers.filter (·.1 = .own)).map (·.2)

section

variable {e inner : Cause} {layer : Layer}

theorem innermost_of_wrapped (h : e.wrapped? = some (layer, inner)) :
    e.innermost = inner.innermost := by
  rw [innermost]
  split <;> simp_all

theorem innermost_of_bare (h : e.wrapped? = none) : e.innermost = e := by
  rw [innermost]
  split <;> simp_all

theorem layers_of_wrapped (h : e.wrapped? = some (layer, inner)) :
    e.layers = (layer, e) :: inner.layers := by
  rw [layers]
  split <;> simp_all

theorem layers_of_bare (h : e.wrapped? = none) : e.layers = [] := by
  rw [layers]
  split <;> simp_all

/-- Nothing is left to unwrap. -/
theorem wrapped_innermost (e : Cause) : e.innermost.wrapped? = none := by
  induction e using innermost.induct with
  | case1 e layer inner h ih => rw [innermost_of_wrapped h, ih]
  | case2 e h => rw [innermost_of_bare h, h]

/-! ## What a layer adds to the chain -/

/-- A layer with a text of its own adds that text. -/
theorem chain_of_own (h : e.wrapped? = some (.own, inner)) : chain e = message e :: chain inner := by
  unfold wrapped? at h
  split at h <;> cases h <;> rfl

/-- A transparent layer adds nothing. -/
theorem chain_of_transparent (h : e.wrapped? = some (.transparent, inner)) :
    chain e = chain inner := by
  unfold wrapped? at h
  split at h <;> cases h
  case h_3 t => cases t <;> rfl
  case h_6 t => cases t <;> rfl
  all_goals rfl

/-- An error that wraps none has no sources, unless it is one of the driver. -/
theorem chain_of_bare (h : e.wrapped? = none) (hdriver : ∀ d, e ≠ .database (.driver d)) :
    chain e = [message e] := by
  -- An error that wraps another one has a `wrapped?`, so it is not among those left here.
  cases e with
  | text m => rfl
  | database e =>
    cases e with
    | savepoint => cases h
    | driver d => exact absurd rfl (hdriver d)
    | _ => rfl
  | user e =>
    cases e with
    | repository | transaction => cases h
    | _ => rfl
  | page e =>
    cases e with
    | user | repository | transaction => cases h
    | _ => rfl
  | unit t => cases t <;> cases h

end

/-- The chain has the texts of the layers that speak, and then the chain of the innermost error. -/
theorem chain_eq (e : Cause) :
    chain e = e.speaking.map message ++ chain e.innermost := by
  -- Induction on what is wrapped, one layer after the other.
  induction e using layers.induct with
  | case1 e layer inner h ih =>
    rw [innermost_of_wrapped h, speaking, layers_of_wrapped h]
    cases layer with
    | own => rw [chain_of_own h, ih]; rfl
    | transparent => rw [chain_of_transparent h, ih]; rfl
  | case2 e h => rw [innermost_of_bare h, speaking, layers_of_bare h]; rfl

end Cause

/-! ## Failed units that are converted -/

/-- A failed unit says the same once it is an error about users. -/
theorem UserError.chain_ofTransaction (t : TransactionError Cause UserError) :
    chain (UserError.ofTransaction t) = chain t := by
  cases t <;> rfl

/-- A failed unit says the same once it is an error about pages. -/
theorem PageError.chain_ofTransaction (t : TransactionError Cause PageError) :
    chain (PageError.ofTransaction t) = chain t := by
  cases t <;> rfl

/-! ## Any failure as a cause -/

/-- A failure that can lie behind others. Boxed as a cause, it says the same. -/
class Boxed (ε : Type) [Report ε] where
  box : ε → Cause
  chain_box (e : ε) : chain (box e) = chain e

namespace Boxed

variable {κ ε : Type}

instance : Boxed Cause := ⟨id, fun _ => rfl⟩

instance : Boxed DatabaseError := ⟨.database, fun _ => rfl⟩

instance : Boxed UserError := ⟨.user, fun _ => rfl⟩

instance : Boxed PageError := ⟨.page, fun _ => rfl⟩

theorem message_box [Report ε] [Boxed ε] (e : ε) : message (box e) = message e :=
  (List.cons.inj (chain_box e)).1

instance [Report κ] [Boxed κ] [Report ε] [Boxed ε] : Boxed (TransactionError κ ε) where
  box t := .unit ((t.mapSource box).mapCause box)
  chain_box t := by
    cases t with
    | aborted e => exact chain_box e
    | begin c | release c | commit c =>
      show of _ (message (box c)) :: chain (box c) = of _ (message c) :: chain c
      rw [message_box, chain_box]
    | rollbackFailed e r =>
      show both (of _ (message (box r))) (of _ (message (box e))) :: chain (box e) =
        both (of _ (message r)) (of _ (message e)) :: chain e
      rw [message_box, message_box, chain_box]

/-- No failure loses its root cause: its chain ends with the text of the innermost error, has one
    entry for that and one for every layer that speaks, and is the same without a transparent
    layer. -/
theorem chain_ends_at_root [Report ε] [Boxed ε] (e : ε)
    (hdriver : ∀ d, (box e).innermost ≠ .database (.driver d)) :
    (chain e).getLast? = some (message (box e).innermost) ∧
      (chain e).length = 1 + (box e).layers.countP (·.1 = .own) ∧
      (∀ outer inner : Cause, outer.wrapped? = some (.transparent, inner) →
        chain outer = chain inner) ∧
      (∀ e : UserError, chain (UserError.ofTransaction (.aborted e)) = chain e) ∧
      (∀ e : PageError, chain (PageError.ofTransaction (.aborted e)) = chain e) := by
  have hchain : chain e = (box e).speaking.map message ++ [message (box e).innermost] := by
    rw [← chain_box, Cause.chain_eq, Cause.chain_of_bare (box e).wrapped_innermost hdriver]
    rfl
  refine ⟨?_, ?_, fun _ _ => Cause.chain_of_transparent, fun e => ?_, fun e => ?_⟩
  · rw [hchain, List.getLast?_concat]
  · rw [hchain, List.length_append, List.length_map, Cause.speaking, List.length_map,
      ← List.countP_eq_length_filter, Nat.add_comm]
    rfl
  · exact UserError.chain_ofTransaction (.aborted e)
  · exact PageError.chain_ofTransaction (.aborted e)

/-- Neither the user error nor its unit is heard, and the failed rollback is no source. -/
theorem chain_ends_at_root_rollbackFailed :
    let busy : DatabaseError := .savepoint "sp_0001" .release .transactionBusy
    let t : TransactionError DatabaseError PageError :=
      .rollbackFailed (.user (.transaction (.commit (.database busy)))) .noActiveTransaction
    (chain t).getLast? = some DatabaseError.transactionBusy.message ∧ (chain t).length = 4 := by
  intro busy t
  have hroot : (box t).innermost = .database .transactionBusy := by
    simp [t, busy, box, TransactionError.mapSource, TransactionError.mapCause, Cause.innermost,
      Cause.wrapped?]
  obtain ⟨hlast, hlength, -⟩ := chain_ends_at_root t (by rw [hroot]; simp)
  rw [hroot] at hlast
  refine ⟨hlast, hlength.trans ?_⟩
  simp [t, busy, box, TransactionError.mapSource, TransactionError.mapCause, Cause.layers,
      Cause.wrapped?]

end Boxed

end SharedPages
