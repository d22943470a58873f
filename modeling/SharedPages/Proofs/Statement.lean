import SharedPages.Savepoint
import SharedPages.Store

/-!
# Statements and what a store makes of them

A transaction is worked on through four kinds of statements (`Order`). This
file shows that a store reads each of them as what it was written for, and that
no two savepoints share a name, so that a statement about one savepoint never
meets the mark of another.

## Key results

- `Savepoint.name_injective`: two savepoints with one name are the same
- `Command.ofText_eq_iff`: a store reads every text as what it says
- `Order.ofText_text`: a store reads every order back from its text
- `PlainStatement.ofText_eq`: all that a statement can do that is not about savepoints
- `Store.record_eq`: recording fails exactly for a statement that is made to fail
-/

namespace SharedPages

/-! ## Names of savepoints -/

namespace Savepoint

/-- The digits of a number, leading zeros and all, read back as that number. -/
theorem ofDigitChars_digits (n : Nat) : Nat.ofDigitChars 10 (digits n) 0 = n := by
  simp only [digits, Nat.ofDigitChars_append, Nat.ofDigitChars_replicate_zero, Nat.mul_zero,
    Nat.ofDigitChars_ten_toDigits]

/-- Two savepoints with one name are the same. -/
theorem name_injective : Function.Injective name := by
  intro a b h
  -- Names begin alike, so they can only differ in their digits.
  have hdigits : digits a.seq = digits b.seq := by
    simpa [name, ← String.toList_inj] using h
  have hseq : a.seq = b.seq := by
    rw [← ofDigitChars_digits a.seq, hdigits, ofDigitChars_digits]
  exact congrArg Savepoint.mk hseq

@[simp] theorem name_inj {a b : Savepoint} : a.name = b.name ↔ a = b :=
  name_injective.eq_iff

end Savepoint

/-! ## Orders -/

/-- What a transaction asks of its session. -/
inductive Order where
  | insert (row : String)
  | create (sp : Savepoint)
  | rollbackTo (sp : Savepoint)
  | release (sp : Savepoint)

namespace Order

/-- The statement that carries the order. -/
def text : Order → String
  | insert row => "INSERT " ++ row
  | create sp => sp.createStatement
  | rollbackTo sp => sp.rollbackStatement
  | release sp => sp.releaseStatement

/-- What a store is to understand. -/
def command : Order → Command
  | insert row => .insert row
  | create sp => .savepoint sp.name
  | rollbackTo sp => .rollbackTo sp.name
  | release sp => .release sp.name

end Order

namespace Command

private theorem after?_append (word rest : String) : after? word (word ++ rest) = some rest := by
  simp [after?]

private theorem isPrefixOf_append_of_ne {c d : Char} (h : c ≠ d) (start cs ds : List Char) :
    (start ++ c :: cs).isPrefixOf (start ++ d :: ds) = false := by
  -- Induction on the letters that both texts begin with.
  induction start with
  | nil => simp [List.isPrefixOf_cons_cons, h]
  | cons e start ih => simpa using ih

/-- A text that differs from `word` in a letter of `word` does not begin with it. -/
private theorem after?_append_of_ne {word other : String} {c d : Char} (start : List Char)
    {cs ds : List Char} (hword : word.toList = start ++ c :: cs)
    (hother : other.toList = start ++ d :: ds) (h : c ≠ d) (rest : String) :
    after? word (other ++ rest) = none := by
  have hprefix : word.toList.isPrefixOf (other ++ rest).toList = false := by
    rw [hword, String.toList_append, hother, List.append_assoc, List.cons_append]
    exact isPrefixOf_append_of_ne h ..
  rw [after?, hprefix]
  rfl

theorem ofText_insert (row : String) : ofText ("INSERT " ++ row) = insert row := by
  rw [ofText, after?_append]
  rfl

theorem ofText_savepoint (name : String) : ofText ("SAVEPOINT " ++ name) = savepoint name := by
  have hinsert : after? "INSERT " ("SAVEPOINT " ++ name) = none :=
    after?_append_of_ne [] rfl rfl (by decide) _
  have hsavepoint : after? "SAVEPOINT " ("SAVEPOINT " ++ name) = some name := after?_append _ _
  rw [ofText, hinsert, hsavepoint]
  rfl

theorem ofText_rollbackTo (name : String) :
    ofText ("ROLLBACK TO SAVEPOINT " ++ name) = rollbackTo name := by
  have hinsert : after? "INSERT " ("ROLLBACK TO SAVEPOINT " ++ name) = none :=
    after?_append_of_ne [] rfl rfl (by decide) _
  have hsavepoint : after? "SAVEPOINT " ("ROLLBACK TO SAVEPOINT " ++ name) = none :=
    after?_append_of_ne [] rfl rfl (by decide) _
  have hrollback :
      after? "ROLLBACK TO SAVEPOINT " ("ROLLBACK TO SAVEPOINT " ++ name) = some name :=
    after?_append _ _
  rw [ofText, hinsert, hsavepoint, hrollback]
  rfl

theorem ofText_release (name : String) :
    ofText ("RELEASE SAVEPOINT " ++ name) = release name := by
  have hinsert : after? "INSERT " ("RELEASE SAVEPOINT " ++ name) = none :=
    after?_append_of_ne [] rfl rfl (by decide) _
  have hsavepoint : after? "SAVEPOINT " ("RELEASE SAVEPOINT " ++ name) = none :=
    after?_append_of_ne [] rfl rfl (by decide) _
  -- Both begin with an R, and the letter after it tells them apart.
  have hrollback : after? "ROLLBACK TO SAVEPOINT " ("RELEASE SAVEPOINT " ++ name) = none :=
    after?_append_of_ne ['R'] rfl rfl (by decide) _
  have hrelease : after? "RELEASE SAVEPOINT " ("RELEASE SAVEPOINT " ++ name) = some name :=
    after?_append _ _
  rw [ofText, hinsert, hsavepoint, hrollback, hrelease]
  rfl

/-- What begins with `word` is `word` and what comes after it. -/
private theorem eq_append_of_after? {word text rest : String} (h : after? word text = some rest) :
    text = word ++ rest := by
  unfold after? at h
  split at h
  · rename_i hprefix
    obtain ⟨cs, hcs⟩ := List.isPrefixOf_iff_prefix.mp hprefix
    have hrest : rest = String.ofList cs := by simpa [← hcs] using h.symm
    rw [← String.toList_inj, String.toList_append, hrest, String.toList_ofList, hcs]
  · cases h

/-- The words that a statement with a meaning begins with. -/
def words : List String :=
  ["INSERT ", "SAVEPOINT ", "ROLLBACK TO SAVEPOINT ", "RELEASE SAVEPOINT "]

/-- What a text says. -/
inductive Says : String → Command → Prop
  | insert (row : String) : Says ("INSERT " ++ row) (.insert row)
  | savepoint (name : String) : Says ("SAVEPOINT " ++ name) (.savepoint name)
  | rollbackTo (name : String) : Says ("ROLLBACK TO SAVEPOINT " ++ name) (.rollbackTo name)
  | release (name : String) : Says ("RELEASE SAVEPOINT " ++ name) (.release name)
  | other {text : String} (h : ∀ word ∈ words, ∀ rest, text ≠ word ++ rest) : Says text .other

/-- A store reads every text as what it says. -/
theorem ofText_eq_iff {text : String} {command : Command} :
    ofText text = command ↔ Says text command := by
  constructor
  · rintro rfl
    -- The words are tried one after the other, and the first one that fits decides.
    cases hinsert : after? "INSERT " text with
    | some row =>
      obtain rfl := eq_append_of_after? hinsert
      rw [ofText_insert]
      exact .insert row
    | none =>
      cases hsavepoint : after? "SAVEPOINT " text with
      | some name =>
        obtain rfl := eq_append_of_after? hsavepoint
        rw [ofText_savepoint]
        exact .savepoint name
      | none =>
        cases hrollback : after? "ROLLBACK TO SAVEPOINT " text with
        | some name =>
          obtain rfl := eq_append_of_after? hrollback
          rw [ofText_rollbackTo]
          exact .rollbackTo name
        | none =>
          cases hrelease : after? "RELEASE SAVEPOINT " text with
          | some name =>
            obtain rfl := eq_append_of_after? hrelease
            rw [ofText_release]
            exact .release name
          | none =>
            have hother : ofText text = .other := by
              rw [ofText, hinsert, hsavepoint, hrollback, hrelease]
              rfl
            rw [hother]
            refine .other fun word hword rest htext => ?_
            have hafter : after? word text = some rest := htext ▸ after?_append word rest
            simp only [words, List.mem_cons, List.not_mem_nil, or_false] at hword
            rcases hword with rfl | rfl | rfl | rfl <;> simp_all
  · intro h
    cases h with
    | insert row => exact ofText_insert row
    | savepoint name => exact ofText_savepoint name
    | rollbackTo name => exact ofText_rollbackTo name
    | release name => exact ofText_release name
    | other hwords =>
      have hnone {word : String} (hword : word ∈ words) : after? word text = none := by
        cases hafter : after? word text with
        | none => rfl
        | some rest => exact absurd (eq_append_of_after? hafter) (hwords word hword rest)
      rw [ofText, hnone (by simp [words]), hnone (by simp [words]), hnone (by simp [words]),
        hnone (by simp [words])]
      rfl

end Command

/-- A store reads every order back from its text. -/
theorem Order.ofText_text (o : Order) : Command.ofText o.text = o.command := by
  cases o with
  | insert row => exact Command.ofText_insert row
  | create sp => exact Command.ofText_savepoint sp.name
  | rollbackTo sp => exact Command.ofText_rollbackTo sp.name
  | release sp => exact Command.ofText_release sp.name

/-! ## Statements that are not about savepoints -/

namespace Command

/-- The command is not about a savepoint. -/
def isPlain : Command → Bool
  | insert _ | other => true
  | _ => false

/-- The row that the command adds. -/
def row? : Command → Option String
  | insert row => some row
  | _ => none

/-- The savepoint that has to be open for the command. -/
def needed? : Command → Option String
  | rollbackTo name | release name => some name
  | _ => none

end Command

/-- A statement that is not about savepoints. -/
structure PlainStatement where
  text : String
  isPlain : (Command.ofText text).isPlain = true

namespace PlainStatement

/-- The row that the statement adds. -/
def row? (p : PlainStatement) : Option String := (Command.ofText p.text).row?

/-- The statement that adds a row. -/
def insert (row : String) : PlainStatement :=
  ⟨"INSERT " ++ row, by rw [Command.ofText_insert]; rfl⟩

/-- A plain statement adds a row or does nothing. -/
theorem ofText_eq (p : PlainStatement) :
    Command.ofText p.text = (p.row?.map Command.insert).getD .other := by
  have hplain := p.isPlain
  rw [row?]
  cases h : Command.ofText p.text with
  | insert row => rfl
  | other => rfl
  | savepoint | rollbackTo | release => rw [h] at hplain; cases hplain

/-- A plain statement needs no savepoint. -/
theorem needed?_eq_none (p : PlainStatement) : (Command.ofText p.text).needed? = none := by
  rw [ofText_eq]
  cases p.row? <;> rfl

end PlainStatement

/-! ## The journal -/

namespace Store

/-- The store with one more statement in its journal. -/
def noted (label statement : String) (s : Store) : Store :=
  { s with journal := ⟨label, statement⟩ :: s.journal }

@[simp] theorem rows_noted (label statement : String) (s : Store) :
    (s.noted label statement).rows = s.rows := rfl

@[simp] theorem failures_noted (label statement : String) (s : Store) :
    (s.noted label statement).failures = s.failures := rfl

@[simp] theorem isFailing_noted (label statement : String) (s : Store) (e : JournalEntry) :
    (s.noted label statement).isFailing e = s.isFailing e := rfl

/-- The error of a statement that is made to fail. -/
def injected (statement : String) : DatabaseError :=
  .queryFailed ("injected failure: " ++ statement)

/-- A statement is made to fail everywhere, or on one pool. -/
theorem isFailing_iff {label statement : String} {s : Store} :
    s.isFailing ⟨label, statement⟩ = true ↔
      statement ∈ s.failures ∨ label ++ ": " ++ statement ∈ s.failures := by
  rw [isFailing, Bool.or_eq_true, List.contains_iff_mem, List.contains_iff_mem]
  exact Iff.rfl

/-- Recording fails exactly for a statement that is made to fail, and notes it either way. -/
theorem record_eq (label statement : String) (s : Store) :
    record label statement s =
      (if s.isFailing ⟨label, statement⟩ then .failed (injected statement) else .done (),
        s.noted label statement) := by
  simp only [record]
  split <;> rfl

/-- Where nothing is made to fail, no statement fails. -/
theorem isFailing_of_failures_nil {s : Store} (h : s.failures = []) (e : JournalEntry) :
    s.isFailing e = false := by
  simp only [isFailing, h, List.contains_nil, Bool.or_self]

/-- The two stores differ in their journals at most. -/
structure Agrees (s s' : Store) : Prop where
  rows : s'.rows = s.rows
  failures : s'.failures = s.failures

theorem failures_ne_nil {s : Store} {e : JournalEntry} (h : s.isFailing e = true) :
    s.failures ≠ [] := by
  intro hnil
  rw [isFailing_of_failures_nil hnil] at h
  cases h

/-- A row that is inserted without a transaction is committed at once. -/
theorem executeAlone_insert (row : String) (s : Store) :
    Backend.executeAlone PoolRole.write ("INSERT " ++ row) s =
      if s.isFailing ⟨"write", "INSERT " ++ row⟩ then
        (.failed (injected ("INSERT " ++ row)), s.noted "write" ("INSERT " ++ row))
      else (.done (), { s.noted "write" ("INSERT " ++ row) with rows := s.rows ++ [row] }) := by
  -- The connection that runs the statement has no transaction, and is thrown away afterwards.
  have halone : Backend.executeAlone PoolRole.write ("INSERT " ++ row) s =
      ((execute ("INSERT " ++ row) (connection "write", s)).1,
        (execute ("INSERT " ++ row) (connection "write", s)).2.2) := rfl
  rw [halone, execute, record_eq, Command.ofText_insert]
  by_cases hfailing : s.isFailing ⟨"write", "INSERT " ++ row⟩
  · simp [connection, hfailing]
  · simp [connection, hfailing, Session.apply]

end Store

end SharedPages
