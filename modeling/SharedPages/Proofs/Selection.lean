import Mathlib.Algebra.Group.Nat.Defs
import Mathlib.Data.List.Pairwise
import SharedPages.Sql.Pages

/-!
# What statements select and insert

The repositories send texts with parameters, and a server answers with rows.
This file reads these texts, as far as the repositories make use of SQL, and says
which rows a `SELECT` may be answered with (`Statement.Selects`) and which row an
`INSERT` binds (`Statement.inserted?`). Tables hold their rows in no particular
order, so a statement that does not order its rows strictly may be answered in
several ways.

What is equal to nothing, not even to itself, is null. Identifiers are ordered by
their bytes, which is the order of their values (`Uuid.bytes_lt_iff`). How texts
are ordered is up to a server's collation; no statement here orders by a text, and
none by a column that may be null.

## Key results

- `Uuid.bytes_lt_iff`: the order of identifiers is the order of their bytes
- `Statement.selects_iff`: a statement that orders its rows strictly has one answer
-/

namespace SharedPages

/-! ## The order of bytes -/

/-- The last `count` bytes of a number, most significant first. -/
def bytesOf : (count n : Nat) → List Nat
  | 0, _ => []
  | count + 1, n => n / 256 ^ count % 256 :: bytesOf count n

/-- A first digit counts for more than all that come after it. -/
private theorem digit_lt_iff {b r r' : Nat} (d d' : Nat) (hr : r < b) (hr' : r' < b) :
    r + b * d < r' + b * d' ↔ d < d' ∨ d = d' ∧ r < r' := by
  obtain hlt | rfl | hgt := Nat.lt_trichotomy d d'
  · have hnext : b * (d + 1) ≤ b * d' := Nat.mul_le_mul_left b hlt
    rw [Nat.mul_add] at hnext
    omega
  · omega
  · have hnext : b * (d' + 1) ≤ b * d := Nat.mul_le_mul_left b hgt
    rw [Nat.mul_add] at hnext
    omega

theorem bytesOf_lt_iff (count n n' : Nat) :
    bytesOf count n < bytesOf count n' ↔ n % 256 ^ count < n' % 256 ^ count := by
  induction count with
  | zero => simp [bytesOf, Nat.mod_one]
  | succ count ih =>
    have hpos : 0 < 256 ^ count := Nat.pow_pos (by decide)
    have hdigit := digit_lt_iff (n / 256 ^ count % 256) (n' / 256 ^ count % 256)
      (Nat.mod_lt n hpos) (Nat.mod_lt n' hpos)
    rw [Nat.mod_pow_succ, Nat.mod_pow_succ, hdigit]
    simp only [bytesOf, List.cons_lt_cons_iff, ih]

/-- The sixteen bytes of an identifier. -/
def Uuid.bytes (u : Uuid) : List Nat := bytesOf 16 u.value

/-- The order of identifiers is the order of their bytes. -/
theorem Uuid.bytes_lt_iff {u v : Uuid} : u.bytes < v.bytes ↔ u < v := by
  rw [bytes, bytes, bytesOf_lt_iff, lt_def]
  rw [Nat.mod_eq_of_lt, Nat.mod_eq_of_lt]
  · exact v.isLt
  · exact u.isLt

namespace Sql

/-! ## Words -/

/-- Splits a text into words, where the letters of the first one are given in reverse. Commas,
    parentheses and equal signs are words of their own. -/
def wordsFrom (letters : List Char) : List Char → List String
  | [] => ended
  | c :: rest =>
    if c = ' ' then ended ++ wordsFrom [] rest
    else if c ∈ [',', '(', ')', '='] then ended ++ String.ofList [c] :: wordsFrom [] rest
    else wordsFrom (c :: letters) rest
where
  ended : List String := if letters.isEmpty then [] else [String.ofList letters.reverse]

/-- The words of a text. -/
def words (text : String) : List String := wordsFrom [] text.toList

/-- The number of a parameter, which stands after a dollar sign. -/
def readNumber (word : String) : Option Nat :=
  match word.toList with
  | '$' :: digits =>
    if digits ≠ [] ∧ digits.all (·.isDigit) then
      some (digits.foldl (fun n digit => 10 * n + (digit.toNat - '0'.toNat)) 0)
    else none
  | _ => none

/-- Names after commas, and the words after them. -/
def readNames : List String → List String × List String
  | "," :: name :: rest =>
    let (names, rest) := readNames rest
    (name :: names, rest)
  | rest => ([], rest)

/-! ## Parameters and cells -/

/-- The parameter of that number, counted from one. -/
def Statement.param? (s : Statement) : Nat → Option Param
  | 0 => none
  | n + 1 => s.params[n]?

namespace Param

/-- What is stored in a column of a parameter. -/
def cell? : Param → Option Cell
  | null => some .null
  | uuid u => some (.uuid u)
  | uuids _ => none
  | integer n => some (.integer n)
  | text s => some (.text s)

/-- The identifiers of a parameter that is a list of them. -/
def uuids? : Param → Option (List Uuid)
  | uuids us => some us
  | null | uuid _ | integer _ | text _ => none

/-- A parameter as a number of rows. -/
def count? : Param → Option Nat
  | integer n => if 0 ≤ n then some n.toNat else none
  | null | uuid _ | uuids _ | text _ => none

end Param

namespace Cell

/-- Both cells hold the same. A null is not even the same as itself. -/
def agrees (a b : Cell) : Bool := decide (a ≠ .null ∧ a = b)

/-- One cell goes before another. -/
def Before : Cell → Cell → Prop
  | uuid u, uuid v => u.bytes < v.bytes
  | integer m, integer n => m < n
  | _, _ => False

end Cell

/-- Rows that may stand in this order, by the first columns in which they differ. -/
def Row.InOrder (row row' : Row) : List String → Prop
  | [] => True
  | column :: columns =>
    (row.cell column).Before (row'.cell column) ∨
      row.cell column = row'.cell column ∧ row.InOrder row' columns

/-- The rows of each table, in any order. -/
abbrev Tables := String → List Row

/-! ## Inserted rows -/

/-- The columns that a text inserts values into, and the numbers of the parameters that give the
    values. What is done about a row that is there already is left out. -/
structure Insert where
  table : String
  columns : List String
  numbers : List Nat
deriving DecidableEq

/-- Reads an INSERT. -/
def Insert.ofWords? (words : List String) : Option Insert := do
  let "INSERT" :: "INTO" :: table :: "(" :: rest := words | none
  let (columns, ")" :: "VALUES" :: "(" :: rest) := readNames ("," :: rest) | none
  let (numbers, ")" :: _) := readNames ("," :: rest) | none
  return ⟨table, columns, ← numbers.mapM readNumber⟩

/-- The table into which a statement inserts a row that is bound to its parameters, and the row. -/
def Statement.inserted? (s : Statement) : Option (String × Row) :=
  if s.params.isEmpty then none
  else
    (Insert.ofWords? (words s.text)).bind fun insert =>
      (insert.numbers.mapM fun n => (s.param? n).bind Param.cell?).map fun cells =>
        (insert.table, insert.columns.zip cells)

/-- The rows that some statements insert into each table. -/
def inserted (statements : List Statement) : Tables := fun table =>
  (statements.filterMap (·.inserted?)).filterMap fun (t, row) =>
    if t = table then some row else none

/-! ## Selected rows -/

/-- A table, and what goes before the names of its columns. -/
structure Source where
  table : String
  qualifier : String := ""
deriving DecidableEq

/-- A table that is joined where two columns agree. -/
structure Join where
  source : Source
  left : String
  right : String
deriving DecidableEq

/-- A condition on a row. A parameter is given by its number. -/
inductive Condition where
  | always
  | equal (column : String) (number : Nat)
  | among (column : String) (number : Nat)
deriving DecidableEq

/-- What is given in a column of the answer. -/
structure Output where
  column : String
  /-- The empty text is given in place of a null. -/
  orEmpty : Bool := false
  name : String
deriving DecidableEq

/-- What a text selects. -/
structure Select where
  outputs : List Output
  source : Source
  join? : Option Join := none
  conditions : List Condition
  order : List String := []
  offset? : Option Nat := none
  limit? : Option Nat := none
deriving DecidableEq

namespace Select

/-! ### Reading -/

/-- The name of a column without its table. -/
def unqualified (column : String) : String :=
  String.ofList (column.toList.reverse.takeWhile (· ≠ '.')).reverse

/-- Outputs after commas, and the words after them. -/
def readOutputs : List String → List Output × List String
  | "," :: "COALESCE" :: "(" :: column :: "," :: "''" :: ")" :: "AS" :: name :: rest =>
    let (outputs, rest) := readOutputs rest
    (⟨column, true, name⟩ :: outputs, rest)
  | "," :: column :: "AS" :: name :: rest =>
    let (outputs, rest) := readOutputs rest
    (⟨column, false, name⟩ :: outputs, rest)
  | "," :: column :: rest =>
    let (outputs, rest) := readOutputs rest
    (⟨column, false, unqualified column⟩ :: outputs, rest)
  | rest => ([], rest)

/-- The first table. Without a short name for it, columns go by their own names. -/
def readSource : List String → Option (Source × List String)
  | table :: "WHERE" :: rest => some (⟨table, ""⟩, "WHERE" :: rest)
  | table :: short :: rest => some (⟨table, short ++ "."⟩, rest)
  | _ => none

/-- The table that is joined, if there is one. -/
def readJoin : List String → Option Join × List String
  | "JOIN" :: table :: short :: "ON" :: left :: "=" :: right :: rest =>
    (some ⟨⟨table, short ++ "."⟩, left, right⟩, rest)
  | rest => (none, rest)

/-- Conditions that each come after the word AND. -/
def readConditions : List String → Option (List Condition × List String)
  | "AND" :: "TRUE" :: rest => do
    let (conditions, rest) ← readConditions rest
    return (.always :: conditions, rest)
  | "AND" :: column :: "=" :: "ANY" :: "(" :: number :: ")" :: rest => do
    let (conditions, rest) ← readConditions rest
    return (.among column (← readNumber number) :: conditions, rest)
  | "AND" :: column :: "=" :: number :: rest => do
    let (conditions, rest) ← readConditions rest
    return (.equal column (← readNumber number) :: conditions, rest)
  | rest => some ([], rest)

/-- The columns that the rows are ordered by. -/
def readOrder : List String → List String × List String
  | "ORDER" :: "BY" :: rest => readNames ("," :: rest)
  | rest => ([], rest)

/-- The number of a parameter after a word, if the word is there. -/
def readCount (word : String) : List String → Option (Option Nat × List String)
  | first :: number :: rest =>
    if first = word then (readNumber number).map fun n => (some n, rest)
    else some (none, first :: number :: rest)
  | rest => some (none, rest)

/-- Reads a SELECT. -/
def ofWords? (words : List String) : Option Select := do
  let "SELECT" :: rest := words | none
  let (outputs, "FROM" :: rest) := readOutputs ("," :: rest) | none
  let (source, rest) ← readSource rest
  let (join?, "WHERE" :: rest) := readJoin rest | none
  let (conditions, rest) ← readConditions ("AND" :: rest)
  let (order, rest) := readOrder rest
  let (offset?, rest) ← readCount "OFFSET" rest
  let (limit?, []) ← readCount "LIMIT" rest | none
  return { outputs, source, join?, conditions, order, offset?, limit? }

end Select

/-! ### Meaning -/

/-- The columns of a row under longer names. -/
def Row.qualify (qualifier : String) (row : Row) : Row :=
  row.map fun (column, cell) => (qualifier ++ column, cell)

/-- The rows of a table, with the names that their columns have in a statement. -/
def Source.rows (s : Source) (tables : Tables) : List Row :=
  (tables s.table).map (Row.qualify s.qualifier)

/-- A row together with each row that is joined to it. -/
def Join.rows (j : Join) (tables : Tables) (row : Row) : List Row :=
  ((j.source.rows tables).map (row ++ ·)).filter fun row =>
    (row.cell j.left).agrees (row.cell j.right)

/-- The condition is met by a row. -/
def Condition.holds (s : Statement) (row : Row) : Condition → Bool
  | always => true
  | equal column n => ((s.param? n).bind Param.cell?).any (row.cell column).agrees
  | among column n =>
    ((s.param? n).bind Param.uuids?).any fun us =>
      us.any fun u => (row.cell column).agrees (.uuid u)

/-- What is given of a row. -/
def Output.cell (o : Output) (row : Row) : Cell :=
  match row.cell o.column, o.orEmpty with
  | .null, true => .text ""
  | cell, _ => cell

namespace Select

/-- The rows from which a statement selects. -/
def rows (q : Select) (tables : Tables) : List Row :=
  match q.join? with
  | none => q.source.rows tables
  | some j => (q.source.rows tables).flatMap (j.rows tables)

/-- The rows that meet all conditions. -/
def matching (q : Select) (s : Statement) (tables : Tables) : List Row :=
  (q.rows tables).filter fun row => q.conditions.all (·.holds s row)

/-- What is left of rows by the offset and the limit, which a server refuses if they are no number
    of rows. -/
def slice (q : Select) (s : Statement) (rows : List Row) : Option (List Row) := do
  let rows ← q.offset?.elim (some rows) fun n => ((s.param? n).bind Param.count?).map rows.drop
  q.limit?.elim (some rows) fun n => ((s.param? n).bind Param.count?).map rows.take

/-- The row of the answer. -/
def project (q : Select) (row : Row) : Row := q.outputs.map fun o => (o.name, o.cell row)

end Select

/-- A server may answer a statement with these rows: those that match, put in order, sliced and
    projected. -/
def Statement.Selects (s : Statement) (tables : Tables) (rows : List Row) : Prop :=
  ∃ q sorted shown, Select.ofWords? (words s.text) = some q ∧ sorted.Perm (q.matching s tables) ∧
    sorted.Pairwise (·.InOrder · q.order) ∧ q.slice s sorted = some shown ∧
    rows = shown.map q.project

/-! ## Answers -/

/-- Rows that are in order, where no two of them may stand the other way round. -/
def Row.Strictly (columns : List String) (rows : List Row) : Prop :=
  rows.Pairwise fun row row' => row.InOrder row' columns ∧ ¬ row'.InOrder row columns

/-- Rows can be put in strict order in one way only. -/
theorem Row.Strictly.eq_of_perm {columns : List String} {rows sorted : List Row}
    (h : Strictly columns rows) (hsorted : sorted.Pairwise (·.InOrder · columns))
    (hperm : sorted.Perm rows) : sorted = rows := by
  have hrows : rows.Pairwise (·.InOrder · columns) := h.imp And.left
  refine hperm.eq_of_pairwise ?_ hsorted hrows
  intro a b ha hb hab hba
  by_contra hne
  -- of two different rows, one stands before the other, and not the other way round
  let Apart (row row' : Row) : Prop := ¬ (row.InOrder row' columns ∧ row'.InOrder row columns)
  have : Std.Symm Apart := ⟨fun _ _ hnot hboth => hnot hboth.symm⟩
  have hnot : rows.Pairwise Apart := h.imp fun hstrict hboth => hstrict.2 hboth.2
  exact hnot.forall (hperm.subset ha) hb hne ⟨hab, hba⟩

/-- Rows with increasing identifiers in a column are in strict order by that column. -/
theorem Row.strictly_uuid {α : Type} {as : List α} {row : α → Row} {column : String}
    {key : α → Uuid} (hcell : ∀ a, (row a).cell column = .uuid (key a))
    (h : as.Pairwise (key · < key ·)) :
    Strictly [column] (as.map row) := by
  rw [Strictly, List.pairwise_map]
  refine h.imp fun {a b} hlt => ?_
  simp only [InOrder, hcell, Cell.Before, Uuid.bytes_lt_iff, Cell.uuid.injEq, and_true]
  refine ⟨.inl hlt, ?_⟩
  rintro (hgt | heq)
  · exact Nat.lt_asymm hlt hgt
  · rw [heq] at hlt
    exact Nat.lt_irrefl _ hlt

/-- A statement that orders its rows strictly has one answer. -/
theorem Statement.selects_iff {s : Statement} {q : Select} {tables : Tables} {found rows : List Row}
    (htext : Select.ofWords? (words s.text) = some q) (hfound : found.Perm (q.matching s tables))
    (hstrict : Row.Strictly q.order found) :
    s.Selects tables rows ↔ ∃ shown, q.slice s found = some shown ∧ rows = shown.map q.project := by
  constructor
  · rintro ⟨q', sorted, shown, htext', hperm, hsorted, hslice, hrows⟩
    rw [htext] at htext'
    cases htext'
    obtain rfl := hstrict.eq_of_perm hsorted (hperm.trans hfound.symm)
    exact ⟨shown, hslice, hrows⟩
  · rintro ⟨shown, hslice, hrows⟩
    exact ⟨q, found, shown, htext, hfound, hstrict.imp And.left, hslice, hrows⟩

/-- Without an offset and a limit, all rows are shown. -/
theorem Statement.selects_iff_all {s : Statement} {q : Select} {tables : Tables}
    {found rows : List Row} (htext : Select.ofWords? (words s.text) = some q)
    (hall : q.offset? = none ∧ q.limit? = none)
    (hfound : found.Perm (q.matching s tables)) (hstrict : Row.Strictly q.order found) :
    s.Selects tables rows ↔ rows = found.map q.project := by
  have hslice : q.slice s found = some found := by
    rw [Select.slice, hall.1, hall.2]
    rfl
  rw [selects_iff htext hfound hstrict, hslice]
  constructor
  · rintro ⟨_, ⟨rfl⟩, rfl⟩
    rfl
  · rintro rfl
    exact ⟨found, rfl, rfl⟩

end Sql

end SharedPages
