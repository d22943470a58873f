import SharedPages.Failure

/-! # The links of a page

Links have priorities that order them.  A new link goes last, with the number of links before it
as its priority; removing or reordering links numbers the rest from one. -/

namespace SharedPages

/-- Where a link stands among the others: an integer of 32 bits. -/
structure Priority where
  value : Int
  lower : -0x80000000 ≤ value
  upper : value ≤ 0x7fffffff
deriving DecidableEq

namespace Priority

/-- The priority `n`, or the greatest one if `n` is beyond it. -/
def ofNat (n : Nat) : Priority := ⟨min n 0x7fffffff, by omega, by omega⟩

/-- The priority `n`, if `n` has 32 bits. -/
def ofInt? (n : Int) : Option Priority :=
  if h : -0x80000000 ≤ n ∧ n ≤ 0x7fffffff then some ⟨n, h.1, h.2⟩ else none

end Priority

/-- A link with a note. -/
structure Link where
  url : String
  memo : String
  priority : Priority
deriving DecidableEq

/-- The links of a page, in order. -/
abbrev Links := List Link

namespace Links

/-- Numbers links from `first`. -/
def numberFrom (first : Nat) : Links → Links
  | [] => []
  | l :: rest => { l with priority := .ofNat first } :: numberFrom (first + 1) rest

/-- Numbers links from one. -/
def renumber (ls : Links) : Links := numberFrom 1 ls

/-- Puts a link last. -/
def add (ls : Links) (url memo : String) : Links :=
  ls ++ [⟨url, memo, .ofNat ls.length⟩]

/-- Some link has that address. -/
def has (ls : Links) (url : String) : Bool := ls.any (·.url == url)

/-- Removes the first link with that address and numbers the rest. -/
def remove (ls : Links) (url : String) : Except PageError Links :=
  if ls.has url then .ok (renumber (ls.eraseP (·.url == url))) else .error (.linkNotFound url)

/-- Puts a link in front of the first one whose priority is greater. -/
def insertByPriority (l : Link) : Links → Links
  | [] => [l]
  | m :: rest =>
    if l.priority.value < m.priority.value then l :: m :: rest
    else m :: insertByPriority l rest

/-- Sorts links by priority; links of one priority keep their order. -/
def sortByPriority (ls : Links) : Links := ls.foldl (fun sorted l => insertByPriority l sorted) []

/-- Replaces the links by as many others, all of whose addresses are among the present ones, in
    the order of their priorities. -/
def edit (ls new : Links) : Except PageError Links :=
  if new.length ≠ ls.length then .error .invalidLinksLength
  else
    let sorted := sortByPriority new
    match sorted.find? (!ls.has ·.url) with
    | some l => .error (.linkNotFound l.url)
    | none => .ok (renumber sorted)

end Links

end SharedPages
