import SharedPages.Scenario.Shown.Failure
import SharedPages.Scenario.World

/-! # How traces are shown

What each step gave or how it failed, and the statements that it ran. -/

namespace SharedPages.Scenario.Shown

/-- A user. -/
def user (u : User) : Shown :=
  record [("id", id u.id.uuid), ("uid", text u.uid), ("provider", text u.provider.name),
    ("email", option text u.email), ("joined", list (u.joined.map fun p => id p.uuid))]

/-- A link. -/
def link (l : Link) : Shown :=
  record [("url", text l.url), ("memo", text l.memo), ("priority", integer l.priority.value)]

/-- A page. -/
def page (p : Page) : Shown :=
  record [("id", id p.id.uuid), ("title", text p.title), ("created_by", user p.creator),
    ("code", code p.inviteCode), ("links", list (p.links.map link)),
    ("invited", list (p.invited.map user))]

/-- A savepoint, with its statements. -/
def savepoint (sp : Savepoint) : Shown :=
  record [("name", text sp.name), ("seq", number sp.seq), ("display", text (toString sp)),
    ("create", text sp.createStatement), ("rollback", text sp.rollbackStatement),
    ("release", text sp.releaseStatement)]

/-- What a step gives. -/
def value : Value → Shown
  | .nothing => nothing
  | .flag b => flag b
  | .flags bs => list (bs.map flag)
  | .number n => number n
  | .text s => text s
  | .texts ss => texts ss
  | .user u => option user u
  | .page p => option page p
  | .pages ps => list (ps.map page)
  | .titles ps => list (ps.map fun p => list [id p.id.uuid, text p.title])
  | .savepoint sp => savepoint sp
  | .client c => record [("transaction", flag c.isTransaction), ("debug", text c.describe)]
  | .bound value ctx =>
    record [("value", json (value.getD .null)), ("contains", flag value.isSome),
      ("debug", text ctx.describe)]
  | .visible client label inTransaction rows =>
    record [("label", text label), ("transaction", flag client.isTransaction),
      ("in_transaction", flag inTransaction), ("rows", texts rows),
      ("debug", text client.describeConnection)]

/-- What a panic carries. -/
def payload : Panic → Shown
  | .text m => text m
  | .code n => integer n

/-- What a trace says about a step. -/
def remark : Remark Value → Shown
  | .done v => ok (value v)
  | .failed f => failure f
  | .unitDone j => ok (json j)
  | .unitFailed t => failure (.unit t)
  | .rounds times => ok (number times)
  | .passed => ok nothing
  | .panicked p => record [("panic", payload p)]
  | .cancelled => record [("cancelled", flag true)]
  | .pending => record [("pending", flag true)]
  | .returned j => record [("returned", json j)]

/-- The greatest number of statements that are shown of a step. -/
def longLog : Nat := 200

/-- The statements of a step; only the last four of a great many. -/
def log {ℓ : Type} (statement : ℓ → Shown) (ss : List ℓ) : Shown :=
  if longLog < ss.length then
    record [("count", number ss.length),
      ("last", list ((ss.drop (ss.length - 4)).map statement))]
  else list (ss.map statement)

/-- The place of a step. -/
def place (path : List Nat) : String := ".".intercalate (path.map toString)

/-- An entry of a trace. -/
def entry {ℓ : Type} (statement : ℓ → Shown) (e : Entry Value ℓ) : Shown :=
  record [("at", text (place e.path)), ("op", text e.label), ("result", remark e.remark),
    ("log", log statement e.log)]

/-- A trace, whose newest entry comes first. -/
def trace {ℓ : Type} (statement : ℓ → Shown) (es : List (Entry Value ℓ)) : Shown :=
  list (es.reverse.map (entry statement))

end SharedPages.Scenario.Shown
