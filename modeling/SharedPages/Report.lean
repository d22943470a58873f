/-! # What an error says

Every error has a text of its own, and may have arisen from another error, which has its own text
and may in turn have arisen from a third.  `Report` gives both: the text, and the texts of the
errors behind it, nearest first.

A layer is *transparent* if it speaks with the voice of the error it wraps: its text and the texts
behind it are those of the wrapped error.  Any other layer adds its own text in front. -/

namespace SharedPages

/-- Errors that say what happened and what it arose from. -/
class Report (ε : Type) where
  /-- The error's own text. -/
  message : ε → String
  /-- The texts of the errors it arose from, nearest first. -/
  sources : ε → List String

namespace Report

/-- The text of an error that says what failed, and then what its cause says. -/
def of (what cause : String) : String := what ++ ": " ++ cause

/-- The text of an error that has two things to say. -/
def both (first second : String) : String := first ++ ", " ++ second

/-- The texts of an error and of all the errors behind it. -/
def chain {ε : Type} [Report ε] (e : ε) : List String :=
  message e :: sources e

end Report

end SharedPages
