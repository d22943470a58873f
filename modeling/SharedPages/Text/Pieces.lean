/-! # Pieces of a text

`splitOn` cuts a text at separators. -/

namespace SharedPages.Text

/-- The pieces between separators.  There is one more of them than there are separators. -/
def splitOn (separator : Char) (cs : List Char) : List (List Char) :=
  cs.foldr (fun c pieces =>
    if c = separator then [] :: pieces
    else match pieces with
      | piece :: rest => (c :: piece) :: rest
      | [] => [[c]]) [[]]

end SharedPages.Text
