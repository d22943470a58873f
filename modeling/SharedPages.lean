import SharedPages.Api
import SharedPages.CoreError
import SharedPages.Fixture
import SharedPages.Json.Stored
import SharedPages.Scenario.Sql
import SharedPages.Scenario.Stored
import SharedPages.Settings.Environment
import SharedPages.Json.Field
import SharedPages.Json.Reader
import SharedPages.Scenario.Input
import SharedPages.Scenario.Shown
import SharedPages.Scenario.Shown.Failure
import SharedPages.Scenario.Shown.Trace
import SharedPages.Scenario.Sql.Input
import SharedPages.Scenario.Sql.Shown
import SharedPages.Scenario.Stored.Input
import SharedPages.Proofs.Statement
import SharedPages.Proofs.OpenTransaction
import SharedPages.Proofs.SavepointStack
import SharedPages.Proofs.Handle
import SharedPages.Proofs.AbandonedWork
import SharedPages.Proofs.Program
import SharedPages.Proofs.Nesting
import SharedPages.Proofs.Units
import SharedPages.Proofs.Actions
import SharedPages.Proofs.ProgramRows
import SharedPages.Proofs.Outermost
import SharedPages.Proofs.Atomicity
import SharedPages.Proofs.Containment
import SharedPages.Proofs.Preservation
import SharedPages.Proofs.Lifetime
import SharedPages.Proofs.Watched
import SharedPages.Proofs.Mirroring
import SharedPages.Proofs.WatchedTransaction
import SharedPages.Proofs.OpenSavepoints
import SharedPages.Proofs.AllOrNothing
import SharedPages.Proofs.BalancedJournal
import SharedPages.Proofs.ConcurrentCalls
import SharedPages.Proofs.PageAccess
import SharedPages.Proofs.StoredLogin
import SharedPages.Proofs.Propagation
import SharedPages.Proofs.FinalStatement
import SharedPages.Proofs.ServedPages
import SharedPages.Proofs.Snapshots
import SharedPages.Proofs.ListedPages
import SharedPages.Proofs.LoadedPage
import SharedPages.Proofs.LinkOrder
import SharedPages.Proofs.LinkEdits
import SharedPages.Proofs.StoredForms
import SharedPages.Proofs.InlineUnits
import SharedPages.Proofs.PageChanges
import SharedPages.Proofs.PageLists
import SharedPages.Proofs.SaveLog
import SharedPages.Proofs.BusyTransaction
import SharedPages.Proofs.Login
import SharedPages.Proofs.UntouchedLinks
import SharedPages.Proofs.RootCause
import SharedPages.Proofs.IdTexts
import SharedPages.Proofs.SavepointNames
import SharedPages.Proofs.ContextPaths
