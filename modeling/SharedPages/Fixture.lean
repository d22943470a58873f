import SharedPages.Page
import SharedPages.PoolConfig
import SharedPages.Work

/-! # Values for tests

Where the database is that tests run on, and a page that is ready to be used.  Users that are ready
to be used are `User.new` and `User.google`. -/

namespace SharedPages.Fixture

/-- The database that tests run on. -/
structure TestDatabase where
  user : String := "test_user"
  password : String := "test_password"
  database : String := "pageshare_test"
  host : String := "localhost"
  port : Nat := 5432
deriving DecidableEq

/-- The URL of the database.  Its parts are written as they are. -/
def TestDatabase.url (d : TestDatabase) : String :=
  "postgres://" ++ d.user ++ ":" ++ d.password ++ "@" ++ d.host ++ ":" ++ toString d.port ++ "/" ++
    d.database

/-- The schema that tests work in. -/
def testSchema : String := defaultSchema

/-- What a test panics with that asks for a page with a title that is refused. -/
def refusedTitle (title : String) (e : PageError) : Panic :=
  .text (Report.of ("invalid fixture title " ++ Text.quote title) e.message)

/-- A page with one link for each address.  The owner is authorized, so only the title can be
    refused. -/
def page {ε : Type} (id : PageId) (inviteCode title : String) (owner : User) (urls : List String) :
    Outcome ε Page :=
  match Page.withLinks id inviteCode title owner urls with
  | .ok p => .done p
  | .error e => .panicked (refusedTitle title e)

end SharedPages.Fixture
