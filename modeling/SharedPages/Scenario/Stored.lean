import SharedPages.Repository.Announced
import SharedPages.Scenario.World
import SharedPages.Service.Page
import SharedPages.Service.User
import SharedPages.Store

/-! # Scenarios on the recording store

Actions on connections, contexts, transactions and the services, over the recording store.  The
users and pages of the services are in memory; unless the scenario is set up otherwise, the
repositories announce what they do to the store. -/

namespace SharedPages.Scenario.Stored

/-- How a scenario is set up. -/
structure Setup where
  /-- The repositories announce what they do. -/
  announces : Bool := true
  /-- The services run their units of work inline. -/
  inline : Bool := false

/-- The client that a step uses. -/
inductive ClientRef where
  | saved (name : String)
  | role (role : PoolRole)

/-- Where a step runs a statement. -/
inductive Target where
  /-- A connection that is checked out. -/
  | connection (name : String)
  | client (ref : ClientRef)

/-- The page that a step works on: the one under a name, or else the one of an identifier. -/
structure PageRef where
  name : Option String
  id : Except Fault PageId

/-- The invite code that a step gives: a text, or that of the page under a name. -/
inductive CodeRef where
  | text (code : String)
  | page (name : String)

/-- What is done with the store. -/
inductive StoreAction where
  | failStatement (statement : String)
  | heal
  | committed
  | count (entry : String)
  | ping
  | close

/-- What is done with connections. -/
inductive ConnectionAction where
  | execute (target : Target) (statement : String)
  | rows (target : Target)
  | hold (name : String) (ref : ClientRef)
  | drop (name : String)
  | client (ref : ClientRef) (save : Option String)
  | sameTransaction (a b : String)

/-- What is done with contexts. -/
inductive ContextAction where
  | save (name : String)
  | bind (name : String) (value : Json)
  | get (name : String)
  | become (user : String)
  | whoami

/-- What is done with a transaction. -/
inductive HandleAction where
  | save (name : String)
  | same (name : String)
  | describe
  | isActive
  | issued
  | commit
  | rollback
  | openSavepoint (name : String)
  | rollbackTo (savepoint : String)
  | release (savepoint : String)
  | bind

/-- What is done by the service for users, or by the repository behind it. -/
inductive UserAction where
  | create (uid : String)
  | login (provider : String) (email : Option String)
  | get
  | stored (id : Except Fault UserId)

/-- What is done by the service for pages. -/
inductive PageAction where
  | create (title : String)
  | get (page : PageRef)
  | edit (page : PageRef) (title : String) (links : Links)
  | join (page : PageRef) (code : CodeRef)
  | addLink (page : PageRef) (url memo : String)
  | removeLink (page : PageRef) (url : String)

/-- The actions of a scenario.  A user or a page that an action gives may be saved under a name. -/
inductive Action where
  | raise (message : String)
  | refuse (fault : Fault)
  | store (action : StoreAction)
  | connection (action : ConnectionAction)
  | context (action : ContextAction)
  | handle (saved : Option String) (action : HandleAction)
  | user (action : UserAction) (save : Option String)
  | page (action : PageAction) (save : Option String)
  | listPages (query : Except Fault PageQuery)
  | deletePage (page : PageRef)

/-- The state of a scenario on the store. -/
abbrev World := Scenario.World Store Session JournalEntry

/-- Steps of a scenario on the store. -/
abbrev Act (α : Type) := Work World Failure α

open Scenario.World

/-- The client that a step uses in a context. -/
def clientOf (ctx : Context) : ClientRef → Act Client
  | .saved name => named "client" (·.clients) name
  | .role role => return .ofContext role ctx

/-- The session behind a connection that was checked out of a client. -/
def sessionOf (client : Client) (d : Database Store Session) : Session :=
  match client with
  | .pool role => Store.connection role.name
  | .transaction id =>
    ((d.transactions[id.index]?).bind (·.session)).getD (Store.connection PoolRole.write.name)

/-- The rows that a connection sees. -/
def seenRows (client : Client) (d : Database Store Session) : List String :=
  (sessionOf client d).visible d.backend

/-- What a connection is and sees. -/
def see (client : Client) (d : Database Store Session) : Value :=
  let session := sessionOf client d
  .visible client session.label session.inTransaction (seenRows client d)

/-- Gives back the connection that is checked out under a name. -/
def dropConnection (name : String) (w : World) : World :=
  match w.connections.lookup name with
  | some client =>
    { w with
      database := Database.giveBack client w.database
      connections := w.connections.erase name }
  | none => w

/-- Does something with the store. -/
def performStore : StoreAction → Act Value
  | .failStatement statement => do
    ofDatabaseWork (Database.onBackend (Work.modify (·.fail statement)))
    return .nothing
  | .heal => do
    ofDatabaseWork (Database.onBackend (Work.modify Store.heal))
    return .nothing
  | .committed => return .texts (← Work.state).database.backend.rows
  | .count entry => return .number ((← Work.state).database.backend.count entry)
  | .ping => do
    ofDatabaseWork Database.ping
    return .nothing
  | .close => do
    ofDatabaseWork Database.close
    return .nothing

/-- Does something with connections. -/
def performConnection (ctx : Context) : ConnectionAction → Act Value
  | .execute (.connection name) statement => do
    let client ← named "connection" (·.connections) name
    ofDatabaseWork (Database.execute statement client)
    return .nothing
  | .execute (.client ref) statement => do
    let client ← clientOf ctx ref
    ofDatabaseWork (Database.statement client statement)
    return .nothing
  | .rows (.connection name) => do
    let client ← named "connection" (·.connections) name
    return .texts (seenRows client (← Work.state).database)
  | .rows (.client ref) => do
    let client ← clientOf ctx ref
    Database.withConnection Store client .database do
      return see client (← Work.state : World).database
  | .hold name ref => do
    let client ← clientOf ctx ref
    ofDatabaseWork (Database.checkOut client)
    change (dropConnection name)
    change fun w => { w with connections := w.connections.set name client }
    return .nothing
  | .drop name => do
    let held := ((← Work.state).connections.lookup name).isSome
    change (dropConnection name)
    return .flag held
  | .client ref save => do
    let client ← clientOf ctx ref
    if let some name := save then
      change fun w => { w with clients := w.clients.set name client }
    return .client client
  | .sameTransaction a b => do
    let a ← named "client" (·.clients) a
    let b ← named "client" (·.clients) b
    return .flag (a.sameTransaction b)

/-- Does something with contexts.  It may derive a context from `ctx`. -/
def performContext (ctx : Context) : ContextAction → Act (Value × Option Context)
  | .save name => do
    change fun w => { w with contexts := w.contexts.set name ctx }
    return (.nothing, none)
  | .bind name value => return (.nothing, some (ctx.bind (.value name) value))
  | .get name => return (.bound (ctx.find? (.value name)) ctx, none)
  | .become name => do
    let u ← named "user" (·.users) name
    return (.nothing, some (ctx.withUser u))
  | .whoami => return (.user ctx.user?, none)

/-- Does something with a transaction.  It may derive a context from `ctx`. -/
def performHandle (ctx : Context) (id : TransactionId) :
    HandleAction → Act (Value × Option Context)
  | .save name => do
    change fun w => { w with handles := w.handles.set name id }
    return (.nothing, none)
  | .same name => do
    let other ← named "handle" (·.handles) name
    return (.flag (other == id), none)
  | .describe => return (.text Transaction.description, none)
  | .isActive => do
    let active ← ofDatabaseWork (Database.within id (Transaction.inspect Transaction.isActive))
    return (.flag active, none)
  | .issued => do
    let issued ← ofDatabaseWork (Database.within id (Transaction.inspect (·.issued)))
    return (.number issued, none)
  | .commit => do
    ofDatabaseWork (Database.within id Transaction.commit)
    return (.nothing, none)
  | .rollback => do
    ofDatabaseWork (Database.within id Transaction.rollback)
    return (.nothing, none)
  | .openSavepoint name => do
    let sp ← ofDatabaseWork (Database.within id Transaction.openSavepoint)
    change fun w => { w with savepoints := w.savepoints.set name sp }
    return (.savepoint sp, none)
  | .rollbackTo name => do
    let sp ← named "savepoint" (·.savepoints) name
    ofDatabaseWork (Database.within id (Transaction.rollbackTo sp))
    return (.nothing, none)
  | .release name => do
    let sp ← named "savepoint" (·.savepoints) name
    ofDatabaseWork (Database.within id (Transaction.release sp))
    return (.nothing, none)
  | .bind => return (.nothing, some (ctx.withTransaction id))

namespace Setup

variable (setup : Setup)

/-- Where users are stored. -/
def users : UserRepository World :=
  if setup.announces then Announced.userRepository Store else Memory.userRepository

/-- Where pages are stored. -/
def pages : PageRepository World :=
  if setup.announces then Announced.pageRepository Store else Memory.pageRepository

/-- How the services run units of work. -/
def runner : UnitRunner World :=
  if setup.inline then UnitRunner.inline else UnitRunner.onDatabase Store

/-- The service for users. -/
def userService : UserService World := ⟨setup.users, setup.runner⟩

/-- The service for pages. -/
def pageService : PageService World := ⟨setup.pages, setup.runner⟩

/-- The identifier of the page that a step works on. -/
def pageOf (page : PageRef) : Act PageId := do
  let w ← Work.state
  match page.name.bind fun name => w.pages.lookup name with
  | some p => return p.id
  | none => written page.id

/-- The code that a step gives.  A name without a page gives the empty text. -/
def codeOf : CodeRef → Act String
  | .text code => return code
  | .page name => do
    let w ← Work.state
    return (w.pages.lookup name).elim "" Page.inviteCode

/-- Does something with users. -/
def performUser (ctx : Context) : UserAction → Act (Option User)
  | .create uid => ofUserWork (some <$> setup.userService.create ctx uid)
  | .login provider email => ofUserWork (some <$> setup.userService.login ctx provider email)
  | .get => ofUserWork (some <$> setup.userService.get ctx)
  | .stored id => do
    let id ← written id
    ofUserWork (setup.users.get ctx id)

/-- Does something with a page. -/
def performPage (ctx : Context) : PageAction → Act Page
  | .create title => ofPageWork (setup.pageService.create ctx title)
  | .get page => do
    let id ← pageOf page
    ofPageWork (setup.pageService.get ctx id)
  | .edit page title links => do
    let id ← pageOf page
    ofPageWork (setup.pageService.edit ctx id title links)
  | .join page code => do
    let id ← pageOf page
    let code ← codeOf code
    ofPageWork (setup.pageService.join ctx id code)
  | .addLink page url memo => do
    let id ← pageOf page
    ofPageWork (setup.pageService.addLink ctx id url memo)
  | .removeLink page url => do
    let id ← pageOf page
    ofPageWork (setup.pageService.removeLink ctx id url)

/-- Carries out an action that derives no context. -/
def giving (w : Act Value) : Act (Value × Option Context) := do return (← w, none)

/-- Carries out an action. -/
def perform (action : Action) (ctx : Context) : Act (Value × Option Context) :=
  match action with
  | .raise message => Work.fail (.raised message)
  | .refuse fault => World.refuse fault
  | .store action => giving (performStore action)
  | .connection action => giving (performConnection ctx action)
  | .context action => performContext ctx action
  | .handle saved action => do
    let id ← match saved with
      | some name => some <$> named "handle" (·.handles) name
      | none => pure ctx.transaction?
    match id with
    | some id => performHandle ctx id action
    | none => return (.text "no transaction", none)
  | .user action save => giving do
    let u ← setup.performUser ctx action
    if let (some name, some u) := (save, u) then
      change fun w => { w with users := w.users.set name u }
    return .user u
  | .page action save => giving do
    let p ← setup.performPage ctx action
    if let some name := save then change fun w => { w with pages := w.pages.set name p }
    return .page (some p)
  | .listPages query => giving do
    let query ← written query
    return .titles (← ofPageWork (setup.pageService.list ctx query))
  | .deletePage page => giving do
    let id ← pageOf page
    ofPageWork (setup.pageService.delete ctx id)
    return .nothing

/-- What it takes to play scenarios on the store. -/
def stage : Stage World Action Value where
  perform := setup.perform
  runUnit := Database.run Store
  context? name w := w.contexts.lookup name
  note := World.note Store.journal

end Setup

/-- Makes sure that both pools answer. -/
def connect : Act Unit := ofDatabaseWork Database.connect

end SharedPages.Scenario.Stored
