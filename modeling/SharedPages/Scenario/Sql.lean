import SharedPages.PoolConfig
import SharedPages.Scenario.World
import SharedPages.Service.Page
import SharedPages.Service.User
import SharedPages.Sql.Pages

/-! # Scenarios on the SQL server

Actions of the services and of their repositories, over the scripted SQL server.  What shows in the
trace is each statement with what was bound to its parameters. -/

namespace SharedPages.Scenario.Sql

open SharedPages.Sql

/-- What is done with the database. -/
inductive PoolAction where
  | ping
  | close
  /-- Tells which clients of the context are transactions, and whether they are the same one. -/
  | clients

/-- What is done by the repository for users. -/
inductive UserStoring where
  | get (id : Except Fault UserId)
  | getByUid (uid : String)
  | save (user : Except Fault User)

/-- What is done by the repository for pages. -/
inductive PageStoring where
  | get (id : Except Fault PageId)
  | list (query : Except Fault PageQuery)
  | save (page : Except Fault Page)
  | delete (id : Except Fault PageId)

/-- What is done by the service for users. -/
inductive UserAction where
  | create (uid : String)
  | login (provider : String) (email : Option String)
  | get

/-- What is done by the service for pages. -/
inductive PageAction where
  | create (title : String)
  | addLink (id : Except Fault PageId) (url memo : String)
  | removeLink (id : Except Fault PageId) (url : String)
  | join (id : Except Fault PageId) (code : String)
  | delete (id : Except Fault PageId)

/-- The actions of a scenario. -/
inductive Action where
  | raise (message : String)
  | refuse (fault : Fault)
  | pool (action : PoolAction)
  | storeUser (action : UserStoring)
  | storePage (action : PageStoring)
  | user (action : UserAction)
  | page (action : PageAction)

/-- The state of a scenario on the server. -/
abbrev World := Scenario.World Endpoint PoolRole Call

/-- Steps of a scenario on the server. -/
abbrev Act (α : Type) := Work World Failure α

open Scenario.World

/-- Users on the server. -/
def users : UserRepository World := Users.repository

/-- Pages on the server. -/
def pages : PageRepository World := Pages.repository

/-- The service for users. -/
def userService : UserService World := ⟨users, UnitRunner.onDatabase Endpoint⟩

/-- The service for pages. -/
def pageService : PageService World := ⟨pages, UnitRunner.onDatabase Endpoint⟩

/-- Does something with the database. -/
def performPool (ctx : Context) : PoolAction → Act Value
  | .ping => do
    ofDatabaseWork Database.ping
    return .nothing
  | .close => do
    ofDatabaseWork Database.close
    return .nothing
  | .clients =>
    let read := Client.ofContext .read ctx
    let write := Client.ofContext .write ctx
    return .flags [read.isTransaction, write.isTransaction, read.sameTransaction write]

/-- Reads or writes users. -/
def performUserStoring (ctx : Context) : UserStoring → Act Value
  | .get id => do
    let id ← written id
    return .user (← ofUserWork (users.get ctx id))
  | .getByUid uid => do return .user (← ofUserWork (users.getByUid ctx uid))
  | .save user => do
    let user ← written user
    ofUserWork (users.save ctx user)
    return .nothing

/-- Reads or writes pages. -/
def performPageStoring (ctx : Context) : PageStoring → Act Value
  | .get id => do
    let id ← written id
    return .page (← ofPageWork (pages.get ctx id))
  | .list query => do
    let query ← written query
    return .pages (← ofPageWork (pages.list ctx query))
  | .save page => do
    let page ← written page
    ofPageWork (pages.save ctx page)
    return .nothing
  | .delete id => do
    let id ← written id
    ofPageWork (pages.delete ctx id)
    return .nothing

/-- Does something with users. -/
def performUser (ctx : Context) : UserAction → Act User
  | .create uid => ofUserWork (userService.create ctx uid)
  | .login provider email => ofUserWork (userService.login ctx provider email)
  | .get => ofUserWork (userService.get ctx)

/-- Does something with a page.  A deleted page is not given back. -/
def performPage (ctx : Context) : PageAction → Act Value
  | .create title => do return .page (some (← ofPageWork (pageService.create ctx title)))
  | .addLink id url memo => do
    let id ← written id
    return .page (some (← ofPageWork (pageService.addLink ctx id url memo)))
  | .removeLink id url => do
    let id ← written id
    return .page (some (← ofPageWork (pageService.removeLink ctx id url)))
  | .join id code => do
    let id ← written id
    return .page (some (← ofPageWork (pageService.join ctx id code)))
  | .delete id => do
    let id ← written id
    ofPageWork (pageService.delete ctx id)
    return .nothing

/-- Carries out an action. -/
def perform (ctx : Context) : Action → Act Value
  | .raise message => Work.fail (.raised message)
  | .refuse fault => World.refuse fault
  | .pool action => performPool ctx action
  | .storeUser action => performUserStoring ctx action
  | .storePage action => performPageStoring ctx action
  | .user action => do return .user (some (← performUser ctx action))
  | .page action => performPage ctx action

/-- What it takes to play scenarios on the server.  No action derives a context. -/
def stage : Stage World Action Value where
  perform action ctx := do return (← perform ctx action, none)
  runUnit := Database.run Endpoint
  context? name w := w.contexts.lookup name
  note := World.note Endpoint.log

/-- The name under which the trace says how the start went. -/
def startLabel : String := "connect"

/-- Opens the connections of both pools and makes sure that they answer. -/
def connect (config : PoolConfig) (defaults : ConnectOptions) : Act Unit := do
  let options ← Work.ofExcept ((config.connectOptions defaults).mapError .database)
  ofDatabaseWork (Database.onBackend (Work.modify (Endpoint.connect .read options)))
  ofDatabaseWork (Database.onBackend (Work.modify (Endpoint.connect .write options)))
  ofDatabaseWork Database.connect
  change (World.note Endpoint.log [] startLabel .passed)

end SharedPages.Scenario.Sql
