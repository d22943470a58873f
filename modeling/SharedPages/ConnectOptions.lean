import SharedPages.Url
import SharedPages.Text.Quoted

/-! # Options of a database connection

What a connection URL says: where the server is, who logs in, which database is wanted, and which
run-time options the server gets.  The query of the URL may set any of them again; the last one
wins, but for run-time options, which add up. -/

namespace SharedPages

/-- How much a connection insists on encryption. -/
inductive SslMode where
  | disable | allow | prefer | require | verifyCa | verifyFull
deriving DecidableEq

/-- The mode of that name, in any case. -/
def SslMode.ofName? (s : String) : Option SslMode :=
  match String.ofList (s.toList.map Char.toLower) with
  | "disable" => some .disable
  | "allow" => some .allow
  | "prefer" => some .prefer
  | "require" => some .require
  | "verify-ca" => some .verifyCa
  | "verify-full" => some .verifyFull
  | _ => none

/-- Options of a connection. -/
structure ConnectOptions where
  host : String
  user : String
  port : Nat := 5432
  database : Option String := none
  /-- Run-time options in the form of a command line. -/
  options : Option String := none
  applicationName : Option String := none
  /-- The directory of a local socket, which is used instead of the host. -/
  socket : Option String := none
  sslMode : SslMode := .prefer
deriving DecidableEq

namespace ConnectOptions

/-- Why a URL gives no options. -/
inductive Fault where
  | url (fault : Url.Fault)
  | number (fault : Numeral.Fault)
  | encoding (fault : Utf8.Fault)
  | address
  | sslMode (name : String)
deriving DecidableEq

/-- The text that reports a fault. -/
def Fault.message : Fault → String
  | .url fault => fault.message
  | .number fault => fault.message
  | .encoding fault => fault.message
  | .address => "invalid IP address syntax"
  | .sslMode name =>
    "error with configuration: unknown value " ++ Text.quote name ++ " for `ssl_mode`"

/-- Adds a run-time option. -/
def addOption (o : ConnectOptions) (name value : String) : ConnectOptions :=
  let before :=
    match o.options with
    | none | some "" => ""
    | some text => text ++ " "
  { o with options := some (before ++ "-c " ++ name ++ "=" ++ value) }

/-- Adds a text of run-time options. -/
def addOptions (o : ConnectOptions) (text : String) : ConnectOptions :=
  match o.options with
  | none => { o with options := some text }
  | some before => { o with options := some (before ++ " " ++ text) }

/-- The name between `options[` and `]`. -/
def optionName? (key : String) : Option String :=
  let cs := key.toList
  if cs.take 8 = "options[".toList ∧ (cs.drop 8).getLast? = some ']' then
    some (String.ofList (cs.drop 8).dropLast)
  else none

/-- Reads a number of a field. -/
def readNumber (limit : Nat) (value : String) : Except Fault Nat :=
  (Numeral.readNat limit value).mapError .number

/-- Sets what a field of the query says. -/
def applyField (o : ConnectOptions) (key value : String) : Except Fault ConnectOptions :=
  match key with
  | "sslmode" | "ssl-mode" =>
    match SslMode.ofName? value with
    | some sslMode => .ok { o with sslMode }
    | none => .error (.sslMode value)
  | "statement-cache-capacity" => (readNumber 0xffffffffffffffff value).map fun _ => o
  | "host" =>
    if value.toList.head? = some '/' then .ok { o with socket := some value }
    else .ok { o with host := value }
  | "hostaddr" =>
    if Address.isAddress value then .ok { o with host := value } else .error .address
  | "port" => (readNumber 0xffff value).map fun port => { o with port }
  | "dbname" => .ok { o with database := some value }
  | "user" => .ok { o with user := value }
  | "application_name" => .ok { o with applicationName := some value }
  | "options" => .ok (o.addOptions value)
  | _ =>
    match optionName? key with
    | some name => .ok (o.addOption name value)
    | none => .ok o

/-- Sets the host, or the socket if the host is a path. -/
def applyHost (o : ConnectOptions) (host : String) : Except Fault ConnectOptions :=
  if (Percent.bytes host).head? = some '/'.toNat then
    ((Percent.decode host).mapError .encoding).map fun socket => { o with socket := some socket }
  else .ok { o with host }

/-- What a URL says, where `defaults` has what it does not say. -/
def ofUrl (defaults : ConnectOptions) (s : String) : Except Fault ConnectOptions := do
  let url ← (Url.parse s).mapError .url
  let o ← match url.host with
    | some host => defaults.applyHost host
    | none => .ok defaults
  let o := { o with port := url.port.getD o.port }
  let username ← (Percent.decode url.username).mapError .encoding
  let o := if url.username = "" then o else { o with user := username }
  let _ ← (Percent.decode url.password).mapError .encoding
  let path := String.ofList (url.path.toList.dropWhile (· = '/'))
  let database ← (Percent.decode path).mapError .encoding
  let o := if path = "" then o else { o with database := some database }
  (Percent.fields url.query.toList).foldlM (fun o (key, value) => o.applyField key value) o

end ConnectOptions

end SharedPages
