import FieldAccess.Manifest.Environment

/-!
# The database of a manifest

How the settings of a manifest turn into a connection. The password never appears in what is
shown.

## Main definitions

* `DatabaseSettings.resolvePassword` – the password that is used.
* `DatabaseSettings.redactedUrl` – the address of the database as it is shown.
* `Storage` – where the policies are stored.
* `SslMode`, `Connection` – how the connection is made.
-/

namespace FieldAccess

/-- How a connection is encrypted. -/
inductive SslMode where
  | disable
  | allow
  | prefer
  | require
  | verifyCa
  | verifyFull
  deriving Repr, DecidableEq, Inhabited

namespace SslMode

/-- All modes. -/
def all : List SslMode := [disable, allow, prefer, require, verifyCa, verifyFull]

/-- The spelling of a mode. -/
def name : SslMode → String
  | disable => "disable"
  | allow => "allow"
  | prefer => "prefer"
  | require => "require"
  | verifyCa => "verify-ca"
  | verifyFull => "verify-full"

/-- The spelling of a mode as a title. -/
def title : SslMode → String
  | disable => "Disable"
  | allow => "Allow"
  | prefer => "Prefer"
  | require => "Require"
  | verifyCa => "VerifyCa"
  | verifyFull => "VerifyFull"

/-- The mode that a text names, in capital or small letters. -/
def ofText? (text : String) : Option SslMode := all.find? fun mode => mode.name == text.toLower

end SslMode

/-- Where the policies are stored. -/
inductive Storage where
  | inMemory
  /-- In a database, of which only the address that may be shown is known. -/
  | postgres (url : String)
  deriving Repr, DecidableEq

/-- How a connection to a database is made. -/
structure Connection where
  host : String
  port : UInt16
  username : String
  database : String
  sslMode : SslMode
  applicationName : String
  password : Option String
  deriving Repr, DecidableEq

/-- Why no connection is made: the mode of encryption is not known. -/
structure UnsupportedSslMode where
  text : String
  deriving Repr, DecidableEq

namespace UnsupportedSslMode

/-- The wording of the error. -/
def message (error : UnsupportedSslMode) : String := s!"Unsupported ssl_mode '{error.text}'"

/-- What is said about the text that is not understood. -/
def detail (error : UnsupportedSslMode) : String :=
  "unknown value " ++ Text.quoted error.text ++ " for " ++
    String.ofList ['\x60'] ++ "ssl_mode" ++ String.ofList ['\x60']

end UnsupportedSslMode

namespace DatabaseSettings

/-- The name of the variable that holds the password, when the manifest names one. -/
def passwordVariable? (password : String) : Option String :=
  (Text.afterPrefix? "env:".toList password.toList).map String.ofList

/-- The password that is used. -/
def resolvePassword (settings : DatabaseSettings) (env : Environment) : Option String :=
  match settings.password with
  | none => none
  | some password =>
    match passwordVariable? password with
    | some name => env.get? name
    | none => some password

/-- The address of the database, without the password. -/
def redactedUrl (settings : DatabaseSettings) : String :=
  s!"postgres://{settings.username}@{settings.host}:{settings.port}/{settings.database}" ++
    s!"?sslmode={settings.sslMode}"

/-- Where the policies are stored. -/
def storage (settings : DatabaseSettings) : Storage :=
  match settings.backend with
  | .inMemory => .inMemory
  | .postgres => .postgres settings.redactedUrl

/-- How a connection is made. -/
def connection (settings : DatabaseSettings) (env : Environment) :
    Except UnsupportedSslMode Connection :=
  match SslMode.ofText? settings.sslMode with
  | none => .error ⟨settings.sslMode⟩
  | some sslMode =>
    .ok {
      host := settings.host
      port := settings.port
      username := settings.username
      database := settings.database
      sslMode
      applicationName := "policy-decision-point"
      password := settings.resolvePassword env }

end DatabaseSettings

namespace Storage

/-- Why the store is not available, when no database is connected. -/
def unavailable? : Storage → Option String
  | inMemory => none
  | postgres url => some s!"PostgreSQL backend selected but not connected ({url})"

end Storage

end FieldAccess
