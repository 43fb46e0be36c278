import FieldAccess.Decimal.Bounded
import FieldAccess.Manifest.Database
import FieldAccess.Net.Query
import FieldAccess.Net.Url

/-!
# Connecting to databases

The address of a database, and why there may be no connection to it.

## Main definitions

* `ConnectionFault` – why there is no connection.
* `Connection.ofUrl` – the connection that an address describes.
-/

namespace FieldAccess

/-- Why there is no connection to a database. -/
inductive ConnectionFault where
  | address (fault : Net.AddressFault)
  /-- A part of the address encodes bytes that are no text. -/
  | encoding (fault : Text.Utf8.Fault)
  | sslMode (error : UnsupportedSslMode)
  /-- The address gives the mode. -/
  | sslSetting (error : UnsupportedSslMode)
  | number (fault : Decimal.BoundedFault)
  | hostAddress
  /-- There is no way to the machine. -/
  | unreachable
  deriving Repr, DecidableEq

namespace ConnectionFault

/-- A fault of the settings for a connection. -/
def ofSettings (detail : String) : String := "error with configuration: " ++ detail

/-- What is wrong, followed by the causes. -/
def causes : ConnectionFault → List String
  | address fault => [fault.message]
  | encoding fault => [fault.message]
  | sslMode error => [error.detail]
  | sslSetting error => [ofSettings error.detail, error.detail]
  | number fault => [fault.message]
  | hostAddress => ["invalid IP address syntax"]
  | unreachable => ["Network is unreachable (os error 101)"]

/-- The wording of a fault, followed by those of its causes. -/
def chain (fault : ConnectionFault) : List String :=
  let detail := fault.causes.headD ""
  let message := match fault with
    | unreachable => "error communicating with database: " ++ detail
    | _ => ofSettings detail
  message :: fault.causes

end ConnectionFault

namespace Connection

/-- The connection that is made when an address says nothing else. -/
def standard : Connection where
  host := "localhost"
  port := 5432
  username := "postgres"
  database := "postgres"
  sslMode := .prefer
  applicationName := ""
  password := none

/-- The number up to a bound that a text gives. A sign is only allowed if it is a plus. -/
def readNumber (bound : Nat) (text : String) : Except ConnectionFault Nat :=
  if text.startsWith "-" then .error (.number .notADigit)
  else ((Decimal.readBounded 0 bound text.toList).mapError .number).map Int.toNat

/-- Whether a text is an address of the internet protocol. -/
def isInternetAddress (text : List Char) : Bool :=
  match (Text.splitOn (· == '.') text).mapM Net.Host.byteV4? with
  | some [_, _, _, _] => true
  | _ => (Net.Host.readV6 text).isOk

/-- A setting in the query of an address. Settings that are not known do not count. -/
def withSetting (connection : Connection) (name value : String) :
    Except ConnectionFault Connection :=
  match name with
  | "sslmode" | "ssl-mode" =>
    match SslMode.ofText? value with
    | some sslMode => .ok { connection with sslMode }
    | none => .error (.sslSetting ⟨value⟩)
  | "statement-cache-capacity" =>
    (readNumber (Nat.pow 2 64 - 1) value).map fun _ => connection
  | "port" => (readNumber 65535 value).map fun port => { connection with port := port.toUInt16 }
  | "host" => .ok { connection with host := value }
  | "hostaddr" =>
    if isInternetAddress value.toList then .ok { connection with host := value }
    else .error .hostAddress
  | "dbname" => .ok { connection with database := value }
  | "user" => .ok { connection with username := value }
  | "password" => .ok { connection with password := some value }
  | "application_name" => .ok { connection with applicationName := value }
  | _ => .ok connection

/-- A part of an address without its encoding, or what stands in for an empty one. -/
def partOr (standIn : String) (part : List Char) : Except ConnectionFault String :=
  if part.isEmpty then .ok standIn
  else ((Net.percentDecode part).mapError .encoding).map String.ofList

/-- The host of an address. Its encoding only counts if it is the path of a socket. -/
def hostOf (host : List Char) : Except ConnectionFault String :=
  if (Net.decodedBytes host).head? = some '/'.toNat then partOr "" host
  else .ok (String.ofList host)

/-- The connection that an address describes. -/
def ofUrl (text : String) : Except ConnectionFault Connection := do
  let url ← (Net.Url.read text.toList).mapError .address
  let host ← (url.host.map fun host => hostOf host.toText).getD (.ok standard.host)
  let username ← partOr standard.username url.username
  let password ← if url.password.isEmpty then pure none else some <$> partOr "" url.password
  let database ← partOr standard.database ((Net.Url.pathText url.path).dropWhile (· = '/'))
  let connection : Connection := {
    standard with
    host, username, password, database, port := (url.port.map Nat.toUInt16).getD standard.port }
  (Net.queryPairs (url.query.getD [])).foldlM
    (fun connection (name, value) => connection.withSetting name value) connection

end Connection

end FieldAccess
