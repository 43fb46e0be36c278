import FieldAccess.CommandLine.Run
import FieldAccess.Http.Plain
import Std.Async.DNS
import Std.Async.TCP

/-!
# Requests to other machines

The transport over the network of the machine. Every request has a connection of its own.

## Main definitions

* `Instance.send` – the transport.
* `Instance.outside` – what commands reach over the network. There is no way to databases.
-/

namespace FieldAccess.Instance

open Std.Async

/-- All bytes that come in before the connection ends. -/
partial def receiveAll (client : TCP.Socket.Client) (bytes : ByteArray) : Async ByteArray := do
  match ← client.recv? 65536 with
  | some more => receiveAll client (bytes ++ more)
  | none => return bytes

/-- The address of a socket. -/
def socketAddress (address : Std.Net.IPAddr) (port : UInt16) : Std.Net.SocketAddress :=
  match address with
  | .v4 addr => .v4 { addr, port }
  | .v6 addr => .v6 { addr, port }

/-- The addresses of a host. -/
def addresses (host : String) (port : UInt16) : Async (List Std.Net.SocketAddress) := do
  let found ← DNS.getAddrInfo host (toString port)
  return found.toList.map (socketAddress · port)

/-- Connects to the first address that accepts a connection. -/
def connect : List Std.Net.SocketAddress → Async TCP.Socket.Client
  | [] => throw (IO.userError "no address")
  | [address] => do
    let client ← TCP.Socket.Client.mk
    client.connect address
    return client
  | address :: rest => do
    let client ← TCP.Socket.Client.mk
    try
      client.connect address
      return client
    catch _ => connect rest

/-- Sends a request and waits for the response. -/
def exchange (url : Net.Url) (request : Http.Request) : Async Http.Response := do
  let host := String.ofList (((url.host.map Net.Host.toText).getD []).filter fun c =>
    c ≠ '[' && c ≠ ']')
  let client ← connect (← addresses host ((url.port.getD 80).toUInt16))
  client.send (Http.requestText url request).toUTF8
  let bytes ← receiveAll client ByteArray.empty
  match Http.Response.ofBytes? bytes.toList with
  | some response => return response
  | none => throw (IO.userError "connection closed before message completed")

/-- The transport over the network of the machine. Connections are not encrypted. -/
def send : Http.Transport IO := fun base request => do
  match Http.address base request with
  | .error fault => return .error fault
  | .ok url =>
    let text := String.ofList url.toText
    if url.scheme ≠ "http" then return .error (.failed text "connections are not encrypted")
    try
      let response ← (exchange url request).block
      return .ok response
    catch fault => return .error (.failed text (toString fault))

/-- What commands reach over the network. There is no way to databases. -/
def outside : CommandLine.Outside IO := { CommandLine.Outside.offline with send }

end FieldAccess.Instance
