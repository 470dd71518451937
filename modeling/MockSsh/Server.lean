import MockSsh.Machine
import MockSsh.Session

/-!
A server that listens on an address. Its connections share nothing but the settings, so what a
client is answered depends on the settings and that client's bytes alone.
-/
namespace MockSsh

/-- A server with usable settings, and the address and number that it listens on. -/
structure Server where
  config : Config
  address : Address
  number : UInt16
deriving DecidableEq, Repr

namespace Server

/-- What to listen on for an address text: the first address behind it that the machine grants. -/
def listenOn (machine : Machine) (text : String) : Except EndpointFault (Address × UInt16) := do
  let endpoint ← Endpoint.parse text
  let addresses ← endpoint.addresses machine.lookUp
  return (← machine.firstGranted endpoint.number addresses, endpoint.number)

/-- The server for some settings: first they must be usable, then there must be something to listen
on. -/
def bind (machine : Machine) (config : Config) : Except Fault Server :=
  match config.validate with
  | .error fault => .error (.config fault)
  | .ok config =>
    match listenOn machine config.listenAddress with
    | .error fault => .error (.endpoint fault)
    | .ok (address, number) => .ok ⟨config, address, number⟩

/-- The bytes that a client receives which sends `input` and then nothing more. -/
def reply (server : Server) (peer : String) (input : Bytes) : Bytes :=
  (serveStream (.ofInput input) server.config peer).stream.written

end Server
end MockSsh
