import MockSsh.CommandLine
import MockSsh.Live
import Std.Async.DNS
import Std.Async.TCP

/-!
The program: it reads its arguments, listens on a socket, and carries bytes between each client and
a session of its own.
-/
open MockSsh Std.Async

/-- The events of some connection, one a line, if they matter enough. -/
def tell (least : Option Level) (events : List Event) : IO Unit := do
  let output ← IO.getStdout
  for event in events do
    if least.any fun level => level.rank ≤ event.level.rank then
      output.putStrLn event.line
  output.flush

/-! ## The machine -/

/-- The system's number for a failure, or 0 if it has none. Operations on sockets give it with a
minus sign, as a word of 32 bits. -/
def systemCode (failure : IO.Error) : Nat :=
  let code := word failure
  if code.toNat < 2147483648 then code.toNat else (-code).toNat
where
  word : IO.Error → UInt32
    | .alreadyExists _ code _ | .otherError code _ | .resourceBusy code _
    | .resourceVanished code _ | .unsupportedOperation code _ | .hardwareFault code _
    | .unsatisfiedConstraints code _ | .illegalOperation code _ | .protocolError code _
    | .timeExpired code _ | .interrupted _ code _ | .noFileOrDirectory _ code _
    | .invalidArgument _ code _ | .permissionDenied _ code _ | .resourceExhausted _ code _
    | .inappropriateType _ code _ | .noSuchThing _ code _ => code
    | .unexpectedEof | .userError _ => 0

/-- Why an operation on a socket failed. -/
def socketFault (failure : IO.Error) : StreamFault :=
  let kind : StreamFault.Kind := match failure, systemCode failure with
    | .unexpectedEof, _ => .unexpectedEnd
    | _, 1 | _, 13 => .permissionDenied
    | _, 32 => .brokenPipe
    | _, 103 => .connectionAborted
    | _, 104 => .connectionReset
    | _, 107 => .notConnected
    | _, 110 => .timedOut
    | _, _ => .other "Uncategorized"
  ⟨kind, toString failure⟩

/-- Why a file could not be read. -/
def readFault (failure : IO.Error) : ReadFault :=
  match systemCode failure with
  | 1 => .notPermitted
  | 2 => .missing
  | 5 => .failed
  | 6 => .noDevice
  | 13 => .denied
  | 20 => .notDirectory
  | 21 => .isDirectory
  | 22 => .invalid
  | 36 => .nameTooLong
  | 40 => .tooManyLinks
  | _ => .other (toString failure)

/-- Why an address could not be listened on. -/
def refusal (failure : IO.Error) : Refusal :=
  let known : List Refusal := [.denied, .noDevice, .invalid, .inUse, .notAvailable]
  (known.find? fun known => known.code = systemCode failure).getD
    (.other (systemCode failure) (toString failure))

/-- The text of a file, or why there is none. -/
def readText (path : String) : IO (Except ReadFault String) := do
  if path.toList.contains '\x00' then return .error .zeroCharacter
  try
    let bytes ← IO.FS.readBinFile path
    return (String.fromUTF8? bytes).elim (.error .notText) .ok
  catch failure => return .error (readFault failure)

/-- The addresses that a name stands for, or why there is none. -/
def lookUpName (name : String) : IO (Except LookupFault (List Address)) := do
  try
    let found ← (DNS.getAddrInfo name "").block
    return .ok (found.toList.map fun
      | .v4 address => .v4 address.octets
      | .v6 address => .v6 address.segments 0)
  catch failure =>
    return .error (match systemCode failure with
      | 22 | 3007 | 3008 => .unknownName
      | 3001 => .noAnswer
      | _ => .other (toString failure))

/-- The address and number in the form that sockets take. -/
def socketAddress (address : Address) (number : UInt16) : Std.Net.SocketAddress :=
  match address with
  | .v4 octets => .v4 ⟨⟨octets⟩, number⟩
  | .v6 groups _ => .v6 ⟨⟨groups⟩, number⟩

/-- A socket that listens, or why there is none. -/
def openListener (address : Address) (number : UInt16) :
    IO (Except Refusal TCP.Socket.Server) := do
  try
    let listener ← TCP.Socket.Server.mk
    listener.bind (socketAddress address number)
    listener.listen 1024
    return .ok listener
  catch failure => return .error (refusal failure)

/-- The leave to listen on an address, given what was refused. -/
def answer (refusals : List (Address × Refusal)) (address : Address) (_ : UInt16) :
    Except Refusal Unit :=
  (refusals.lookup address).elim (.ok ()) .error

/-- What the program will ask of the machine, asked in advance: the file and the name that its
arguments lead to, and a listener for each address behind the name until one is open. -/
def ask (arguments : List String) : IO (Machine × Option TCP.Socket.Server) := do
  let mut machine : Machine :=
    ⟨fun _ => .error .missing, fun _ => .error .unknownName, fun _ _ => .error .notAvailable⟩
  let .ok (.serve options) := CommandLine.parse arguments | return (machine, none)
  if let some path := options.config then
    let text ← readText path
    machine := { machine with read := fun _ => text }
  let .ok config := options.settings Toml.parse? machine.read | return (machine, none)
  let .ok endpoint := Endpoint.parse config.listenAddress | return (machine, none)
  if let .named name := endpoint.host then
    let found ← lookUpName name
    machine := { machine with lookUp := fun _ => found }
  let .ok addresses := endpoint.addresses machine.lookUp | return (machine, none)
  let mut refusals : List (Address × Refusal) := []
  for address in addresses do
    match ← openListener address endpoint.number with
    | .ok listener => return ({ machine with grant := answer refusals }, some listener)
    | .error refusal => refusals := (address, refusal) :: refusals
  return ({ machine with grant := answer refusals }, none)

/-! ## Connections -/

/-- What arrives next. -/
def arrival (client : TCP.Socket.Client) : Async Live.Arrival := do
  try
    let arrived ← client.recv? 65536
    return arrived.elim (.ended none) fun bytes => .bytes bytes.toList
  catch failure => return .ended (some (socketFault failure))

/-- Sends bytes; the answer is why they could not be sent. -/
def send (client : TCP.Socket.Client) (bytes : Bytes) : Async (Option StreamFault) := do
  try
    if !bytes.isEmpty then client.send ⟨bytes.toArray⟩
    return none
  catch failure => return some (socketFault failure)

/-- Carries a session to its end: as `Live.attend` does, with what arrives from the client. -/
partial def carry (client : TCP.Socket.Client) (least : Option Level) (live : Live Cleartext) :
    Async (Except Fault Report × Session Cleartext) := do
  match live.turn? with
  | none => carry client least (live.receive (← arrival client))
  | some turn =>
    tell least turn.events
    let (bytes, session) := turn.session.drain
    match ← send client bytes, turn.ended with
    | some fault, _ => return (.error (.stream fault), session)
    | none, some result => return (result.map session.report, session)
    | none, none => carry client least ⟨session, live.ended⟩

/-- Serves one client. -/
def serveClient (server : Server) (least : Option Level) (client : TCP.Socket.Client) :
    Async Unit := do
  let peer := match ← client.getPeerName with
    | .v4 address => s!"{(Address.v4 address.addr.octets).display}:{address.port}"
    | .v6 address => s!"[{(Address.v6 address.addr.segments 0).display}]:{address.port}"
  tell least [.connectionAccepted peer]
  let (result, session) ← carry client least (.fresh server.config peer Cleartext.fresh)
  let (_, events) := session.leave
  try client.shutdown catch _ => pure ()
  tell least (events ++ [.ofEnd peer result])

/-- Accepts clients for ever, each to be served beside the others. -/
partial def acceptClients (server : Server) (least : Option Level)
    (listener : TCP.Socket.Server) : Async Unit := do
  let client ← listener.accept
  background (serveClient server least client)
  acceptClients server least listener

/-- Does what the arguments ask for; the code tells how it went. -/
def main (arguments : List String) : IO UInt32 := do
  let (machine, listener) ← ask arguments
  match CommandLine.run arguments machine, listener with
  | .leave code shown complained, _ =>
    IO.print shown
    IO.eprint complained
    return UInt32.ofNat code
  | .serve server logLevel, some listener =>
    let filter := (← IO.getEnv CommandLine.logVariable).getD logLevel
    (acceptClients server (Level.ofFilter filter) listener).block
    return 0
  | .serve _ _, none => return 1
