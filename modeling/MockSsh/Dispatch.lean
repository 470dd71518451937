import MockSsh.Channel.Table
import MockSsh.Config
import MockSsh.KeyExchange
import MockSsh.Message.Channel
import MockSsh.Message.Service
import MockSsh.Message.Transport

/-!
The answer to one packet. A connection owns a channel table and the flag that its login succeeded;
`dispatch` takes a packet and gives the replies, in order, and whether the conversation goes on.

Which part of the connection a message may touch is visible in the handlers: a handler that takes
only the peer's label cannot change anything. A payload that cannot be read leaves the connection as
it is.
-/
namespace MockSsh

/-- A packet of the peer with its number in the conversation, counted from zero. -/
structure Inbound where
  sequence : UInt32
  packet : Packet
deriving DecidableEq, Repr

/-- What belongs to one connection. -/
structure Connection where
  channels : ChannelTable
  authenticated : Bool
  peer : String
deriving DecidableEq, Repr

/-- A connection on which nothing has happened. -/
def Connection.fresh (policy : ChannelPolicy) (peer : String) : Connection :=
  ⟨.empty policy, false, peer⟩

/-- What follows the replies. -/
inductive Next
  | proceed
  | peerDisconnected (message : Message.Disconnect)
  | policyDisconnect
deriving DecidableEq, Repr

/-- The replies to a packet, in order, and what follows them. -/
structure Answer where
  replies : List Packet
  next : Next
deriving DecidableEq, Repr

namespace Answer

/-- Some replies, and on. -/
def ofReplies (replies : List Packet) : Answer := ⟨replies, .proceed⟩

/-- No reply, and on. -/
def silent : Answer := ofReplies []

/-- One reply, and on. -/
def reply (packet : Packet) : Answer := ofReplies [packet]

end Answer

/-- What a handler gives: the answer or the fault, the connection afterwards, and the events. -/
structure Handled where
  result : Except Fault Answer
  connection : Connection
  events : List Event

namespace Handled

/-- A payload that could not be read. -/
def malformed (connection : Connection) (fault : PayloadFault) : Handled :=
  ⟨.error (.payload fault), connection, []⟩

/-- An answer that leaves the connection as it was. -/
def unchanged (connection : Connection) (answer : Answer) (events : List Event) : Handled :=
  ⟨.ok answer, connection, events⟩

end Handled

namespace Connection

/-- A service is granted whatever its name, even where the name cannot be read. -/
def serviceRequest (connection : Connection) (payload : Bytes) : Handled :=
  let (service, unreadable) := match Message.ServiceRequest.parse payload with
    | .ok request => (request.service, [])
    | .error fault => ("", [Event.serviceUnreadable connection.peer (.payload fault)])
  .unchanged connection (.reply Message.ServiceAccept.login.packet)
    (unreadable ++ [.serviceRequested connection.peer service])

/-- A probe is told that the key would do; every other login request succeeds. -/
def authRequest (connection : Connection) (markers : Markers) (payload : Bytes) : Handled :=
  let kind := markers.classify payload
  let user := (userHint payload).getD ""
  let requested := Event.loginRequested connection.peer user kind
  if kind.authenticates then
    let first := if connection.authenticated then []
      else [Event.authenticated connection.peer user]
    ⟨.ok (.reply Message.authSuccess), { connection with authenticated := true },
      requested :: first⟩
  else
    .unchanged connection (.reply Message.PublicKeyOk.own.packet) [requested]

/-- A channel is always confirmed. -/
def channelOpen (connection : Connection) (payload : Bytes) : Handled :=
  match Message.ChannelOpen.parse payload with
  | .error fault => .malformed connection fault
  | .ok message =>
    let opening := connection.channels.openChannel message.sender
    let confirmation : Message.ChannelOpenConfirmation :=
      ⟨message.sender, opening.localId, Message.ChannelOpenConfirmation.ownLimit,
        Message.ChannelOpenConfirmation.ownLimit⟩
    ⟨.ok (.reply confirmation.packet), { connection with channels := opening.table },
      opening.events ++ [.channelOpened connection.peer message.channelType message.sender
        opening.localId]⟩

/-- A request succeeds where the peer wants to know. A command ends at once with exit code zero,
and its channel with it. -/
def channelRequest (connection : Connection) (payload : Bytes) : Handled :=
  match Message.ChannelRequest.parse payload with
  | .error fault => .malformed connection fault
  | .ok message =>
    let recipient := message.recipient
    let wanted := if message.wantReply then [Message.ChannelSuccess.packet ⟨recipient⟩] else []
    if message.isExec then
      ⟨.ok (.ofReplies (wanted ++ [(Message.ChannelRequest.exitStatus recipient 0).packet,
          Message.ChannelClose.packet ⟨recipient⟩])),
        { connection with channels := (connection.channels.close recipient).2 },
        [.execRequested connection.peer recipient (message.command?.getD "")]⟩
    else
      .unchanged connection (.ofReplies wanted)
        [.channelRequested connection.peer recipient message.requestType message.wantReply]

/-- Data comes back on the same channel, known or not. -/
def channelData (connection : Connection) (payload : Bytes) : Handled :=
  match Message.ChannelData.parse payload with
  | .error fault => .malformed connection fault
  | .ok message =>
    let unknown := if (connection.channels.lookup message.recipient).isNone then
      [Event.dataOnUnknownChannel connection.peer message.recipient] else []
    .unchanged connection (.reply message.packet)
      (unknown ++ [.dataEchoed connection.peer message.recipient message.data.length])

/-- A close is not answered. -/
def channelClose (connection : Connection) (payload : Bytes) : Handled :=
  match Message.ChannelClose.parse payload with
  | .error fault => .malformed connection fault
  | .ok message =>
    let (closed, channels) := connection.channels.close message.recipient
    ⟨.ok .silent, { connection with channels },
      [if closed.isSome then .channelClosed connection.peer message.recipient
        else .closeOfUnknownChannel connection.peer message.recipient]⟩

/-- The peer's goodbye ends the conversation without a reply. -/
def disconnect (connection : Connection) (payload : Bytes) : Handled :=
  match Message.Disconnect.parse payload with
  | .error fault => .malformed connection fault
  | .ok message =>
    .unchanged connection ⟨[], .peerDisconnected message⟩
      [.peerDisconnected connection.peer message.reason message.description]

/-- What happens to a message without an answer of its own. -/
def unsupported (connection : Connection) (policy : UnsupportedPolicy) (inbound : Inbound) :
    Handled :=
  let number := inbound.packet.number
  match policy with
  | .ignore => .unchanged connection .silent [.unsupportedIgnored connection.peer number]
  | .unimplemented =>
    .unchanged connection (.reply (Message.Unimplemented.packet ⟨inbound.sequence⟩))
      [.unsupportedRefused connection.peer number inbound.sequence]
  | .disconnect =>
    let farewell : Message.Disconnect :=
      ⟨Message.Disconnect.protocolError, "unsupported message " ++ Message.describe number, ""⟩
    .unchanged connection ⟨[farewell.packet], .policyDisconnect⟩
      [.unsupportedEnds connection.peer number]

end Connection

/-- What decides the answers: two settings and the state of the key exchange. -/
structure Dispatcher (κ : Type) where
  unsupportedPolicy : UnsupportedPolicy
  markers : Markers
  exchange : κ

namespace Dispatcher

variable {κ : Type} [KeyExchange κ]

/-- A dispatcher for a server's settings. -/
def ofConfig (config : Config) (exchange : κ) : Dispatcher κ :=
  ⟨config.unsupportedPolicy, config.markers, exchange⟩

/-- What dispatching gives: what a handler gives, and the dispatcher afterwards. -/
structure Outcome (κ : Type) extends Handled where
  dispatcher : Dispatcher κ

/-- The answer to the peer's opening of a key exchange. -/
def keyExchangeInit (dispatcher : Dispatcher κ) (connection : Connection) (payload : Bytes) :
    Outcome κ :=
  let (answer, exchange) := KeyExchange.answerInit dispatcher.exchange payload
  let handled : Handled := match answer with
    | .error fault => ⟨.error fault, connection, []⟩
    | .ok bytes => .unchanged connection (.reply (.ofKind .keyExchangeInit bytes))
        [.keyExchangeAnswered connection.peer (KeyExchange.name exchange)]
  { handled with dispatcher := { dispatcher with exchange } }

/-- The answer to the peer's new keys. -/
def newKeys (dispatcher : Dispatcher κ) (connection : Connection) : Outcome κ :=
  let (answer, exchange) := KeyExchange.answerNewKeys dispatcher.exchange
  let handled : Handled := match answer with
    | .error fault => ⟨.error fault, connection, []⟩
    | .ok bytes => .unchanged connection (.reply (.ofKind .newKeys bytes)) []
  { handled with dispatcher := { dispatcher with exchange } }

/-- The answer to a message that concerns no key exchange. -/
def answer (dispatcher : Dispatcher κ) (connection : Connection) (inbound : Inbound) : Handled :=
  let payload := inbound.packet.payload
  match inbound.packet.kind? with
  | none => connection.unsupported dispatcher.unsupportedPolicy inbound
  | some .serviceRequest => connection.serviceRequest payload
  | some .authRequest => connection.authRequest dispatcher.markers payload
  | some .channelOpen => connection.channelOpen payload
  | some .channelRequest => connection.channelRequest payload
  | some .channelData => connection.channelData payload
  | some .channelClose => connection.channelClose payload
  | some .disconnect => connection.disconnect payload
  | some kind =>
    if kind.isSilent then
      .unchanged connection .silent [.consumedSilently connection.peer kind]
    else
      connection.unsupported dispatcher.unsupportedPolicy inbound

/-- The answer to a packet. -/
def dispatch (dispatcher : Dispatcher κ) (connection : Connection) (inbound : Inbound) :
    Outcome κ :=
  match inbound.packet.kind? with
  | some .keyExchangeInit => dispatcher.keyExchangeInit connection inbound.packet.payload
  | some .newKeys => dispatcher.newKeys connection
  | _ => { dispatcher.answer connection inbound with dispatcher }

/-- The dispatcher as a diagnostic shows it. -/
def display (dispatcher : Dispatcher κ) : String :=
  let policy := dispatcher.unsupportedPolicy.name
  let probe := Text.quoted dispatcher.markers.probe
  let signed := Text.quoted dispatcher.markers.signed
  let exchange := Text.quoted (KeyExchange.name dispatcher.exchange)
  "MessageDispatcher \x7b unknown_policy: " ++ policy ++ ", markers: AuthMarkers \x7b probe: "
    ++ probe ++ ", signed: " ++ signed ++ " \x7d, kex: " ++ exchange ++ " \x7d"

end Dispatcher
end MockSsh
