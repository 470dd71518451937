import MockSsh.Authentication
import MockSsh.Message.Kind
import MockSsh.Packet

/-!
The events of a connection, for its log. An event is a value; `level`, `message` and `fields` say
how a log shows it. Text from the peer is shown escaped, or was checked, where the field could
otherwise break a log line: see `fields`.
-/
namespace MockSsh

/-- How much an event matters. -/
inductive Level
  | trace
  | debug
  | info
  | warn
deriving DecidableEq, Repr

/-- The level's name in a log. -/
def Level.name : Level → String
  | trace => "TRACE"
  | debug => "DEBUG"
  | info => "INFO"
  | warn => "WARN"

/-- The place of the level among the others, the least first. -/
def Level.rank : Level → Nat
  | trace => 0
  | debug => 1
  | info => 2
  | warn => 3

/-- The least level that a log filter lets through, if it lets one of these through. In a list with
commas the last level counts; names of parts of the program are passed over. -/
def Level.ofFilter (filter : String) : Option Level :=
  let levels : List (Option Level) := (filter.splitOn ",").filterMap fun item =>
    match item.toLower with
    | "trace" | "5" => some (some trace)
    | "debug" | "4" => some (some debug)
    | "info" | "3" => some (some info)
    | "warn" | "2" => some (some warn)
    | "error" | "1" | "off" | "0" => some none
    | _ => none
  levels.getLast?.join

/-- The value of a field. -/
inductive FieldValue
  | text (value : String)
  | number (value : Nat)
  | flag (value : Bool)
deriving DecidableEq, Repr

/-- Something worth telling about a connection. Nearly every event carries the peer's label. -/
inductive Event
  | connectionAccepted (peer : String)
  | versionsExchanged (peer line : String) (software : Option String)
  | packetReceived (peer : String) (sequence : UInt32) (number : UInt8) (length : Nat)
  | inboundPayload (peer : String) (payload : Bytes)
  | packetSent (peer : String) (number : UInt8) (length : Nat)
  | outboundPayload (peer : String) (payload : Bytes)
  | connectionClosed (peer reason : String) (received sent : UInt32)
  | connectionAborted (peer : String) (fault : Fault)
  | shutdownFailed (peer : String) (fault : Fault)
  | keyExchangeAnswered (peer exchange : String)
  | serviceUnreadable (peer : String) (fault : Fault)
  | serviceRequested (peer service : String)
  | loginRequested (peer user : String) (kind : LoginKind)
  | authenticated (peer user : String)
  | channelReopened (peerId localId : UInt32)
  | localIdShared (peerId localId : UInt32)
  | channelOpened (peer channelType : String) (peerId localId : UInt32)
  | execRequested (peer : String) (channel : UInt32) (command : String)
  | channelRequested (peer : String) (channel : UInt32) (requestType : String) (wantReply : Bool)
  | dataOnUnknownChannel (peer : String) (channel : UInt32)
  | dataEchoed (peer : String) (channel : UInt32) (length : Nat)
  | channelClosed (peer : String) (channel : UInt32)
  | closeOfUnknownChannel (peer : String) (channel : UInt32)
  | peerDisconnected (peer : String) (reason : UInt32) (description : String)
  | consumedSilently (peer : String) (kind : Message.Kind)
  | unsupportedIgnored (peer : String) (number : UInt8)
  | unsupportedRefused (peer : String) (number : UInt8) (sequence : UInt32)
  | unsupportedEnds (peer : String) (number : UInt8)
deriving DecidableEq, Repr

/-- How many bytes of a payload a log shows. -/
def previewLength : Nat := 32

/-- The beginning of a payload in hexadecimal, with two dots if that is not all of it. -/
def preview (payload : Bytes) : String :=
  if previewLength < payload.length then
    Bytes.hex (payload.take previewLength) ++ ".."
  else
    Bytes.hex payload

namespace Event

/-- How much the event matters: payloads least, then single messages, then what happens to a
connection as a whole, then its failure. -/
def level : Event → Level
  | inboundPayload .. | outboundPayload .. => .trace
  | packetReceived .. | packetSent .. | shutdownFailed .. | keyExchangeAnswered ..
  | serviceUnreadable .. | serviceRequested .. | loginRequested .. | channelReopened ..
  | localIdShared .. | channelRequested .. | dataOnUnknownChannel .. | dataEchoed ..
  | closeOfUnknownChannel .. | consumedSilently .. | unsupportedIgnored ..
  | unsupportedRefused .. => .debug
  | connectionAccepted .. | versionsExchanged .. | connectionClosed .. | authenticated ..
  | channelOpened .. | execRequested .. | channelClosed .. | peerDisconnected ..
  | unsupportedEnds .. => .info
  | connectionAborted .. => .warn

/-- The event in words. -/
def message : Event → String
  | connectionAccepted .. => "Connection accepted"
  | versionsExchanged .. => "Version exchange complete"
  | packetReceived .. => "Packet received"
  | inboundPayload .. => "Inbound payload"
  | packetSent .. => "Packet sent"
  | outboundPayload .. => "Outbound payload"
  | connectionClosed .. => "Connection closed"
  | connectionAborted .. => "Connection aborted"
  | shutdownFailed .. => "Shutdown failed"
  | keyExchangeAnswered .. => "KEXINIT answered"
  | serviceUnreadable .. => "Unreadable service name"
  | serviceRequested .. => "Service request"
  | loginRequested .. => "Authentication request"
  | authenticated .. => "Authenticated"
  | channelReopened .. => "Peer reopened a live channel id"
  | localIdShared .. => "Local channel id shared by several channels"
  | channelOpened .. => "Channel opened"
  | execRequested .. => "Exec request"
  | channelRequested .. => "Channel request"
  | dataOnUnknownChannel .. => "Data on unknown channel"
  | dataEchoed .. => "Echoing data"
  | channelClosed .. => "Channel closed by peer"
  | closeOfUnknownChannel .. => "Close for unknown channel"
  | peerDisconnected .. => "Peer disconnected"
  | consumedSilently .. => "Consumed without reply"
  | unsupportedIgnored .. => "Ignoring unsupported message"
  | unsupportedRefused .. => "Replying UNIMPLEMENTED"
  | unsupportedEnds .. => "Disconnecting on unsupported message"

open FieldValue in
/-- The event's named values. The identification line is shown escaped and a user's name holds no
control character; a service, a command and a description are shown as the peer sent them. -/
def fields : Event → List (String × FieldValue)
  | connectionAccepted peer => [("peer", text peer)]
  | versionsExchanged peer line software =>
    [("peer", text peer), ("peer_version", text (Text.escape line)),
      ("software", text (software.getD "-"))]
  | packetReceived peer sequence packetNumber length =>
    [("peer", text peer), ("seq", number sequence.toNat),
      ("msg_type", text (Message.describe packetNumber)), ("len", number length)]
  | packetSent peer packetNumber length =>
    [("peer", text peer), ("msg_type", text (Message.describe packetNumber)),
      ("len", number length)]
  | inboundPayload peer payload | outboundPayload peer payload =>
    [("peer", text peer), ("payload", text (preview payload))]
  | connectionClosed peer reason received sent =>
    [("peer", text peer), ("reason", text reason), ("packets_received", number received.toNat),
      ("packets_sent", number sent.toNat)]
  | connectionAborted peer fault =>
    [("peer", text peer), ("error", text fault.message), ("peer_fault", flag fault.isPeerFault)]
  | shutdownFailed peer fault | serviceUnreadable peer fault =>
    [("peer", text peer), ("error", text fault.message)]
  | keyExchangeAnswered peer exchange => [("peer", text peer), ("kex", text exchange)]
  | serviceRequested peer service => [("peer", text peer), ("service", text service)]
  | loginRequested peer user kind =>
    [("peer", text peer), ("user", text user), ("kind", text kind.name)]
  | authenticated peer user => [("peer", text peer), ("user", text user)]
  | channelReopened peerId localId | localIdShared peerId localId =>
    [("peer_id", number peerId.toNat), ("local_id", number localId.toNat)]
  | channelOpened peer channelType peerId localId =>
    [("peer", text peer), ("channel_type", text channelType), ("channel", number peerId.toNat),
      ("local_channel", number localId.toNat)]
  | execRequested peer channel command =>
    [("peer", text peer), ("channel", number channel.toNat), ("command", text command)]
  | channelRequested peer channel requestType wantReply =>
    [("peer", text peer), ("channel", number channel.toNat), ("request", text requestType),
      ("want_reply", flag wantReply)]
  | dataOnUnknownChannel peer channel | channelClosed peer channel
  | closeOfUnknownChannel peer channel =>
    [("peer", text peer), ("channel", number channel.toNat)]
  | dataEchoed peer channel length =>
    [("peer", text peer), ("channel", number channel.toNat), ("len", number length)]
  | peerDisconnected peer reason description =>
    [("peer", text peer), ("reason", number reason.toNat), ("description", text description)]
  | consumedSilently peer kind => [("peer", text peer), ("msg_type", text kind.label)]
  | unsupportedIgnored peer packetNumber | unsupportedEnds peer packetNumber =>
    [("peer", text peer), ("msg_type", text (Message.describe packetNumber))]
  | unsupportedRefused peer packetNumber sequence =>
    [("peer", text peer), ("msg_type", text (Message.describe packetNumber)),
      ("seq", number sequence.toNat)]

/-- The event on one line. -/
def line (event : Event) : String :=
  let shown := event.fields.map fun entry => match entry.2 with
    | .text value => entry.1 ++ "=" ++ value
    | .number value => entry.1 ++ "=" ++ toString value
    | .flag value => entry.1 ++ "=" ++ toString value
  " ".intercalate (event.level.name :: event.message :: shown)

/-- What a log says about a packet from the peer. -/
def received (peer : String) (sequence : UInt32) (packet : Packet) : List Event :=
  [packetReceived peer sequence packet.number packet.payload.length,
    inboundPayload peer packet.payload]

/-- What a log says about a packet to the peer. -/
def sent (peer : String) (packet : Packet) : List Event :=
  [packetSent peer packet.number packet.payload.length, outboundPayload peer packet.payload]

end Event
end MockSsh
