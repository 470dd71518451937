import MockSsh.Endpoint.Fault
import MockSsh.Text.Quoted

/-!
What can go wrong, by cause. A cause names the values that its wording shows; the wording itself is
in one function for each kind. `Fault.isPeerFault` tells the faults that bytes of the peer caused
from those of this side: its streams, its files and its settings.
-/
namespace MockSsh

/-- How an operation on a stream failed: the kinds that are told apart or that occur in diagnostics,
and any other by its name. -/
inductive StreamFault.Kind
  | unexpectedEnd
  | connectionReset
  | connectionAborted
  | brokenPipe
  | notConnected
  | timedOut
  | permissionDenied
  | writeZero
  | other (name : String)
deriving DecidableEq, Repr

/-- The kind's name in diagnostics. -/
def StreamFault.Kind.name : StreamFault.Kind → String
  | unexpectedEnd => "UnexpectedEof"
  | connectionReset => "ConnectionReset"
  | connectionAborted => "ConnectionAborted"
  | brokenPipe => "BrokenPipe"
  | notConnected => "NotConnected"
  | timedOut => "TimedOut"
  | permissionDenied => "PermissionDenied"
  | writeZero => "WriteZero"
  | other name => name

/-- A failed operation on a stream, with the words in which it was told. -/
structure StreamFault where
  kind : StreamFault.Kind
  text : String
deriving DecidableEq, Repr

/-- Whether the failure only says that the other end is gone. -/
def StreamFault.isClosed (fault : StreamFault) : Bool :=
  match fault.kind with
  | .unexpectedEnd | .connectionReset | .connectionAborted | .brokenPipe => true
  | _ => false

/-- Why a path gives no text. -/
inductive ReadFault
  | notPermitted
  | missing
  | failed
  | noDevice
  | denied
  | notDirectory
  | isDirectory
  | invalid
  | nameTooLong
  | tooManyLinks
  | zeroCharacter
  | notText
  | other (text : String)
deriving DecidableEq, Repr

/-- The words for the cause. -/
def ReadFault.message : ReadFault → String
  | notPermitted => "Operation not permitted (os error 1)"
  | missing => "No such file or directory (os error 2)"
  | failed => "Input/output error (os error 5)"
  | noDevice => "No such device or address (os error 6)"
  | denied => "Permission denied (os error 13)"
  | notDirectory => "Not a directory (os error 20)"
  | isDirectory => "Is a directory (os error 21)"
  | invalid => "Invalid argument (os error 22)"
  | nameTooLong => "File name too long (os error 36)"
  | tooManyLinks => "Too many levels of symbolic links (os error 40)"
  | zeroCharacter => "file name contained an unexpected NUL byte"
  | notText => "stream did not contain valid UTF-8"
  | other text => text

/-- Settings that cannot be used, or cannot be had. -/
inductive ConfigFault
  | emptyListenAddress
  | emptyServerVersion
  | serverVersionCharacter (version : String)
  | identificationLimit
  | packetLimit (least : Nat)
  | unreadable (path : String) (reason : ReadFault)
  | malformedDocument
  | other (text : String)
deriving DecidableEq, Repr

/-- The words for the cause. -/
def ConfigFault.message : ConfigFault → String
  | emptyListenAddress => "listen_addr cannot be empty"
  | emptyServerVersion => "server_version cannot be empty"
  | serverVersionCharacter version =>
    s!"server_version '{Text.escape version}' may not contain spaces, dashes or line breaks"
  | identificationLimit =>
    "max_identification_length must leave room for a CR LF terminated line"
  | packetLimit least => s!"max_packet_length must be at least {least}"
  | unreadable path reason => s!"cannot read {path}: {reason.message}"
  | malformedDocument => "invalid TOML: this is no document of settings"
  | other text => text

/-- A breach of the protocol outside the fields of a payload. -/
inductive ProtocolFault
  | notIdentification (line : String)
  | missingSoftwareField (line : String)
  | emptySoftware (line : String)
  | frameCut (size least : Nat)
  | bodyCut (expected got : Nat)
  | bodyTrailing (count : Nat)
  | sessionClosed
  | other (text : String)
deriving DecidableEq, Repr

/-- The words for the cause. -/
def ProtocolFault.message : ProtocolFault → String
  | notIdentification line => s!"Invalid version string: must start with 'SSH-', got '{line}'"
  | missingSoftwareField line => s!"Invalid version string format: '{line}'"
  | emptySoftware line => s!"Missing software version: '{line}'"
  | frameCut size least => s!"Packet too short: {size} bytes (minimum {least})"
  | bodyCut expected got => s!"Incomplete packet: expected {expected} body bytes, got {got}"
  | bodyTrailing count => s!"Trailing data: {count} bytes after packet"
  | sessionClosed => "session already closed"
  | other text => text

/-- A payload that does not hold the fields of its message. -/
inductive PayloadFault
  | wordCut (offset size : Nat)
  | flagCut (offset size : Nat)
  | stringCut (length offset size : Nat)
  | trailing (count : Nat)
  | other (text : String)
deriving DecidableEq, Repr

/-- The words for the cause. -/
def PayloadFault.message : PayloadFault → String
  | wordCut offset size => s!"cannot read uint32 at offset {offset} of {size}-byte payload"
  | flagCut offset size => s!"cannot read boolean at offset {offset} of {size}-byte payload"
  | stringCut length offset size =>
    s!"string of {length} bytes at offset {offset} exceeds payload of {size} bytes"
  | trailing count => s!"{count} trailing bytes after PK_OK"
  | other text => text

/-- Any failure of the server. -/
inductive Fault
  | stream (cause : StreamFault)
  | endpoint (cause : EndpointFault)
  | config (cause : ConfigFault)
  | protocol (cause : ProtocolFault)
  | frame (padding : UInt8) (bodyLength : Nat)
  | payload (cause : PayloadFault)
  | identificationTooLong (length : Nat)
  | packetTooLarge (length limit : Nat)
deriving DecidableEq, Repr

namespace Fault

/-- The words for a fault, as logs and answers show them. -/
def message : Fault → String
  | stream cause => s!"IO error: {cause.text}"
  | endpoint cause => s!"IO error: {cause.message}"
  | config cause => s!"Configuration error: {cause.message}"
  | protocol cause => s!"Protocol error: {cause.message}"
  | frame padding bodyLength =>
    s!"Frame decode error: padding length {padding.toNat} does not fit in body of {bodyLength} bytes"
  | payload cause => s!"Malformed payload: {cause.message}"
  | identificationTooLong length => s!"Identification line exceeds {length} bytes"
  | packetTooLarge length limit => s!"Packet too large: {length} bytes (maximum {limit})"

/-- Whether bytes that the peer sent are to blame. -/
def isPeerFault : Fault → Bool
  | stream _ | endpoint _ | config _ => false
  | protocol _ | frame _ _ | payload _ | identificationTooLong _ | packetTooLarge _ _ => true

/-- Whether the fault passes on a failure of something below it. -/
def hasSource : Fault → Bool
  | stream _ | endpoint _ => true
  | _ => false

/-- The fault as an administrator sees it when the server does not start. -/
def diagnostic : Fault → String
  | stream cause =>
    s!"Io(Error \x7b kind: {cause.kind.name}, message: {Text.quoted cause.text} \x7d)"
  | endpoint cause => s!"Io({cause.diagnostic})"
  | config cause => s!"Config({Text.quoted cause.message})"
  | protocol cause => s!"Protocol({Text.quoted cause.message})"
  | frame padding bodyLength =>
    s!"FrameDecode \x7b padding_length: {padding.toNat}, body_length: {bodyLength} \x7d"
  | payload cause => s!"MalformedPayload({Text.quoted cause.message})"
  | identificationTooLong length => s!"IdentificationTooLong({length})"
  | packetTooLarge length limit =>
    s!"PacketTooLarge \x7b length: {length}, max: {limit} \x7d"

end Fault
end MockSsh
