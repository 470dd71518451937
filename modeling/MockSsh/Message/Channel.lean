import MockSsh.Message.Cursor
import MockSsh.Packet

/-!
The messages about channels. Parsers ignore what stands after the last field that they know, except
that a request keeps it raw, because its meaning depends on the kind of request.
-/
namespace MockSsh.Message

/-- The request to open a channel, with the number that the sender gives to it. Clients may leave
out the last field, or the last two. -/
structure ChannelOpen where
  channelType : String
  sender : UInt32
  window : Option UInt32
  maxPacket : Option UInt32
deriving DecidableEq, Repr

/-- The two optional fields are read for as long as they are there. -/
def ChannelOpen.parse (payload : Bytes) : Except PayloadFault ChannelOpen := do
  let (channelType, cursor) ← (Cursor.start payload).text
  let (sender, cursor) ← cursor.word
  match cursor.word with
  | .error _ => return ⟨channelType, sender, none, none⟩
  | .ok (window, cursor) =>
    match cursor.word with
    | .error _ => return ⟨channelType, sender, some window, none⟩
    | .ok (maxPacket, _) => return ⟨channelType, sender, some window, some maxPacket⟩

/-- The statement that a channel is open, with the numbers of both sides. -/
structure ChannelOpenConfirmation where
  recipient : UInt32
  sender : UInt32
  window : UInt32
  maxPacket : UInt32
deriving DecidableEq, Repr

namespace ChannelOpenConfirmation

/-- The window, and the largest packet, that the server offers on every channel. -/
def ownLimit : UInt32 := 32768

/-- The fields: the recipient's number, the sender's, the window, the largest packet. -/
def payload (message : ChannelOpenConfirmation) : Bytes :=
  encodeWord message.recipient ++ encodeWord message.sender ++ encodeWord message.window
    ++ encodeWord message.maxPacket

/-- The message as the server sends it. -/
def packet (message : ChannelOpenConfirmation) : Packet :=
  .ofKind .channelOpenConfirmation message.payload

/-- Reads the four fields. -/
def parse (payload : Bytes) : Except PayloadFault ChannelOpenConfirmation := do
  let (recipient, cursor) ← (Cursor.start payload).word
  let (sender, cursor) ← cursor.word
  let (window, cursor) ← cursor.word
  let (maxPacket, _) ← cursor.word
  return ⟨recipient, sender, window, maxPacket⟩

end ChannelOpenConfirmation

/-- Data on a channel. -/
structure ChannelData where
  recipient : UInt32
  data : Bytes
deriving DecidableEq, Repr

namespace ChannelData

/-- The fields: the recipient's number and the data as a string. -/
def payload (message : ChannelData) : Bytes :=
  encodeWord message.recipient ++ encodeString message.data

/-- The message as the server sends it. -/
def packet (message : ChannelData) : Packet :=
  .ofKind .channelData message.payload

/-- Reads the two fields. -/
def parse (payload : Bytes) : Except PayloadFault ChannelData := do
  let (recipient, cursor) ← (Cursor.start payload).word
  let (data, _) ← cursor.string
  return ⟨recipient, data⟩

end ChannelData

/-- The end of a channel. -/
structure ChannelClose where
  recipient : UInt32
deriving DecidableEq, Repr

namespace ChannelClose

/-- The message as the server sends it. -/
def packet (message : ChannelClose) : Packet :=
  .ofKind .channelClose (encodeWord message.recipient)

/-- Reads the recipient's number. -/
def parse (payload : Bytes) : Except PayloadFault ChannelClose := do
  let (recipient, _) ← (Cursor.start payload).word
  return ⟨recipient⟩

end ChannelClose

/-- A request on a channel, of any type, with the fields of that type kept raw. -/
structure ChannelRequest where
  recipient : UInt32
  requestType : String
  wantReply : Bool
  details : Bytes
deriving DecidableEq, Repr

namespace ChannelRequest

/-- The statement of a program's exit code; it never wants a reply. -/
def exitStatus (recipient status : UInt32) : ChannelRequest :=
  ⟨recipient, "exit-status", false, encodeWord status⟩

/-- Whether the request runs a command. -/
def isExec (message : ChannelRequest) : Bool :=
  message.requestType == "exec"

/-- The command to run, if the request runs one and names it. -/
def command? (message : ChannelRequest) : Option String :=
  if message.isExec then
    (Cursor.start message.details).text.toOption.map Prod.fst
  else
    none

/-- The exit code, if the request states one. -/
def exitCode? (message : ChannelRequest) : Option UInt32 :=
  if message.requestType == "exit-status" then
    (Cursor.start message.details).word.toOption.map Prod.fst
  else
    none

/-- The fields: the recipient's number, the type, whether a reply is wanted, the details. -/
def payload (message : ChannelRequest) : Bytes :=
  encodeWord message.recipient ++ encodeText message.requestType
    ++ encodeFlag message.wantReply ++ message.details

/-- The message as the server sends it. -/
def packet (message : ChannelRequest) : Packet :=
  .ofKind .channelRequest message.payload

/-- Reads the first three fields and takes all the rest for details. -/
def parse (payload : Bytes) : Except PayloadFault ChannelRequest := do
  let (recipient, cursor) ← (Cursor.start payload).word
  let (requestType, cursor) ← cursor.text
  let (wantReply, cursor) ← cursor.flag
  return ⟨recipient, requestType, wantReply, cursor.rest⟩

end ChannelRequest

/-- The statement that a request on a channel succeeded. -/
structure ChannelSuccess where
  recipient : UInt32
deriving DecidableEq, Repr

/-- The message as the server sends it. -/
def ChannelSuccess.packet (message : ChannelSuccess) : Packet :=
  .ofKind .channelSuccess (encodeWord message.recipient)

end MockSsh.Message
