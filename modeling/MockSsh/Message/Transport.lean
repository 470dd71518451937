import MockSsh.Message.Cursor
import MockSsh.Packet

/-!
The two messages about the conversation itself: leaving it, and refusing one packet of it.
-/
namespace MockSsh.Message

/-- The announcement that the sender leaves. -/
structure Disconnect where
  reason : UInt32
  description : String
  language : String
deriving DecidableEq, Repr

namespace Disconnect

/-- The reason code for a breach of the protocol. -/
def protocolError : UInt32 := 2

/-- The fields: the reason, the description and its language. -/
def payload (message : Disconnect) : Bytes :=
  encodeWord message.reason ++ encodeText message.description ++ encodeText message.language

/-- The message as the server sends it. -/
def packet (message : Disconnect) : Packet :=
  .ofKind .disconnect message.payload

/-- Fields may be left out from the end, but not cut short. -/
def parse (payload : Bytes) : Except PayloadFault Disconnect :=
  if payload.isEmpty then
    .ok ⟨0, "", ""⟩
  else do
    let (reason, cursor) ← (Cursor.start payload).word
    if cursor.rest.isEmpty then
      return ⟨reason, "", ""⟩
    else
      let (description, cursor) ← cursor.text
      if cursor.rest.isEmpty then
        return ⟨reason, description, ""⟩
      else
        let (language, _) ← cursor.text
        return ⟨reason, description, language⟩

end Disconnect

/-- The refusal of one packet, named by its sequence number. -/
structure Unimplemented where
  sequence : UInt32
deriving DecidableEq, Repr

namespace Unimplemented

/-- The message as the server sends it. -/
def packet (message : Unimplemented) : Packet :=
  .ofKind .unimplemented (encodeWord message.sequence)

/-- Reads the sequence number. -/
def parse (payload : Bytes) : Except PayloadFault Unimplemented := do
  let (sequence, _) ← (Cursor.start payload).word
  return ⟨sequence⟩

end Unimplemented
end MockSsh.Message
