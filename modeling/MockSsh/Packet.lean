import MockSsh.Fault
import MockSsh.Message.Kind
import MockSsh.Bytes

/-!
The binary packet and its frame: a word with the length of what follows it, a byte with the length
of the padding, then the body, which is the message number, the payload and the padding.

`Packet.encode` writes a frame and `Packet.ofFrame` reads a whole one; a stream reads the header
first and hands it to `Packet.ofBody` together with the body.
-/
namespace MockSsh

/-- The first five bytes of a frame. -/
structure Header where
  total : UInt32
  padding : UInt8
deriving DecidableEq, Repr

/-- The number of bytes in a header. -/
def Header.size : Nat := 5

/-- The header in five bytes. -/
def Header.ofBytes (a b c d padding : UInt8) : Header :=
  ⟨decodeWord a b c d, padding⟩

/-- The number of bytes after the header. A total of zero counts like a total of one; neither
leaves room for a message number. -/
def Header.bodyLength (header : Header) : Nat :=
  header.total.toNat - 1

/-- A message number with its payload. Of the padding only the length is kept. -/
structure Packet where
  number : UInt8
  payload : Bytes
  padding : UInt8
deriving DecidableEq, Repr

namespace Packet

/-- The padding of every packet that the server makes. -/
def ownPadding : UInt8 := 4

/-- The default limit for the total length of a packet from the peer. -/
def defaultLimit : Nat := 35000

/-- A packet for any message number, with the server's own padding. -/
def ofNumber (number : UInt8) (payload : Bytes) : Packet :=
  ⟨number, payload, ownPadding⟩

/-- A packet for a known message. -/
def ofKind (kind : Message.Kind) (payload : Bytes) : Packet :=
  ofNumber kind.number payload

/-- The known message that the packet's number stands for. -/
def kind? (packet : Packet) : Option Message.Kind :=
  Message.Kind.ofNumber? packet.number

/-- The length that the frame declares: padding length, number, payload and padding. -/
def totalLength (packet : Packet) : Nat :=
  2 + packet.payload.length + packet.padding.toNat

theorem totalLength_ofKind (kind : Message.Kind) (payload : Bytes) :
    (ofKind kind payload).totalLength = payload.length + 6 := by
  show 2 + payload.length + 4 = _
  omega

/-- The frame of the packet, with zeros for padding. Its length field has 32 bits. -/
def encode (packet : Packet) : Bytes :=
  encodeWord (UInt32.ofNat packet.totalLength) ++ packet.padding :: packet.number ::
    (packet.payload ++ List.replicate packet.padding.toNat 0)

/-- The packet in a body. The padding must leave at least the message number. -/
def ofBody (header : Header) (body : Bytes) : Except Fault Packet :=
  match body with
  | [] => .error (.frame header.padding 0)
  | number :: rest =>
    if rest.length < header.padding.toNat then
      .error (.frame header.padding (rest.length + 1))
    else
      .ok ⟨number, rest.take (rest.length - header.padding.toNat), header.padding⟩

/-- The packet in one complete frame. -/
def ofFrame (frame : Bytes) : Except Fault Packet :=
  match frame with
  | a :: b :: c :: d :: padding :: body =>
    let header := Header.ofBytes a b c d padding
    if body.length < header.bodyLength then
      .error (.protocol (.bodyCut header.bodyLength body.length))
    else if header.bodyLength < body.length then
      .error (.protocol (.bodyTrailing (body.length - header.bodyLength)))
    else
      ofBody header body
  | short => .error (.protocol (.frameCut short.length Header.size))

end Packet
end MockSsh
