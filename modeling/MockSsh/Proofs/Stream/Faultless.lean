import MockSsh.Session
import MockSsh.Proofs.Stream.Frames

/-!
Streams that meet no fault. Where no write and no flush fails, every write is taken as a whole, so that
what a transport does is told by what passed over it: `Transport.after` is the transport after some
reads and some packets sent, and `sendReplies_of_accepting` says that replies are sent to the last one.
-/
namespace MockSsh

/-- Every byte is accepted and pushed out, however the bytes to come end. -/
structure Stream.Accepting (stream : Stream) : Prop where
  room : stream.room = none
  flush : stream.flushFault = none

/-- The bytes end in an orderly way, and no write, flush or shutdown fails. -/
structure Stream.Faultless (stream : Stream) : Prop where
  ending : stream.ending = none
  room : stream.room = none
  flush : stream.flushFault = none
  shutdown : stream.shutdownFault = none

theorem Stream.Faultless.accepting {stream : Stream} (h : stream.Faultless) : stream.Accepting :=
  ⟨h.room, h.flush⟩

/-- A stream that delivers the chunks and then ends, and accepts everything. -/
def Stream.ofChunks (chunks : List Bytes) : Stream :=
  { Stream.ofInput [] with chunks }

theorem Stream.faultless_ofChunks (chunks : List Bytes) : (Stream.ofChunks chunks).Faultless :=
  ⟨rfl, rfl, rfl, rfl⟩

namespace Transport

/-- The transport after bytes were written and pushed out. -/
def wrote (transport : Transport) (bytes : Bytes) : Transport :=
  { transport with
    stream := { transport.stream with
      written := transport.stream.written ++ bytes
      flushes := transport.stream.flushes + 1 }
    bytesWritten := transport.bytesWritten + bytes.length }

/-- The transport after packets were sent. -/
def sent (transport : Transport) (packets : List Packet) : Transport :=
  { transport with
    stream := { transport.stream with
      written := transport.stream.written ++ packets.flatMap Packet.encode
      flushes := transport.stream.flushes + packets.length }
    packetsSent := transport.packetsSent + UInt32.ofNat packets.length
    bytesWritten := transport.bytesWritten + (packets.flatMap Packet.encode).length }

/-- The transport once `received` packets have come and `replies` were sent, with `rest` still to
come. -/
def after (transport : Transport) (counted received : Nat) (replies : List Packet) (rest : Bytes) :
    Transport :=
  { (transport.advance rest counted).sent replies with
    packetsReceived := UInt32.ofNat received }

theorem sent_nil (transport : Transport) : transport.sent [] = transport := by
  simp [sent]

theorem sent_cons (transport : Transport) (packet : Packet) (packets : List Packet) :
    { transport.wrote packet.encode with packetsSent := transport.packetsSent + 1 }.sent packets
      = transport.sent (packet :: packets) := by
  have hcount : transport.packetsSent + 1 + UInt32.ofNat packets.length
      = transport.packetsSent + UInt32.ofNat (packets.length + 1) := by
    rw [UInt32.ofNat_add, UInt32.add_assoc, UInt32.add_comm 1]
    rfl
  simp only [sent, wrote, hcount, List.flatMap_cons, List.length_append, List.length_cons,
    List.append_assoc, Nat.add_assoc, Nat.add_comm 1]

theorem pending_after (transport : Transport) (counted received : Nat) (replies : List Packet)
    (rest : Bytes) : (transport.after counted received replies rest).stream.pending = rest :=
  pending_advance transport rest counted

theorem after_after (transport : Transport) (counted more received later : Nat)
    (replies others : List Packet) (rest last : Bytes) :
    (transport.after counted received replies rest).after more later others last
      = transport.after (counted + more) later (replies ++ others) last := by
  simp only [after, sent, advance, List.flatMap_append, List.length_append, List.append_assoc,
    Nat.add_assoc, UInt32.ofNat_add, UInt32.add_assoc]

section Accepting

variable {transport : Transport} (h : transport.stream.Accepting)
include h

theorem writeBytes_of_accepting (bytes : Bytes) :
    transport.writeBytes bytes = (.ok (), transport.wrote bytes) := by
  simp only [writeBytes, Stream.write, Stream.flush, Stream.nextFlush_of_none, wrote, h.room, h.flush]

theorem writePacket_of_accepting (packet : Packet) :
    transport.writePacket packet =
      (.ok (), { transport.wrote packet.encode with
        packetsSent := transport.packetsSent + 1 }) := by
  simp only [writePacket, writeBytes_of_accepting h, wrote]

/-- **Replies** are sent in their order, to the last one. -/
theorem sendReplies_of_accepting (peer : String) (replies : List Packet) :
    Session.sendReplies peer replies transport =
      (.ok (), transport.sent replies, replies.flatMap (Event.sent peer)) := by
  induction replies generalizing transport with
  | nil =>
    rw [sent_nil]
    rfl
  | cons packet rest ih =>
    have hnext : ({ transport.wrote packet.encode with
        packetsSent := transport.packetsSent + 1 } : Transport).stream.Accepting :=
      ⟨h.room, h.flush⟩
    simp only [Session.sendReplies, writePacket_of_accepting h]
    rw [ih hnext, sent_cons]
    rfl

end Accepting

section Faultless

variable {transport : Transport} (h : transport.stream.Faultless)
include h

theorem faultless_after (counted received : Nat) (replies : List Packet) (rest : Bytes) :
    (transport.after counted received replies rest).stream.Faultless :=
  ⟨h.ending, h.room, h.flush, h.shutdown⟩

theorem shutdown_of_faultless :
    transport.shutdown =
      (.ok (), { transport with
        stream := { transport.stream with shutdowns := transport.stream.shutdowns + 1 } }) := by
  simp only [shutdown, Stream.shutdown, h.shutdown]

end Faultless

end Transport
end MockSsh
