import MockSsh.Dispatch
import MockSsh.Stream

/-!
A stream that carries a conversation: exact reads, the identification line, and packets in their
frames, with counters of what has passed. A counter moves only when its operation has succeeded.

A read gives nothing where the peer is gone: at the end of the stream, and where the stream fails in
a way that says no more than that. Any other failure is a fault.
-/
namespace MockSsh

/-- A stream with its counters: packets each way, modulo 2^32, and bytes each way. -/
structure Transport where
  stream : Stream
  packetsReceived : UInt32
  packetsSent : UInt32
  bytesRead : Nat
  bytesWritten : Nat
deriving DecidableEq, Repr

namespace Transport

/-- A transport on which nothing has passed. -/
def ofStream (stream : Stream) : Transport :=
  ⟨stream, 0, 0, 0, 0⟩

/-- What is read where too few bytes come. -/
def endOfRead {α : Type} (ending : Option StreamFault) : Except Fault (Option α) :=
  match ending with
  | none => .ok none
  | some fault => if fault.isClosed then .ok none else .error (.stream fault)

/-- Reads exactly `n` bytes. -/
def readExact (transport : Transport) (n : Nat) : Except Fault (Option Bytes) × Transport :=
  match transport.stream.read n with
  | (some bytes, stream) =>
    (.ok (some bytes), { transport with stream, bytesRead := transport.bytesRead + n })
  | (none, stream) => (endOfRead stream.ending, { transport with stream })

/-- The byte that ends a line. -/
def lineFeed : UInt8 := 0x0A

/-- Reads bytes up to the end of a line, at most `allowed` after the first. `seen` are the bytes of
the line so far, the latest first, and the answer is the same without the end of the line. -/
def readLineBytes (transport : Transport) (seen : Bytes) (allowed : Nat) :
    Except Fault (Option Bytes) × Transport :=
  match transport.readExact 1 with
  | (.error fault, transport) => (.error fault, transport)
  | (.ok (some [byte]), transport) =>
    if byte = lineFeed then
      (.ok (some seen), transport)
    else
      match allowed with
      | 0 => (.error (.identificationTooLong (seen.length + 1)), transport)
      | allowed + 1 => readLineBytes transport (byte :: seen) allowed
  | (.ok _, transport) => (.ok none, transport)

/-- The text of a line, given latest byte first: one carriage return at its end does not count. -/
def lineText (seen : Bytes) : String :=
  Utf8.decodeLossy (match seen with
    | 0x0D :: rest => rest.reverse
    | line => line.reverse)

/-- Reads an identification line of at most `limit` bytes, its terminator included, byte by byte, so
that nothing after the line is taken. -/
def readIdentification (transport : Transport) (limit : Nat) :
    Except Fault (Option String) × Transport :=
  match transport.readLineBytes [] (limit - 1) with
  | (.error fault, transport) => (.error fault, transport)
  | (.ok none, transport) => (.ok none, transport)
  | (.ok (some seen), transport) => (.ok (some (lineText seen)), transport)

/-- Reads the packet whose header is known. Only a packet that decodes gets a sequence number. -/
def readBody (transport : Transport) (header : Header) :
    Except Fault (Option Inbound) × Transport :=
  match transport.readExact header.bodyLength with
  | (.error fault, transport) => (.error fault, transport)
  | (.ok none, transport) => (.ok none, transport)
  | (.ok (some body), transport) =>
    match Packet.ofBody header body with
    | .error fault => (.error fault, transport)
    | .ok packet =>
      (.ok (some ⟨transport.packetsReceived, packet⟩),
        { transport with packetsReceived := transport.packetsReceived + 1 })

/-- Reads a packet. A total length above `limit` is refused before the body is asked for. -/
def readPacket (transport : Transport) (limit : Nat) :
    Except Fault (Option Inbound) × Transport :=
  match transport.readExact Header.size with
  | (.error fault, transport) => (.error fault, transport)
  | (.ok (some [a, b, c, d, padding]), transport) =>
    let header := Header.ofBytes a b c d padding
    if limit < header.total.toNat then
      (.error (.packetTooLarge header.total.toNat limit), transport)
    else
      transport.readBody header
  | (.ok _, transport) => (.ok none, transport)

/-- Writes bytes and pushes them out. -/
def writeBytes (transport : Transport) (bytes : Bytes) : Except Fault Unit × Transport :=
  match transport.stream.write bytes with
  | (some fault, stream) => (.error (.stream fault), { transport with stream })
  | (none, stream) =>
    match stream.flush with
    | (some fault, stream) => (.error (.stream fault), { transport with stream })
    | (none, stream) =>
      (.ok (), { transport with stream, bytesWritten := transport.bytesWritten + bytes.length })

/-- Writes an identification line, given with its terminator. -/
def writeIdentification (transport : Transport) (line : Bytes) : Except Fault Unit × Transport :=
  transport.writeBytes line

/-- Writes a packet in its frame. -/
def writePacket (transport : Transport) (packet : Packet) : Except Fault Unit × Transport :=
  match transport.writeBytes packet.encode with
  | (.error fault, transport) => (.error fault, transport)
  | (.ok (), transport) => (.ok (), { transport with packetsSent := transport.packetsSent + 1 })

/-- Ends the direction in which the server writes. That the peer is gone already is no fault. -/
def shutdown (transport : Transport) : Except Fault Unit × Transport :=
  match transport.stream.shutdown with
  | (none, stream) => (.ok (), { transport with stream })
  | (some fault, stream) =>
    if fault.isClosed || fault.kind == .notConnected then
      (.ok (), { transport with stream })
    else
      (.error (.stream fault), { transport with stream })

/-! ## What a read consumes -/

/-- An exact read that succeeds takes exactly the bytes that it gives. -/
theorem unread_readExact {transport after : Transport} {n : Nat} {bytes : Bytes}
    (h : transport.readExact n = (.ok (some bytes), after)) :
    bytes.length = n ∧ after.stream.unread + n = transport.stream.unread := by
  obtain ⟨hgiven, hrest⟩ := transport.stream.read_eq n
  unfold readExact at h
  split at h
  · next given stream hread =>
    rw [hread] at hgiven hrest
    split at hgiven
    · simp only [Prod.mk.injEq, Except.ok.injEq, Option.some.injEq] at h hgiven
      obtain ⟨rfl, rfl⟩ := h
      subst hgiven
      simp only [Stream.unread] at *
      simp only [hrest, List.length_take, List.length_drop]
      omega
    · simp at hgiven
  · next ending stream hread =>
    simp only [Prod.mk.injEq] at h
    unfold endOfRead at h
    split at h
    · simp at h
    · split at h <;> simp at h

/-- A packet takes at least its header. -/
theorem unread_readPacket {transport after : Transport} {limit : Nat} {inbound : Inbound}
    (h : transport.readPacket limit = (.ok (some inbound), after)) :
    after.stream.unread < transport.stream.unread := by
  unfold readPacket at h
  split at h
  · simp at h
  · next a b c d padding middle hheader =>
    have hfirst := (unread_readExact hheader).2
    simp only [Header.size] at hfirst h
    split at h
    · simp at h
    · unfold readBody at h
      split at h
      · simp at h
      · simp at h
      · next body last hbody =>
        have hsecond := (unread_readExact hbody).2
        split at h
        · simp at h
        · simp only [Prod.mk.injEq] at h
          obtain ⟨-, rfl⟩ := h
          simp only
          omega
  · simp at h

theorem unread_readLineBytes {transport after : Transport} {seen line : Bytes} {allowed : Nat}
    (h : transport.readLineBytes seen allowed = (.ok (some line), after)) :
    after.stream.unread < transport.stream.unread := by
  induction allowed generalizing transport seen with
  | zero =>
    unfold readLineBytes at h
    split at h
    · simp at h
    · next byte middle hread =>
      have hbyte := (unread_readExact hread).2
      split at h
      · simp only [Prod.mk.injEq] at h
        obtain ⟨-, rfl⟩ := h
        omega
      · simp at h
    · simp at h
  | succ allowed ih =>
    unfold readLineBytes at h
    split at h
    · simp at h
    · next byte middle hread =>
      have hbyte := (unread_readExact hread).2
      split at h
      · simp only [Prod.mk.injEq] at h
        obtain ⟨-, rfl⟩ := h
        omega
      · have := ih h
        omega
    · simp at h

/-- A line takes at least its end. -/
theorem unread_readIdentification {transport after : Transport} {limit : Nat} {line : String}
    (h : transport.readIdentification limit = (.ok (some line), after)) :
    after.stream.unread < transport.stream.unread := by
  unfold readIdentification at h
  split at h
  · simp at h
  · simp at h
  · next seen last hread =>
    simp only [Prod.mk.injEq] at h
    obtain ⟨-, rfl⟩ := h
    exact unread_readLineBytes hread

/-! ## What a write leaves alone -/

theorem chunks_write (stream : Stream) (bytes : Bytes) :
    (stream.write bytes).2.chunks = stream.chunks := by
  unfold Stream.write
  split
  · rfl
  · split <;> rfl

@[simp] theorem unread_writeBytes (transport : Transport) (bytes : Bytes) :
    (transport.writeBytes bytes).2.stream.unread = transport.stream.unread := by
  have hchunks := chunks_write transport.stream bytes
  unfold writeBytes
  split
  · next hwrite =>
    rw [hwrite] at hchunks
    exact congrArg (·.flatten.length) hchunks
  · next after hwrite =>
    rw [hwrite] at hchunks
    have hunread : after.flush.2.unread = transport.stream.unread :=
      congrArg (·.flatten.length) hchunks
    split <;>
    · next hflush =>
      rw [hflush] at hunread
      exact hunread

@[simp] theorem unread_writePacket (transport : Transport) (packet : Packet) :
    (transport.writePacket packet).2.stream.unread = transport.stream.unread := by
  rw [← unread_writeBytes transport packet.encode]
  unfold writePacket
  split <;> simp_all

end Transport
end MockSsh
