import MockSsh.Proofs.Stream.Frames

/-!
A reader as the exact reads that it makes. `Reading.run` makes them on a transport and
`Reading.sizes` lists how many bytes each of them asks for, so that a bound on what is asked for can
be stated and followed through the reader (`Bounded.sizes_le`).

`packetReading` asks for a header, then for the body that it declares, and hands both to the decoder
of whole frames. That is how a transport reads a packet (`readPacket_eq_reading`): it gives and leaves
what whole frames cut off the bytes to come give and leave (`readPacket_eq_ofFrame`). A line is read
by `lineReading`, which asks for one byte at a time (`readLineBytes_eq_reading`).
-/
namespace MockSsh

/-- A reader: it gives its answer, or asks for a number of bytes and goes on with them. Where they do
not come it stops. -/
inductive Reading (α : Type)
  | give (answer : α)
  | ask (size : Nat) (next : Bytes → Reading α)

namespace Reading

variable {α : Type}

/-- Makes the exact reads on a transport. -/
def run : Reading α → Transport → Except Fault (Option α) × Transport
  | give answer, transport => (.ok (some answer), transport)
  | ask size next, transport =>
    match transport.readExact size with
    | (.error fault, transport) => (.error fault, transport)
    | (.ok none, transport) => (.ok none, transport)
    | (.ok (some bytes), transport) => (next bytes).run transport

/-- How many bytes each of the exact reads on a transport asks for, in their order. -/
def sizes : Reading α → Transport → List Nat
  | give _, _ => []
  | ask size next, transport =>
    size :: match transport.readExact size with
      | (.ok (some bytes), transport) => (next bytes).sizes transport
      | _ => []

/-- No read asks for more than `bound` bytes, whatever bytes the reads before it gave. -/
def Bounded (bound : Nat) : Reading α → Prop
  | give _ => True
  | ask size next => size ≤ bound ∧ ∀ bytes, (next bytes).Bounded bound

/-- On a transport the reads ask for no more than they may ask for on any. -/
theorem Bounded.sizes_le {bound : Nat} {reading : Reading α} (h : reading.Bounded bound)
    (transport : Transport) : ∀ size ∈ reading.sizes transport, size ≤ bound := by
  induction reading generalizing transport with
  | give answer =>
    intro size hsize
    cases hsize
  | ask first next ih =>
    obtain ⟨hfirst, hnext⟩ := h
    intro size hsize
    rw [sizes] at hsize
    rcases List.mem_cons.mp hsize with rfl | hlater
    · exact hfirst
    · split at hlater
      · next bytes after _ => exact ih bytes (hnext bytes) after size hlater
      · cases hlater

/-- A reader does not notice where the bytes to come are cut. -/
theorem run_recut (reading : Reading α) {transport other : Transport} (h : transport.Recut other) :
    Alike Transport.Recut (reading.run transport) (reading.run other) := by
  induction reading generalizing transport other with
  | give answer => exact .mk _ h
  | ask size next ih =>
    have hread := h.readExact size
    rw [run, run]
    generalize transport.readExact size = read, other.readExact size = otherRead at hread ⊢
    cases hread with
    | mk answer hafter =>
      rcases answer with fault | _ | bytes
      · exact .mk _ hafter
      · exact .mk _ hafter
      · exact ih bytes hafter

end Reading

namespace Transport

/-- Reads a header, and unless that declares more than `limit` bytes, the body. -/
def packetReading (limit : Nat) : Reading (Except Fault Packet) :=
  .ask Header.size fun header =>
    let total := Frame.total header
    if limit < total then .give (.error (.packetTooLarge total limit))
    else .ask (total - 1) fun body => .give (Packet.ofFrame (header ++ body))

/-- A packet that was read gets the next sequence number. -/
def numbered : Except Fault (Option (Except Fault Packet)) × Transport →
    Except Fault (Option Inbound) × Transport
  | (.error fault, transport) => (.error fault, transport)
  | (.ok none, transport) => (.ok none, transport)
  | (.ok (some (.error fault)), transport) => (.error fault, transport)
  | (.ok (some (.ok packet)), transport) =>
    (.ok (some ⟨transport.packetsReceived, packet⟩),
      { transport with packetsReceived := transport.packetsReceived + 1 })

theorem bounded_packetReading (limit : Nat) :
    (packetReading limit).Bounded (max Header.size (limit - 1)) := by
  refine ⟨Nat.le_max_left _ _, fun header => ?_⟩
  by_cases hlarge : limit < Frame.total header
  · simp only [if_pos hlarge]
    trivial
  · simp only [if_neg hlarge]
    exact ⟨by omega, fun _ => trivial⟩

/-- **A transport reads a packet** by these exact reads. -/
theorem readPacket_eq_reading (transport : Transport) (limit : Nat) :
    transport.readPacket limit = numbered ((packetReading limit).run transport) := by
  rw [readPacket, packetReading, Reading.run]
  cases hheader : transport.readExact Header.size with
  | mk answer middle =>
    rcases answer with fault | _ | bytes
    · rfl
    · rfl
    · -- five bytes were asked for, so five have come
      obtain ⟨a, b, c, d, padding, rest, rfl⟩ :=
        Frame.exists_header (Nat.le_of_eq (unread_readExact hheader).1.symm)
      have hrest : rest = [] := by
        have hlength := (unread_readExact hheader).1
        simpa [Header.size] using hlength
      subst hrest
      obtain ⟨header, hbytes⟩ : ∃ header, Header.ofBytes a b c d padding = header := ⟨_, rfl⟩
      have htotal : Frame.total [a, b, c, d, padding] = header.total.toNat := by
        rw [Frame.total_cons, ← hbytes]
        rfl
      simp only [hbytes, htotal]
      by_cases hlarge : limit < header.total.toNat
      · simp only [if_pos hlarge]
        rfl
      · have hsize : header.total.toNat - 1 = header.bodyLength := rfl
        simp only [if_neg hlarge, readBody, Reading.run, hsize]
        cases hbody : middle.readExact header.bodyLength with
        | mk answer last =>
          rcases answer with fault | _ | body
          · rfl
          · rfl
          · have hwhole : Packet.ofFrame ([a, b, c, d, padding] ++ body)
                = Packet.ofBody header body :=
              Packet.ofFrame_of_bodyLength hbytes (unread_readExact hbody).1
            simp only [hwhole]
            cases Packet.ofBody header body <;> rfl

/-- Reads byte after byte up to the end of a line, at most `allowed` after the first. -/
def lineReading : Nat → Bytes → Reading (Except Fault Bytes)
  | 0, seen => .ask 1 fun
    | [] => .give (.ok seen)
    | byte :: _ =>
      .give (if byte = lineFeed then .ok seen
        else .error (.identificationTooLong (seen.length + 1)))
  | allowed + 1, seen => .ask 1 fun
    | [] => .give (.ok seen)
    | byte :: _ =>
      if byte = lineFeed then .give (.ok seen) else lineReading allowed (byte :: seen)

/-- A line that is too long is a fault of the reader. -/
def decided {α : Type} : Except Fault (Option (Except Fault α)) × Transport →
    Except Fault (Option α) × Transport
  | (.error fault, transport) => (.error fault, transport)
  | (.ok none, transport) => (.ok none, transport)
  | (.ok (some (.error fault)), transport) => (.error fault, transport)
  | (.ok (some (.ok answer)), transport) => (.ok (some answer), transport)

/-- **A transport reads a line** byte by byte. -/
theorem readLineBytes_eq_reading (transport : Transport) (seen : Bytes) (allowed : Nat) :
    transport.readLineBytes seen allowed = decided ((lineReading allowed seen).run transport) := by
  induction allowed generalizing transport seen with
  | zero =>
    rw [readLineBytes, lineReading, Reading.run]
    cases hread : transport.readExact 1 with
    | mk answer after =>
      rcases answer with fault | _ | bytes
      · rfl
      · rfl
      · obtain ⟨byte, rfl⟩ := List.length_eq_one_iff.mp (unread_readExact hread).1
        by_cases hbyte : byte = lineFeed
        · simp only [if_pos hbyte, Reading.run, decided]
        · simp only [if_neg hbyte, Reading.run, decided]
  | succ allowed ih =>
    rw [readLineBytes, lineReading, Reading.run]
    cases hread : transport.readExact 1 with
    | mk answer after =>
      rcases answer with fault | _ | bytes
      · rfl
      · rfl
      · obtain ⟨byte, rfl⟩ := List.length_eq_one_iff.mp (unread_readExact hread).1
        by_cases hbyte : byte = lineFeed
        · simp only [if_pos hbyte, Reading.run, decided]
        · simp only [if_neg hbyte]
          exact ih after (byte :: seen)

/-! What a transport gives is what the reader decides, and it leaves the stream where the reader does. -/

theorem readPacket_gives (transport : Transport) (limit : Nat) :
    let read := (packetReading limit).run transport
    (transport.readPacket limit).1
      = (decided read).1.map (Option.map fun packet => ⟨read.2.packetsReceived, packet⟩) := by
  rw [readPacket_eq_reading]
  obtain ⟨_ | _ | _ | _, _⟩ := (packetReading limit).run transport <;> rfl

theorem readPacket_leaves (transport : Transport) (limit : Nat) :
    (transport.readPacket limit).2.stream = ((packetReading limit).run transport).2.stream := by
  rw [readPacket_eq_reading]
  obtain ⟨_ | _ | _ | _, _⟩ := (packetReading limit).run transport <;> rfl

theorem readIdentification_gives (transport : Transport) (limit : Nat) :
    (transport.readIdentification limit).1
      = (decided ((lineReading (limit - 1) []).run transport)).1.map (Option.map lineText) := by
  rw [readIdentification, readLineBytes_eq_reading]
  obtain ⟨_ | _ | _ | _, _⟩ := (lineReading (limit - 1) []).run transport <;> rfl

theorem readIdentification_leaves (transport : Transport) (limit : Nat) :
    (transport.readIdentification limit).2 = ((lineReading (limit - 1) []).run transport).2 := by
  rw [readIdentification, readLineBytes_eq_reading]
  obtain ⟨_ | _ | _ | _, _⟩ := (lineReading (limit - 1) []).run transport <;> rfl

/-- What is seen of transports that are alike. -/
theorem seen_of_alike {α : Type} {read other : α × Transport} (h : Alike Recut read other) :
    (read.1, read.2.stream.pending, read.2.packetsReceived)
      = (other.1, other.2.stream.pending, other.2.packetsReceived) := by
  cases h with
  | mk answer hafter => rw [hafter.stream.pending, hafter.packetsReceived]

/-- What is seen of a packet's reader, as the bytes are cut. -/
theorem seen_readPacket (transport : Transport) (limit : Nat) :
    let read := transport.readPacket limit
    (read.1, read.2.stream.pending, read.2.packetsReceived) =
      match cutFrame limit transport.stream.pending with
      | .packet packet rest =>
        (.ok (some ⟨transport.packetsReceived, packet⟩), rest, transport.packetsReceived + 1)
      | .refused fault rest => (.error fault, rest, transport.packetsReceived)
      | .incomplete => (endOfRead transport.stream.ending, [], transport.packetsReceived) := by
  intro read
  obtain ⟨counted, hread⟩ := transport.readPacket_alike limit
  have hseen : (read.1, read.2.stream.pending, read.2.packetsReceived) = _ := seen_of_alike hread
  rw [hseen]
  cases cutFrame limit transport.stream.pending with
  | packet packet rest => simp only [packetRead, pending_advance]
  | refused fault rest =>
    simp only [packetRead, pending_advance]
    rfl
  | incomplete =>
    simp only [packetRead, pending_advance]
    rfl

/-- **A packet is read as its frame.** Where bytes are to come and then the end of the stream, a
transport gives nothing if they do not hold a header; refuses a declared length above the limit behind
the header; gives nothing if they do not hold the declared body; and otherwise takes exactly the frame
and gives what the decoder of whole frames makes of it, which is a packet or the fault of padding that
does not fit. A packet has the sequence number at which the transport stood, and only a packet moves
it on. No exact read asks for more than a header or a body within the limit. -/
theorem readPacket_eq_ofFrame (transport : Transport) (h : transport.stream.ending = none)
    (limit : Nat) :
    let input := transport.stream.pending
    let total := Frame.total input
    let size := Header.size + (max total 1 - 1)
    let sequence := transport.packetsReceived
    let read := transport.readPacket limit
    ((read.1, read.2.stream.pending, read.2.packetsReceived) =
      if input.length < Header.size then (.ok none, [], sequence)
      else if limit < total then
        (.error (.packetTooLarge total limit), input.drop Header.size, sequence)
      else if input.length < size then (.ok none, [], sequence)
      else match Packet.ofFrame (input.take size) with
        | .ok packet => (.ok (some ⟨sequence, packet⟩), input.drop size, sequence + 1)
        | .error fault => (.error fault, input.drop size, sequence)) ∧
    (size ≤ input.length → ∀ fault, Packet.ofFrame (input.take size) = .error fault →
      fault = .frame (Frame.paddingLength input) (size - Header.size)) ∧
    read = numbered ((packetReading limit).run transport) ∧
    ∀ asked ∈ (packetReading limit).sizes transport, asked ≤ max 5 (limit - 1) := by
  intro input total size sequence read
  have hsize : Header.size + (total - 1) = size := by omega
  refine ⟨?_, ?_, transport.readPacket_eq_reading limit,
    (bounded_packetReading limit).sizes_le transport⟩
  · have hseen : (read.1, read.2.stream.pending, read.2.packetsReceived) = _ :=
      transport.seen_readPacket limit
    rw [hseen, h]
    by_cases hheader : input.length < Header.size
    · rw [if_pos hheader, cutFrame_of_short hheader]
      rfl
    rw [if_neg hheader, cutFrame_of_size (Nat.le_of_not_lt hheader), cutDeclared, hsize]
    by_cases hlarge : limit < total
    · rw [if_pos hlarge, if_pos hlarge]
    rw [if_neg hlarge, if_neg hlarge]
    by_cases hshort : input.length < size
    · rw [if_pos hshort, if_pos hshort]
      rfl
    rw [if_neg hshort, if_neg hshort]
    cases Packet.ofFrame (input.take size) <;> rfl
  · intro hthere fault hfault
    have hlength : (input.take size).length = size := List.length_take_of_le hthere
    rcases Packet.cases_of_ofFrame_error hfault with ⟨hcut, -⟩ | ⟨-, hframe⟩
    · have htotal : Frame.total (input.take size) = total := Frame.total_take (by omega) input
      rw [Frame.Miscut, hlength, htotal] at hcut
      omega
    · rw [hframe, hlength, Frame.paddingLength_take (by omega)]

/-- A frame that arrives in three pieces with a byte behind it, at the limit and at the last sequence
number. -/
theorem readPacket_eq_ofFrame_wrapping :
    let stream : Stream := { Stream.ofInput [] with
      chunks := [[0, 0], [0, 6, 4, 21], [0, 0, 0, 0, 7]] }
    let transport : Transport := { Transport.ofStream stream with packetsReceived := 0xFFFFFFFF }
    let read := transport.readPacket 6
    stream.ending = none ∧
      (read.1, read.2.stream.pending, read.2.packetsReceived)
        = (.ok (some ⟨0xFFFFFFFF, ⟨21, [], 4⟩⟩), [7], 0) ∧
      ∀ asked ∈ (packetReading 6).sizes transport, asked ≤ 5 := by
  intro stream transport read
  have hending : stream.ending = none := rfl
  have hnext : transport.packetsReceived + 1 = 0 := by decide
  obtain ⟨hread, -, -, hasked⟩ := readPacket_eq_ofFrame transport hending 6
  refine ⟨hending, hread.trans ?_, hasked⟩
  rw [hnext]
  rfl

end Transport
end MockSsh
