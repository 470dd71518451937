import MockSsh.Transport

/-!
Where the bytes to come are cut into chunks does not matter. `Recut` relates two streams that differ
at most in the cuts, and two transports over such streams; every operation gives the same answer on
both and leaves them related (`Alike`), also where the bytes end, or the stream fails, in the middle
of a read. Only `Stream.read` looks at the chunks, and `Stream.read_eq` says what it sees.
-/
namespace MockSsh

/-- The same answer, and states that are related. -/
inductive Alike {α σ : Type} (R : σ → σ → Prop) : α × σ → α × σ → Prop
  | mk (answer : α) {state other : σ} (h : R state other) : Alike R (answer, state) (answer, other)

theorem Alike.of_eq {α σ : Type} {R : σ → σ → Prop} {a b : α × σ} (hanswer : a.1 = b.1)
    (hstate : R a.2 b.2) : Alike R a b := by
  obtain ⟨answer, state⟩ := a
  obtain ⟨other, otherState⟩ := b
  cases (show answer = other from hanswer)
  exact .mk answer hstate

theorem Alike.state {α σ : Type} {R : σ → σ → Prop} {a b : α × σ} (h : Alike R a b) :
    R a.2 b.2 := by
  cases h with
  | mk _ h => exact h

/-! ## Streams -/

namespace Stream

/-- The same stream, with its bytes to come perhaps cut in other places. -/
def Recut (stream other : Stream) : Prop :=
  ∃ chunks, stream = { other with chunks } ∧ chunks.flatten = other.pending

theorem Recut.refl (stream : Stream) : stream.Recut stream := ⟨stream.chunks, rfl, rfl⟩

theorem Recut.pending {stream other : Stream} (h : stream.Recut other) :
    stream.pending = other.pending := by
  obtain ⟨chunks, rfl, hflat⟩ := h
  exact hflat

theorem Recut.unread {stream other : Stream} (h : stream.Recut other) :
    stream.unread = other.unread := by
  rw [Stream.unread, Stream.unread, h.pending]

theorem Recut.ending {stream other : Stream} (h : stream.Recut other) :
    stream.ending = other.ending := by
  obtain ⟨chunks, rfl, -⟩ := h
  rfl

theorem Recut.written {stream other : Stream} (h : stream.Recut other) :
    stream.written = other.written := by
  obtain ⟨chunks, rfl, -⟩ := h
  rfl

theorem Recut.trans {stream other third : Stream} (h : stream.Recut other)
    (h' : other.Recut third) : stream.Recut third := by
  have hpending := h'.pending
  obtain ⟨chunks, rfl, hflat⟩ := h
  obtain ⟨otherChunks, rfl, -⟩ := h'
  exact ⟨chunks, rfl, hflat.trans hpending⟩

/-- A read changes nothing but the chunks. -/
theorem read_snd (stream : Stream) (n : Nat) :
    (stream.read n).2 = { stream with chunks := (stream.read n).2.chunks } := by
  unfold read
  split <;> rfl

theorem Recut.read {stream other : Stream} (h : stream.Recut other) (n : Nat) :
    Alike Recut (stream.read n) (other.read n) := by
  obtain ⟨hgiven, hleft⟩ := stream.read_eq n
  obtain ⟨hother, hotherLeft⟩ := other.read_eq n
  apply Alike.of_eq
  · rw [hgiven, hother, h.unread, h.pending]
  · refine ⟨(stream.read n).2.chunks, ?_, ?_⟩
    · obtain ⟨chunks, rfl, -⟩ := h
      rw [read_snd, read_snd other]
    · show (stream.read n).2.pending = _
      rw [hleft, hotherLeft, h.pending]

theorem Recut.write {stream other : Stream} (h : stream.Recut other) (bytes : Bytes) :
    Alike Recut (stream.write bytes) (other.write bytes) := by
  obtain ⟨chunks, rfl, hflat⟩ := h
  unfold Stream.write
  cases other.room with
  | none => exact .mk _ ⟨chunks, rfl, hflat⟩
  | some room =>
    by_cases hfits : bytes.length ≤ room
    · simp only [if_pos hfits]
      exact .mk _ ⟨chunks, rfl, hflat⟩
    · simp only [if_neg hfits]
      exact .mk _ ⟨chunks, rfl, hflat⟩

theorem Recut.flush {stream other : Stream} (h : stream.Recut other) :
    Alike Recut stream.flush other.flush := by
  obtain ⟨chunks, rfl, hflat⟩ := h
  exact .mk _ ⟨chunks, rfl, hflat⟩

theorem Recut.shutdown {stream other : Stream} (h : stream.Recut other) :
    Alike Recut stream.shutdown other.shutdown := by
  obtain ⟨chunks, rfl, hflat⟩ := h
  exact .mk _ ⟨chunks, rfl, hflat⟩

/-- What can be seen of a stream from outside: the bytes written, how many are unread, and how often
it was flushed and shut down. -/
structure Summary where
  written : Bytes
  unread : Nat
  flushes : Nat
  shutdowns : Nat
deriving DecidableEq, Repr

/-- The summary of a stream. -/
def summary (stream : Stream) : Summary :=
  ⟨stream.written, stream.unread, stream.flushes, stream.shutdowns⟩

theorem Recut.summary {stream other : Stream} (h : stream.Recut other) :
    stream.summary = other.summary := by
  have hunread := h.unread
  obtain ⟨chunks, rfl, -⟩ := h
  simp only [Stream.summary, hunread]

end Stream

/-! ## Transports -/

namespace Transport

/-- The same transport over the same stream, perhaps cut in other places. -/
def Recut (transport other : Transport) : Prop :=
  ∃ stream, transport = { other with stream } ∧ stream.Recut other.stream

section Recut

variable {transport other : Transport}

theorem Recut.stream (h : transport.Recut other) : transport.stream.Recut other.stream := by
  obtain ⟨stream, rfl, hstream⟩ := h
  exact hstream

theorem Recut.refl (transport : Transport) : transport.Recut transport :=
  ⟨transport.stream, rfl, .refl transport.stream⟩

theorem Recut.trans {third : Transport} (h : transport.Recut other) (h' : other.Recut third) :
    transport.Recut third := by
  obtain ⟨stream, rfl, hstream⟩ := h
  obtain ⟨otherStream, rfl, hother⟩ := h'
  exact ⟨stream, rfl, hstream.trans hother⟩

theorem alike_trans {α : Type} {a b c : α × Transport} (h : Alike Recut a b)
    (h' : Alike Recut b c) : Alike Recut a c := by
  cases h with
  | mk answer hab =>
    cases h' with
    | mk _ hbc => exact .mk answer (hab.trans hbc)

theorem Recut.readExact (h : transport.Recut other) (n : Nat) :
    Alike Recut (transport.readExact n) (other.readExact n) := by
  have hread := h.stream.read n
  obtain ⟨stream, rfl, -⟩ := h
  unfold Transport.readExact
  generalize Stream.read _ n = given, other.stream.read n = otherGiven at hread ⊢
  cases hread with
  | mk answer hafter =>
    cases answer with
    | some bytes => exact .mk _ ⟨_, rfl, hafter⟩
    | none =>
      simp only [hafter.ending]
      exact .mk _ ⟨_, rfl, hafter⟩

theorem Recut.readLineBytes (h : transport.Recut other) (seen : Bytes) (allowed : Nat) :
    Alike Recut (transport.readLineBytes seen allowed) (other.readLineBytes seen allowed) := by
  induction allowed generalizing transport other seen with
  | zero =>
    have hread := h.readExact 1
    unfold Transport.readLineBytes
    generalize transport.readExact 1 = given, other.readExact 1 = otherGiven at hread ⊢
    cases hread with
    | mk answer hafter =>
      rcases answer with fault | _ | _ | ⟨byte, _ | ⟨_, _⟩⟩
      · exact .mk _ hafter
      · exact .mk _ hafter
      · exact .mk _ hafter
      · simp only
        split <;> exact .mk _ hafter
      · exact .mk _ hafter
  | succ allowed ih =>
    have hread := h.readExact 1
    unfold Transport.readLineBytes
    generalize transport.readExact 1 = given, other.readExact 1 = otherGiven at hread ⊢
    cases hread with
    | mk answer hafter =>
      rcases answer with fault | _ | _ | ⟨byte, _ | ⟨_, _⟩⟩
      · exact .mk _ hafter
      · exact .mk _ hafter
      · exact .mk _ hafter
      · simp only
        split
        · exact .mk _ hafter
        · exact ih hafter (byte :: seen)
      · exact .mk _ hafter

theorem Recut.readIdentification (h : transport.Recut other) (limit : Nat) :
    Alike Recut (transport.readIdentification limit) (other.readIdentification limit) := by
  have hread := h.readLineBytes [] (limit - 1)
  unfold Transport.readIdentification
  generalize transport.readLineBytes [] (limit - 1) = given,
    other.readLineBytes [] (limit - 1) = otherGiven at hread ⊢
  cases hread with
  | mk answer hafter =>
    rcases answer with fault | _ | line <;> exact .mk _ hafter

theorem Recut.packetsReceived (h : transport.Recut other) :
    transport.packetsReceived = other.packetsReceived := by
  obtain ⟨stream, rfl, -⟩ := h
  rfl

theorem Recut.packetsSent (h : transport.Recut other) :
    transport.packetsSent = other.packetsSent := by
  obtain ⟨stream, rfl, -⟩ := h
  rfl

theorem Recut.readBody (h : transport.Recut other) (header : Header) :
    Alike Recut (transport.readBody header) (other.readBody header) := by
  have hread := h.readExact header.bodyLength
  unfold Transport.readBody
  generalize transport.readExact header.bodyLength = given,
    other.readExact header.bodyLength = otherGiven at hread ⊢
  cases hread with
  | mk answer hafter =>
    rcases answer with fault | _ | body
    · exact .mk _ hafter
    · exact .mk _ hafter
    · simp only
      cases Packet.ofBody header body with
      | error fault => exact .mk _ hafter
      | ok packet =>
        simp only [hafter.packetsReceived]
        obtain ⟨stream, rfl, hstream⟩ := hafter
        exact .mk _ ⟨stream, rfl, hstream⟩

theorem Recut.readPacket (h : transport.Recut other) (limit : Nat) :
    Alike Recut (transport.readPacket limit) (other.readPacket limit) := by
  have hread := h.readExact Header.size
  unfold Transport.readPacket
  generalize transport.readExact Header.size = given, other.readExact Header.size = otherGiven
    at hread ⊢
  cases hread with
  | mk answer hafter =>
    -- the two readers branch on the same answer, so a branch of one is that branch of the other
    split
    · next fault after heq =>
      cases heq
      exact .mk _ hafter
    · next a b c d padding after heq =>
      cases heq
      simp only
      split
      · exact .mk _ hafter
      · exact hafter.readBody _
    · next found after hshort heq =>
      cases heq
      split
      · next heq => cases heq
      · next a b c d padding _ heq =>
        cases heq
        exact absurd rfl (hshort a b c d padding)
      · next heq =>
        cases heq
        exact .mk _ hafter

theorem Recut.writeBytes (h : transport.Recut other) (bytes : Bytes) :
    Alike Recut (transport.writeBytes bytes) (other.writeBytes bytes) := by
  have hwrite := h.stream.write bytes
  obtain ⟨stream, rfl, -⟩ := h
  unfold Transport.writeBytes
  generalize Stream.write _ bytes = given, other.stream.write bytes = otherGiven at hwrite ⊢
  cases hwrite with
  | @mk fault after otherAfter hafter =>
    cases fault with
    | some fault => exact .mk _ ⟨_, rfl, hafter⟩
    | none =>
      have hflush := hafter.flush
      simp only
      generalize after.flush = given, otherAfter.flush = otherGiven at hflush ⊢
      cases hflush with
      | mk fault hlast =>
        cases fault with
        | some fault => exact .mk _ ⟨_, rfl, hlast⟩
        | none => exact .mk _ ⟨_, rfl, hlast⟩

theorem Recut.writePacket (h : transport.Recut other) (packet : Packet) :
    Alike Recut (transport.writePacket packet) (other.writePacket packet) := by
  have hwrite := h.writeBytes packet.encode
  unfold Transport.writePacket
  generalize transport.writeBytes packet.encode = given,
    other.writeBytes packet.encode = otherGiven at hwrite ⊢
  cases hwrite with
  | mk answer hafter =>
    cases answer with
    | error fault => exact .mk _ hafter
    | ok _ =>
      obtain ⟨stream, rfl, hstream⟩ := hafter
      exact .mk _ ⟨stream, rfl, hstream⟩

theorem Recut.shutdown (h : transport.Recut other) :
    Alike Recut transport.shutdown other.shutdown := by
  have hshutdown := h.stream.shutdown
  obtain ⟨stream, rfl, -⟩ := h
  unfold Transport.shutdown
  simp only
  generalize Stream.shutdown _ = given, other.stream.shutdown = otherGiven at hshutdown ⊢
  cases hshutdown with
  | mk answer hafter =>
    cases answer with
    | none => exact .mk _ ⟨_, rfl, hafter⟩
    | some fault =>
      simp only
      split <;> exact .mk _ ⟨_, rfl, hafter⟩

end Recut

end Transport
end MockSsh
