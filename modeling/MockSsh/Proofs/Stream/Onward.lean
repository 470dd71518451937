import MockSsh.Proofs.Stream.Faultless
import MockSsh.Proofs.Stream.Reading

/-!
What the operations on a stream leave as it was. A read changes nothing but the bytes to come
(`Stream.Drained`). Reads and writes together only go on (`Stream.Onward`): what was written stays
written, what was flushed stays flushed, no stream is shut down on the way, its bytes end as they
ended, and none comes to faults that it did not have.
-/
namespace MockSsh

/-! ## Reads -/

namespace Stream

/-- The stream after reads: nothing but the bytes to come is another. -/
def Drained (stream after : Stream) : Prop :=
  ∃ chunks, after = { stream with chunks }

theorem Drained.refl (stream : Stream) : stream.Drained stream := ⟨stream.chunks, rfl⟩

theorem Drained.trans {stream middle after : Stream} (h : stream.Drained middle)
    (h' : middle.Drained after) : stream.Drained after := by
  obtain ⟨chunks, rfl⟩ := h
  obtain ⟨last, rfl⟩ := h'
  exact ⟨last, rfl⟩

theorem Drained.ending {stream after : Stream} (h : stream.Drained after) :
    after.ending = stream.ending := by
  obtain ⟨chunks, rfl⟩ := h
  rfl

theorem Drained.written {stream after : Stream} (h : stream.Drained after) :
    after.written = stream.written := by
  obtain ⟨chunks, rfl⟩ := h
  rfl

theorem Drained.faultless {stream after : Stream} (h : stream.Drained after)
    (hfaultless : stream.Faultless) : after.Faultless := by
  obtain ⟨chunks, rfl⟩ := h
  exact ⟨hfaultless.ending, hfaultless.room, hfaultless.flush, hfaultless.shutdown⟩

theorem Drained.accepting {stream after : Stream} (h : stream.Drained after)
    (haccepting : stream.Accepting) : after.Accepting := by
  obtain ⟨chunks, rfl⟩ := h
  exact ⟨haccepting.room, haccepting.flush⟩

theorem drained_read (stream : Stream) (n : Nat) : stream.Drained (stream.read n).2 :=
  ⟨_, stream.read_snd n⟩

end Stream

namespace Transport

theorem drained_readExact (transport : Transport) (n : Nat) :
    transport.stream.Drained (transport.readExact n).2.stream := by
  have hread := transport.stream.drained_read n
  unfold readExact
  split <;> next heq => simpa [heq] using hread

theorem drained_run {α : Type} (reading : Reading α) (transport : Transport) :
    transport.stream.Drained (reading.run transport).2.stream := by
  induction reading generalizing transport with
  | give answer => exact .refl _
  | ask size next ih =>
    have hfirst := transport.drained_readExact size
    rw [Reading.run]
    generalize transport.readExact size = read at hfirst ⊢
    obtain ⟨answer, after⟩ := read
    rcases answer with fault | _ | bytes
    · exact hfirst
    · exact hfirst
    · exact hfirst.trans (ih bytes after)

theorem drained_readPacket (transport : Transport) (limit : Nat) :
    transport.stream.Drained (transport.readPacket limit).2.stream := by
  rw [readPacket_leaves]
  exact drained_run (packetReading limit) transport

theorem drained_readIdentification (transport : Transport) (limit : Nat) :
    transport.stream.Drained (transport.readIdentification limit).2.stream := by
  rw [readIdentification_leaves]
  exact drained_run (lineReading (limit - 1) []) transport

end Transport

/-! ## Reads and writes -/

namespace Stream

/-- The stream after reads and writes. -/
structure Onward (stream after : Stream) : Prop where
  written : stream.written <+: after.written
  flushes : stream.flushes ≤ after.flushes
  shutdowns : after.shutdowns = stream.shutdowns
  ending : after.ending = stream.ending
  faultless : stream.Faultless → after.Faultless

theorem Onward.refl (stream : Stream) : stream.Onward stream :=
  ⟨List.prefix_rfl, Nat.le_refl _, rfl, rfl, id⟩

theorem Onward.trans {stream middle after : Stream} (h : stream.Onward middle)
    (h' : middle.Onward after) : stream.Onward after :=
  ⟨h.written.trans h'.written, Nat.le_trans h.flushes h'.flushes, h'.shutdowns.trans h.shutdowns,
    h'.ending.trans h.ending, h'.faultless ∘ h.faultless⟩

theorem Drained.onward {stream after : Stream} (h : stream.Drained after) :
    stream.Onward after := by
  have hfaultless := h.faultless
  obtain ⟨chunks, rfl⟩ := h
  exact ⟨List.prefix_rfl, Nat.le_refl _, rfl, rfl, hfaultless⟩

theorem onward_write (stream : Stream) (bytes : Bytes) : stream.Onward (stream.write bytes).2 := by
  unfold write
  split
  · exact ⟨List.prefix_append _ _, Nat.le_refl _, rfl, rfl,
      fun h => ⟨h.ending, h.room, h.flush, h.shutdown⟩⟩
  · next room hroom =>
    -- a stream with little room is not without faults
    split <;>
      exact ⟨List.prefix_append _ _, Nat.le_refl _, rfl, rfl, fun h => by simp [h.room] at hroom⟩

theorem onward_flush (stream : Stream) : stream.Onward stream.flush.2 :=
  ⟨List.prefix_rfl, Nat.le_succ _, rfl, rfl, fun h => ⟨h.ending, h.room, h.flush, h.shutdown⟩⟩

end Stream

namespace Transport

theorem onward_writeBytes (transport : Transport) (bytes : Bytes) :
    transport.stream.Onward (transport.writeBytes bytes).2.stream := by
  have hwrite := transport.stream.onward_write bytes
  unfold writeBytes
  generalize transport.stream.write bytes = write at hwrite ⊢
  obtain ⟨fault, after⟩ := write
  cases fault with
  | some fault => exact hwrite
  | none =>
    have hflush := after.onward_flush
    simp only
    generalize after.flush = flush at hflush ⊢
    obtain ⟨fault, last⟩ := flush
    cases fault <;> exact hwrite.trans hflush

theorem onward_writePacket (transport : Transport) (packet : Packet) :
    transport.stream.Onward (transport.writePacket packet).2.stream := by
  have hwrite := transport.onward_writeBytes packet.encode
  unfold writePacket
  generalize transport.writeBytes packet.encode = write at hwrite ⊢
  obtain ⟨result, after⟩ := write
  cases result <;> exact hwrite

theorem onward_sendReplies (transport : Transport) (peer : String) (replies : List Packet) :
    transport.stream.Onward (Session.sendReplies peer replies transport).2.1.stream := by
  induction replies generalizing transport with
  | nil => exact .refl _
  | cons packet rest ih =>
    have hwrite := transport.onward_writePacket packet
    rw [Session.sendReplies]
    generalize transport.writePacket packet = write at hwrite ⊢
    obtain ⟨result, after⟩ := write
    cases result with
    | error fault => exact hwrite
    | ok _ => exact hwrite.trans (ih after)

end Transport
end MockSsh
