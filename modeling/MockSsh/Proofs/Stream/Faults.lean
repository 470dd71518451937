import MockSsh.Proofs.Stream.Onward

/-!
Faults, beside the same stream without them. `Stream.under` puts faults on a stream. The two directions
of a stream know nothing of each other: a read under faults gives what it gives without them, unless it
meets the end of the bytes (`readPacket_under`); a write is taken as a whole as long as all that was
written and flushed passes the faults (`Faults.Passes`), and else it stops at a fault with the beginning
of what should have been written (`Faults.Stops`).
-/
namespace MockSsh

/-- What a stream meets: how its bytes end, how many bytes it takes in all, and what writing more,
flushing once more than a number of times, and shutting down come to. -/
structure Faults where
  ending : Option StreamFault
  limit : Option Nat
  write : Option StreamFault
  flush : Option StreamFault
  steady : Nat
  shutdown : Option StreamFault

/-- The same stream under faults. -/
def Stream.under (stream : Stream) (faults : Faults) : Stream :=
  { stream with
    ending := faults.ending
    room := faults.limit.map (· - stream.written.length)
    writeFault := faults.write
    flushFault := faults.flush
    steadyFlushes := faults.steady
    shutdownFault := faults.shutdown }

/-- The same transport over its stream under faults. -/
def Transport.under (transport : Transport) (faults : Faults) : Transport :=
  { transport with stream := transport.stream.under faults }

/-! ## What is written -/

namespace Faults

/-- All that was written and flushed without faults can be under them: there is room for the bytes, and
no flush that fails was reached. -/
structure Passes (faults : Faults) (free : Stream) : Prop where
  room : ∀ limit, faults.limit = some limit → free.written.length ≤ limit
  flush : faults.flush = none ∨ free.flushes ≤ faults.steady

/-- How writing and flushing as without faults stops: with which fault, and what was written by then. -/
inductive Stops (faults : Faults) (free : Stream) : StreamFault → Bytes → Prop
  | full {limit : Nat} (h : faults.limit = some limit) (hlong : limit < free.written.length) :
      Stops faults free (faults.write.getD .nothingWritten) (free.written.take limit)
  | stuck {fault : StreamFault} {written : Bytes} (h : faults.flush = some fault)
      (hbegins : written <+: free.written) (hspent : faults.steady < free.flushes) :
      Stops faults free fault written

variable {faults : Faults} {free longer : Stream} {written : Bytes} {fault : StreamFault}

theorem passes_fresh (h : free.written = []) (hflushes : free.flushes = 0) : faults.Passes free :=
  ⟨fun _ _ => by simp [h], .inr (by simp [hflushes])⟩

theorem Passes.drained (h : faults.Passes free) (hdrained : free.Drained longer) :
    faults.Passes longer := by
  obtain ⟨chunks, rfl⟩ := hdrained
  exact ⟨h.room, h.flush⟩

/-- Writing and flushing more does not change where it stops. -/
theorem Stops.mono (h : faults.Stops free fault written) (hbegins : free.written <+: longer.written)
    (hflushes : free.flushes ≤ longer.flushes) : faults.Stops longer fault written := by
  cases h with
  | full h hlong =>
    have htaken : free.written.take _ = longer.written.take _ :=
      (List.prefix_iff_eq_take.mp ((List.take_prefix _ _).trans hbegins)).trans
        (by rw [List.length_take, Nat.min_eq_left (Nat.le_of_lt hlong)])
    rw [htaken]
    exact .full h (Nat.lt_of_lt_of_le hlong hbegins.length_le)
  | stuck h hbefore hspent => exact .stuck h (hbefore.trans hbegins) (Nat.lt_of_lt_of_le hspent hflushes)

theorem Stops.begins (h : faults.Stops free fault written) : written <+: free.written := by
  cases h with
  | full h hlong => exact List.take_prefix _ _
  | stuck h hbefore hspent => exact hbefore

/-- Where every flush succeeds that is made, it is the room that ends. -/
theorem Stops.full_of_steady (h : faults.Stops free fault written)
    (hflush : faults.flush = none ∨ free.flushes ≤ faults.steady) :
    ∃ limit, faults.limit = some limit ∧ limit < free.written.length ∧
      fault = faults.write.getD .nothingWritten ∧ written = free.written.take limit := by
  cases h with
  | full hlimit hlong => exact ⟨_, hlimit, hlong, rfl, rfl⟩
  | stuck hstuck _ hspent =>
    rcases hflush with hnone | hsteady
    · cases hnone.symm.trans hstuck
    · exact absurd hspent (Nat.not_lt.mpr hsteady)

/-- Where the room never ends, it is a flush that fails. -/
theorem Stops.flush_of_unlimited (h : faults.Stops free fault written)
    (hlimit : faults.limit = none) : faults.flush = some fault := by
  cases h with
  | full hfull _ => cases hlimit.symm.trans hfull
  | stuck hstuck _ _ => exact hstuck

end Faults

/-! ## Reads -/

theorem Stream.read_under (stream : Stream) (faults : Faults) (n : Nat) :
    (stream.under faults).read n = ((stream.read n).1, (stream.read n).2.under faults) := by
  unfold Stream.read Stream.under
  cases Stream.takeExact n stream.chunks <;> rfl

namespace Transport

/-- What a read under faults gives, told by what it gives without them: only where nothing came, the
end of the bytes shows. -/
def shown {α : Type} (faults : Faults) : Except Fault (Option α) → Except Fault (Option α)
  | .error fault => .error fault
  | .ok none => endOfRead faults.ending
  | .ok (some given) => .ok (some given)

/-- A read under faults, told by the read without them. -/
def readUnder {α : Type} (faults : Faults) (read : Except Fault (Option α) × Transport) :
    Except Fault (Option α) × Transport :=
  (shown faults read.1, read.2.under faults)

/-- The end of the bytes is nothing to every reader, or the same fault to every reader. -/
theorem endOfRead_cases (ending : Option StreamFault) :
    (∀ α : Type, endOfRead ending = (.ok none : Except Fault (Option α))) ∨
      ∃ fault, ∀ α : Type, endOfRead ending = (.error fault : Except Fault (Option α)) := by
  cases ending with
  | none => exact .inl fun _ => rfl
  | some fault =>
    by_cases hclosed : fault.isClosed = true
    · exact .inl fun _ => by simp [endOfRead, hclosed]
    · exact .inr ⟨.stream fault, fun _ => by simp [endOfRead, hclosed]⟩

section Reads

variable {transport : Transport} (hend : transport.stream.ending = none) (faults : Faults)
include hend

theorem readExact_under (n : Nat) :
    (transport.under faults).readExact n = readUnder faults (transport.readExact n) := by
  have hafter := (transport.stream.drained_read n).ending.trans hend
  unfold readExact
  rw [show (transport.under faults).stream = transport.stream.under faults from rfl,
    Stream.read_under]
  generalize transport.stream.read n = read at hafter ⊢
  obtain ⟨given, after⟩ := read
  cases given with
  | some bytes => rfl
  | none =>
    simp only at hafter
    simp only [hafter]
    rfl

theorem run_under {α : Type} (reading : Reading α) :
    reading.run (transport.under faults) = readUnder faults (reading.run transport) := by
  induction reading generalizing transport with
  | give answer => rfl
  | ask size next ih =>
    have hafter := (transport.drained_readExact size).ending.trans hend
    rw [Reading.run, Reading.run, readExact_under hend]
    generalize transport.readExact size = read at hafter ⊢
    obtain ⟨answer, after⟩ := read
    rcases answer with fault | _ | bytes
    · rfl
    · rcases endOfRead_cases faults.ending with hclosed | ⟨fault, hfault⟩
      · simp only [readUnder, shown, hclosed]
      · simp only [readUnder, shown, hfault]
    · exact ih bytes hafter

/-- A packet is read under faults as it is read without them. -/
theorem readPacket_under (limit : Nat) :
    (transport.under faults).readPacket limit = readUnder faults (transport.readPacket limit) := by
  rw [readPacket_eq_reading, readPacket_eq_reading, run_under hend]
  generalize (packetReading limit).run transport = read
  obtain ⟨answer, after⟩ := read
  rcases answer with fault | _ | fault | packet
  · rfl
  · rcases endOfRead_cases faults.ending with hclosed | ⟨fault, hfault⟩
    · simp only [readUnder, shown, numbered, hclosed]
    · simp only [readUnder, shown, numbered, hfault]
  · rfl
  · rfl

/-- A line is read under faults as it is read without them. -/
theorem readIdentification_under (limit : Nat) :
    (transport.under faults).readIdentification limit
      = readUnder faults (transport.readIdentification limit) := by
  rw [readIdentification, readIdentification, readLineBytes_eq_reading, readLineBytes_eq_reading,
    run_under hend]
  generalize (lineReading (limit - 1) []).run transport = read
  obtain ⟨answer, after⟩ := read
  rcases answer with fault | _ | fault | line
  · rfl
  · rcases endOfRead_cases faults.ending with hclosed | ⟨fault, hfault⟩
    · simp only [readUnder, shown, decided, hclosed]
    · simp only [readUnder, shown, decided, hfault]
  · rfl
  · rfl

end Reads

/-! ## Writes -/

section Writes

variable {faults : Faults}

/-- Bytes for which there is room are taken as a whole. -/
theorem write_under_of_room {stream : Stream} {bytes : Bytes}
    (hroom : ∀ limit, faults.limit = some limit → (stream.written ++ bytes).length ≤ limit) :
    (stream.under faults).write bytes
      = (none, ({ stream with written := stream.written ++ bytes } : Stream).under faults) := by
  unfold Stream.write Stream.under
  cases hlimit : faults.limit with
  | none => rfl
  | some limit =>
    have hlength := hroom limit hlimit
    rw [List.length_append] at hlength
    have hleft : limit - stream.written.length - bytes.length
        = limit - (stream.written ++ bytes).length := by
      rw [List.length_append, Nat.sub_sub]
    have hfits : bytes.length ≤ limit - stream.written.length := by omega
    simp only [Option.map_some, if_pos hfits, hleft]

/-- Of more bytes than there is room for, those are taken that fill it. -/
theorem write_under_of_full {stream : Stream} {bytes : Bytes} {limit : Nat}
    (hlimit : faults.limit = some limit) (hthere : stream.written.length ≤ limit)
    (hlong : limit < (stream.written ++ bytes).length) :
    (stream.under faults).write bytes
      = (some (faults.write.getD .nothingWritten), { stream.under faults with
          written := (stream.written ++ bytes).take limit
          room := some 0 }) := by
  have htaken : (stream.written ++ bytes).take limit
      = stream.written ++ bytes.take (limit - stream.written.length) := by
    rw [List.take_append, List.take_of_length_le hthere]
  rw [List.length_append] at hlong
  have hmore : ¬ bytes.length ≤ limit - stream.written.length := by omega
  rw [htaken]
  unfold Stream.write Stream.under
  simp only [hlimit, Option.map_some, if_neg hmore]

/-- **A write under faults** either is taken as a whole, or it stops at a fault. -/
theorem writeBytes_under {transport : Transport} (h : faults.Passes transport.stream)
    (bytes : Bytes) :
    ((transport.under faults).writeBytes bytes = (.ok (), (transport.wrote bytes).under faults) ∧
      faults.Passes (transport.wrote bytes).stream) ∨
    ∃ fault after, (transport.under faults).writeBytes bytes = (.error (.stream fault), after) ∧
      faults.Stops (transport.wrote bytes).stream fault after.stream.written := by
  have hstream : (transport.under faults).stream = transport.stream.under faults := rfl
  unfold writeBytes
  rw [hstream]
  by_cases hroom : ∀ limit, faults.limit = some limit →
      (transport.stream.written ++ bytes).length ≤ limit
  · rw [write_under_of_room hroom]
    have hnext (wrote : Stream) (h : wrote.flushes = transport.stream.flushes) :
        (wrote.under faults).nextFlush
          = if transport.stream.flushes < faults.steady then none else faults.flush := by
      rw [← h]
      rfl
    simp only [Stream.flush, hnext]
    by_cases hsteady : transport.stream.flushes < faults.steady
    · rw [if_pos hsteady]
      exact .inl ⟨rfl, hroom, .inr hsteady⟩
    · rw [if_neg hsteady]
      cases hflush : faults.flush with
      | none => exact .inl ⟨rfl, hroom, .inl hflush⟩
      | some fault =>
        -- all was taken, but it was not pushed out
        exact .inr ⟨_, _, rfl, .stuck hflush List.prefix_rfl
          (Nat.lt_succ_of_le (Nat.not_lt.mp hsteady))⟩
  · obtain ⟨limit, hlimit, hlong⟩ : ∃ limit, faults.limit = some limit ∧
        limit < (transport.stream.written ++ bytes).length := by
      simpa using hroom
    right
    rw [write_under_of_full hlimit (h.room limit hlimit) hlong]
    exact ⟨_, _, rfl, .full hlimit hlong⟩

theorem sent_singleton (transport : Transport) (packet : Packet) :
    transport.sent [packet] = { transport.wrote packet.encode with
      packetsSent := transport.packetsSent + 1 } := by
  rw [← sent_cons, sent_nil]

theorem sent_sent (transport : Transport) (packet : Packet) (packets : List Packet) :
    (transport.sent [packet]).sent packets = transport.sent (packet :: packets) := by
  rw [sent_singleton, sent_cons]

theorem writePacket_under {transport : Transport} (h : faults.Passes transport.stream)
    (packet : Packet) :
    ((transport.under faults).writePacket packet = (.ok (), (transport.sent [packet]).under faults) ∧
      faults.Passes (transport.sent [packet]).stream) ∨
    ∃ fault after, (transport.under faults).writePacket packet = (.error (.stream fault), after) ∧
      faults.Stops (transport.sent [packet]).stream fault after.stream.written := by
  unfold writePacket
  rw [sent_singleton]
  rcases writeBytes_under h packet.encode with ⟨hwrite, hpasses⟩ | ⟨fault, after, hwrite, hstops⟩
  · rw [hwrite]
    exact .inl ⟨rfl, hpasses⟩
  · rw [hwrite]
    exact .inr ⟨fault, after, rfl, hstops⟩

/-- **Replies under faults** either are sent to the last one, or one of them stops at a fault. -/
theorem sendReplies_under {transport : Transport} (h : faults.Passes transport.stream)
    (peer : String) (replies : List Packet) :
    (Session.sendReplies peer replies (transport.under faults) =
        (.ok (), (transport.sent replies).under faults, replies.flatMap (Event.sent peer)) ∧
      faults.Passes (transport.sent replies).stream) ∨
    ∃ fault after events, Session.sendReplies peer replies (transport.under faults) =
        (.error (.stream fault), after, events) ∧
      faults.Stops (transport.sent replies).stream fault after.stream.written := by
  induction replies generalizing transport with
  | nil =>
    left
    rw [sent_nil]
    exact ⟨rfl, h⟩
  | cons packet rest ih =>
    rw [← sent_sent, Session.sendReplies]
    rcases writePacket_under h packet with ⟨hwrite, hpasses⟩ | ⟨fault, after, hwrite, hstops⟩
    · rw [hwrite]
      rcases ih hpasses with ⟨hrest, hall⟩ | ⟨fault, after, events, hrest, hstops⟩
      · left
        simp only [hrest]
        exact ⟨rfl, hall⟩
      · right
        simp only [hrest]
        exact ⟨fault, after, _, rfl, hstops⟩
    · right
      rw [hwrite]
      exact ⟨fault, after, [], rfl, hstops.mono (List.prefix_append _ _) (Nat.le_add_right _ _)⟩

end Writes

end Transport

end MockSsh
