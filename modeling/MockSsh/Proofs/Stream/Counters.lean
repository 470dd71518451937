import Mathlib.Data.List.Forall2
import MockSsh.Proofs.Stream.Operations

/-!
The counters of a transport over calls in any order, whatever comes of each. `past_eq` adds up what
`Step.after_eq` says of one call: the stream is left as all the operations leave it, and a counter
has moved by what its calls gave or wrote. The rest follows the same calls: the packets given are
numbered as they are counted (`sequence_eq`), bytes are given or still to come as long as every read
gave its own (`Stream.sum_completed_add_unread`), and what stands written is one piece for each
write, all of its bytes or at least the first of them (`written_past`).
-/
namespace MockSsh

/-! ## Operations -/

namespace Stream

/-- Every read gave its bytes. -/
def ReadsGave (trace : List Performed) : Prop :=
  ∀ size fault, (Operation.read size, fault) ∈ trace → fault = none

/-- A read that gives its bytes takes them, and nothing else does. -/
theorem unread_perform (stream : Stream) (operation : Operation)
    (h : ∀ size, operation = .read size → (stream.perform operation).1 = none) :
    (completed [(operation, (stream.perform operation).1)]).sum
      + (stream.perform operation).2.unread = stream.unread := by
  cases operation with
  | read size =>
    have hnone := h size rfl
    obtain ⟨hgiven, hrest⟩ := stream.read_eq size
    rw [hnone]
    rw [perform] at hnone ⊢
    generalize stream.read size = read at *
    obtain ⟨_ | bytes, after⟩ := read
    · cases hnone
    · have hleft : after.unread = stream.unread - size := by
        unfold unread
        rw [hrest, List.length_drop]
      show size + 0 + after.unread = stream.unread
      split at hgiven
      · omega
      · cases hgiven
  | write bytes =>
    show 0 + (stream.write bytes).2.unread = stream.unread
    rw [Nat.zero_add]
    unfold write
    split
    · rfl
    · split <;> rfl
  | flush | shutdown => exact Nat.zero_add _

theorem sum_completed_cons (stream : Stream) (operation : Operation) (rest : List Operation) :
    (completed (stream.trace (operation :: rest))).sum
      = (completed [(operation, (stream.perform operation).1)]).sum
        + (completed ((stream.perform operation).2.trace rest)).sum := by
  rw [← List.sum_append, ← completed_append]
  rfl

/-- As long as no read failed, the bytes that were given and those still to come are all there were.
-/
theorem sum_completed_add_unread (stream : Stream) (operations : List Operation)
    (h : ReadsGave (stream.trace operations)) :
    (completed (stream.trace operations)).sum + (stream.past operations).unread
      = stream.unread := by
  induction operations generalizing stream with
  | nil => exact Nat.zero_add _
  | cons operation rest ih =>
    have hfirst := stream.unread_perform operation fun size hread =>
      h size _ (hread ▸ List.mem_cons_self)
    have hrest := ih (stream.perform operation).2 fun size fault hmem =>
      h size fault (List.mem_cons_of_mem _ hmem)
    rw [sum_completed_cons, ← hfirst, ← hrest, Nat.add_assoc]
    rfl

end Stream

/-! ## Writes -/

/-- What a stream holds of bytes that were to be written: all of them, or after a fault the first. -/
def Took (write : Bytes × Except Fault Unit) (piece : Bytes) : Prop :=
  match write.2 with
  | .ok () => piece = write.1
  | .error _ => piece <+: write.1

namespace Transport

theorem took_writeBytes (transport : Transport) (bytes : Bytes) :
    ∃ piece, Took (bytes, (transport.writeBytes bytes).1) piece ∧
      (transport.writeBytes bytes).2.stream.written = transport.stream.written ++ piece := by
  have hwrite : ∃ piece, piece <+: bytes ∧
      (transport.stream.write bytes).2.written = transport.stream.written ++ piece ∧
      ((transport.stream.write bytes).1 = none → piece = bytes) := by
    unfold Stream.write
    split
    · exact ⟨bytes, List.prefix_rfl, rfl, fun _ => rfl⟩
    · next room _ =>
      split
      · exact ⟨bytes, List.prefix_rfl, rfl, fun _ => rfl⟩
      · exact ⟨bytes.take room, List.take_prefix room bytes, rfl, fun h => by cases h⟩
  obtain ⟨piece, hbegins, hwritten, hwhole⟩ := hwrite
  refine ⟨piece, ?_⟩
  unfold writeBytes
  generalize transport.stream.write bytes = write at *
  obtain ⟨_ | fault, after⟩ := write
  · simp only
    cases hflush : after.flush with
    | mk fault last =>
      have hlast : last.written = after.written := by
        cases hflush
        rfl
      rcases fault with _ | fault
      · exact ⟨hwhole rfl, hlast.trans hwritten⟩
      · exact ⟨hbegins, hlast.trans hwritten⟩
  · exact ⟨hbegins, hwritten⟩

/-- A packet is written as its frame. -/
theorem writePacket_of_writeBytes (transport : Transport) (packet : Packet) :
    (transport.writePacket packet).1 = (transport.writeBytes packet.encode).1 ∧
      (transport.writePacket packet).2.stream = (transport.writeBytes packet.encode).2.stream := by
  unfold writePacket
  generalize transport.writeBytes packet.encode = write
  obtain ⟨_ | _, after⟩ := write <;> exact ⟨rfl, rfl⟩

/-- A call writes one piece, if it is to write, and nothing otherwise. -/
theorem Step.took_after (step : Step) :
    ∃ pieces, List.Forall₂ Took step.write?.toList pieces ∧
      step.after.stream.written = step.transport.stream.written ++ pieces.flatten := by
  have hnothing (h : step.write? = none)
      (hwritten : step.after.stream.written = step.transport.stream.written) :
      ∃ pieces, List.Forall₂ Took step.write?.toList pieces ∧
        step.after.stream.written = step.transport.stream.written ++ pieces.flatten := by
    rw [h, hwritten]
    exact ⟨[], .nil, (List.append_nil _).symm⟩
  obtain ⟨transport, call⟩ := step
  cases call with
  | readExact size => exact hnothing rfl (transport.drained_readExact size).written
  | readIdentification limit => exact hnothing rfl (transport.drained_readIdentification limit).written
  | readPacket limit => exact hnothing rfl (transport.drained_readPacket limit).written
  | writeIdentification line =>
    obtain ⟨piece, htook, hwritten⟩ := transport.took_writeBytes line
    exact ⟨[piece], .cons htook .nil, hwritten.trans (by rw [List.flatten_singleton])⟩
  | writePacket packet =>
    obtain ⟨piece, htook, hwritten⟩ := transport.took_writeBytes packet.encode
    obtain ⟨hresult, hstream⟩ := transport.writePacket_of_writeBytes packet
    rw [← hresult] at htook
    rw [← hstream] at hwritten
    exact ⟨[piece], .cons htook .nil, hwritten.trans (by rw [List.flatten_singleton])⟩
  | shutdown =>
    refine hnothing rfl ?_
    show transport.shutdown.2.stream.written = _
    rw [shutdown_snd]
    rfl

/-! ## Calls -/

/-- What the calls ask of the stream, one call after the other. -/
def operations (transport : Transport) (calls : List Call) : List Stream.Operation :=
  (transport.steps calls).flatMap Step.operations

/-- The packets that the calls gave. -/
def packets (transport : Transport) (calls : List Call) : List Inbound :=
  (transport.steps calls).filterMap Step.inbound?

/-- How many of the calls sent a packet. -/
def countSent (transport : Transport) (calls : List Call) : Nat :=
  (transport.steps calls).countP Step.sent

/-- What the calls wrote without a fault, piece by piece. -/
def wholes (transport : Transport) (calls : List Call) : List Bytes :=
  (transport.steps calls).filterMap Step.wrote?

section Cons

variable (transport : Transport) (call : Call) (rest : List Call)

theorem operations_cons :
    transport.operations (call :: rest)
      = Step.operations ⟨transport, call⟩ ++ (Step.after ⟨transport, call⟩).operations rest :=
  List.flatMap_cons

theorem packets_cons :
    transport.packets (call :: rest)
      = (Step.inbound? ⟨transport, call⟩).toList
        ++ (Step.after ⟨transport, call⟩).packets rest := by
  rw [packets, steps, List.filterMap_cons]
  cases Step.inbound? ⟨transport, call⟩ <;> rfl

theorem countSent_cons :
    transport.countSent (call :: rest)
      = (Step.sent ⟨transport, call⟩).toNat
        + (Step.after ⟨transport, call⟩).countSent rest := by
  rw [countSent, steps, List.countP_cons, Nat.add_comm]
  cases Step.sent ⟨transport, call⟩ <;> rfl

theorem wholes_cons :
    transport.wholes (call :: rest)
      = (Step.wrote? ⟨transport, call⟩).toList
        ++ (Step.after ⟨transport, call⟩).wholes rest := by
  rw [wholes, steps, List.filterMap_cons]
  cases Step.wrote? ⟨transport, call⟩ <;> rfl

end Cons

theorem operations_append (transport : Transport) (calls others : List Call) :
    transport.operations (calls ++ others)
      = transport.operations calls ++ (transport.past calls).operations others := by
  rw [operations, steps_append, List.flatMap_append]
  rfl

/-- **Calls** leave the stream as their operations leave it. They count the packets that they gave
and those that they sent, the bytes of the reads that were completed, and the bytes of the writes
that met no fault. -/
theorem past_eq (transport : Transport) (calls : List Call) :
    transport.past calls =
      { stream := transport.stream.past (transport.operations calls)
        packetsReceived := transport.packetsReceived
          + UInt32.ofNat (transport.packets calls).length
        packetsSent := transport.packetsSent + UInt32.ofNat (transport.countSent calls)
        bytesRead := transport.bytesRead
          + (Stream.completed (transport.stream.trace (transport.operations calls))).sum
        bytesWritten := transport.bytesWritten
          + ((transport.wholes calls).map List.length).sum } := by
  induction calls generalizing transport with
  | nil =>
    simp [past, steps, operations, packets, countSent, wholes, Stream.past, Stream.trace,
      Stream.completed]
  | cons call rest ih =>
    rw [operations_cons, packets_cons, countSent_cons, wholes_cons]
    have hafter := Step.after_eq ⟨transport, call⟩
    show (Step.after ⟨transport, call⟩).past rest = _
    rw [ih]
    generalize Step.after ⟨transport, call⟩ = after at *
    have hstream := congrArg Transport.stream hafter
    have hreceived := congrArg Transport.packetsReceived hafter
    have hsent := congrArg Transport.packetsSent hafter
    have hread := congrArg Transport.bytesRead hafter
    have hwritten := congrArg Transport.bytesWritten hafter
    simp only at hstream hreceived hsent hread hwritten
    simp only [hreceived, hsent, hread, hwritten, hstream, Stream.past_append, Stream.trace_append,
      Stream.completed_append, List.map_append, List.sum_append, List.length_append,
      UInt32.ofNat_add, UInt32.add_assoc, Nat.add_assoc]
    rfl

theorem stream_past (transport : Transport) (calls : List Call) :
    (transport.past calls).stream = transport.stream.past (transport.operations calls) :=
  congrArg Transport.stream (transport.past_eq calls)

/-- A packet has the number counted before it. -/
theorem Step.sequence_of_inbound {step : Step} {inbound : Inbound}
    (h : step.inbound? = some inbound) : inbound.sequence = step.transport.packetsReceived := by
  obtain ⟨transport, call⟩ := step
  cases call with
  | readPacket limit =>
    simp only [inbound?] at h
    rcases transport.readPacket_cases limit with ⟨packet, hread⟩ | ⟨hnone, -⟩
    · rw [hread] at h
      cases h
      rfl
    · cases hnone.symm.trans h
  | readExact _ | readIdentification _ | writeIdentification _ | writePacket _ | shutdown => cases h

/-- **The packets** that calls give are numbered from where the count stood. -/
theorem sequence_eq (transport : Transport) (calls : List Call) {index : Nat} {inbound : Inbound}
    (h : (transport.packets calls)[index]? = some inbound) :
    inbound.sequence = transport.packetsReceived + UInt32.ofNat index := by
  induction calls generalizing transport index with
  | nil => simp [packets, steps] at h
  | cons call rest ih =>
    have hafter := congrArg Transport.packetsReceived (Step.after_eq ⟨transport, call⟩)
    rw [packets_cons] at h
    cases hfirst : Step.inbound? ⟨transport, call⟩ with
    | none =>
      rw [hfirst] at h hafter
      rw [ih _ h, hafter]
      exact congrArg (· + _) (UInt32.add_zero _)
    | some first =>
      rw [hfirst] at h hafter
      cases index with
      | zero =>
        cases h
        rw [Step.sequence_of_inbound hfirst]
        exact (UInt32.add_zero _).symm
      | succ index =>
        rw [ih _ h, hafter, Nat.add_comm index, UInt32.ofNat_add, ← UInt32.add_assoc]
        rfl

/-- **What stands written** after calls: a piece for each of the writes. -/
theorem written_past (transport : Transport) (calls : List Call) :
    ∃ pieces, List.Forall₂ Took ((transport.steps calls).filterMap Step.write?) pieces ∧
      (transport.past calls).stream.written = transport.stream.written ++ pieces.flatten := by
  induction calls generalizing transport with
  | nil => exact ⟨[], .nil, (List.append_nil _).symm⟩
  | cons call rest ih =>
    obtain ⟨first, htook, hfirst⟩ := Step.took_after ⟨transport, call⟩
    obtain ⟨pieces, hpieces, hrest⟩ := ih (Step.after ⟨transport, call⟩)
    refine ⟨first ++ pieces, ?_, ?_⟩
    · rw [steps, List.filterMap_cons]
      have hboth := List.rel_append htook hpieces
      cases hwrite : Step.write? ⟨transport, call⟩ with
      | none => rwa [hwrite] at hboth
      | some write => rwa [hwrite] at hboth
    · show ((Step.after ⟨transport, call⟩).past rest).stream.written = _
      rw [hrest, hfirst, List.flatten_append, List.append_assoc]

/-- **The counters** of a transport after any calls, in any order, whatever comes of each. The calls
did these operations on the stream and no other. Counted as received are the packets that were
given, numbered in their order from 0; as sent, the packets whose writing met no fault; as read, the
bytes of the exact reads that were completed, which with those still to come are all there were as
long as no read failed. What stands written is one piece for each write: all of its bytes, or where
it met a fault the first of them; and the bytes counted as written are those of the writes that met
none. -/
theorem counters_of_calls (stream : Stream) (calls : List Call) :
    let fresh := ofStream stream
    let after := fresh.past calls
    let performed := stream.trace (fresh.operations calls)
    after.stream = stream.past (fresh.operations calls) ∧
    after.packetsReceived = UInt32.ofNat (fresh.packets calls).length ∧
    (∀ index inbound, (fresh.packets calls)[index]? = some inbound →
      inbound.sequence = UInt32.ofNat index) ∧
    after.packetsSent = UInt32.ofNat (fresh.countSent calls) ∧
    after.bytesRead = (Stream.completed performed).sum ∧
    (Stream.ReadsGave performed → after.bytesRead + after.stream.unread = stream.unread) ∧
    (∃ pieces, List.Forall₂ Took ((fresh.steps calls).filterMap Step.write?) pieces ∧
      after.stream.written = stream.written ++ pieces.flatten) ∧
    after.bytesWritten = ((fresh.wholes calls).map List.length).sum := by
  intro fresh after performed
  have hafter : after = _ := fresh.past_eq calls
  have hread : after.bytesRead = (Stream.completed performed).sum := by
    rw [hafter]
    exact Nat.zero_add _
  have hstream : after.stream = stream.past (fresh.operations calls) := fresh.stream_past calls
  refine ⟨hstream, ?_, fun index inbound hgiven => ?_, ?_, hread, fun hgave => ?_,
    fresh.written_past calls, ?_⟩
  · rw [hafter]
    exact UInt32.zero_add _
  · rw [fresh.sequence_eq calls hgiven]
    exact UInt32.zero_add _
  · rw [hafter]
    exact UInt32.zero_add _
  · rw [hread, hstream]
    exact stream.sum_completed_add_unread _ hgave
  · rw [hafter]
    exact Nat.zero_add _

/-- A stream that takes thirteen bytes and ends in a fault. A line comes, a packet is sent, the next
is written in part, and a packet comes: so far all bytes are given or still to come. Then a packet
is cut short, and the two bytes of it that were there are neither. -/
theorem counters_of_calls_interleaved :
    let stream : Stream := { Stream.ofInput [] with
      chunks := [[83, 10, 0, 0], [0, 6, 4, 21, 0, 0, 0, 0], [0, 0, 0, 9, 4, 2, 7]]
      ending := some ⟨.timedOut, "late"⟩
      room := some 13 }
    let early : List Call :=
      [.readIdentification 255, .writePacket ⟨21, [], 4⟩, .writePacket ⟨2, [], 4⟩, .readPacket 64]
    let calls := early ++ [.readPacket 64, .shutdown]
    let fresh := ofStream stream
    (fresh.past early).bytesRead + (fresh.past early).stream.unread = 19 ∧
    (fresh.past calls).bytesRead + (fresh.past calls).stream.unread = 17 ∧
    (fresh.past calls).packetsReceived = 1 ∧ (fresh.past calls).packetsSent = 1 ∧
    (fresh.past calls).bytesWritten = 10 ∧
    ∃ pieces, List.Forall₂ Took
        [(Packet.encode ⟨21, [], 4⟩, .ok ()),
          (Packet.encode ⟨2, [], 4⟩, .error (.stream .nothingWritten))] pieces ∧
      (fresh.past calls).stream.written = pieces.flatten := by
  intro stream early calls fresh
  have hgave : Stream.ReadsGave (stream.trace (fresh.operations early)) := by
    have htrace : stream.trace (fresh.operations early) =
        [(.read 1, none), (.read 1, none), (.write (Packet.encode ⟨21, [], 4⟩), none),
          (.flush, none), (.write (Packet.encode ⟨2, [], 4⟩), some .nothingWritten),
          (.read 5, none), (.read 5, none)] := by decide
    rw [htrace]
    intro size fault hmem
    simp only [List.mem_cons, Prod.mk.injEq] at hmem
    grind
  obtain ⟨-, -, -, -, -, hconserved, -, -⟩ := counters_of_calls stream early
  obtain ⟨-, hreceived, -, hsent, hread, -, hpieces, hwritten⟩ := counters_of_calls stream calls
  refine ⟨hconserved hgave, ?_, hreceived, hsent, hwritten, hpieces⟩
  rw [hread]
  decide

end Transport
end MockSsh
