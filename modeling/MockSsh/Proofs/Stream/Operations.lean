import Mathlib.Algebra.GroupWithZero.Nat
import MockSsh.Proofs.Stream.Onward

/-!
What a call on a transport does. It makes operations on the stream, one after the other: reads of an
exact size, writes, flushes and shutdowns. `Step.operations` lists them and `Step.trace` tells which
fault each of them met. `Step.after_eq` says all that a call does: the stream is left as its
operations leave it, and every counter moves by what the call gave or wrote.
-/
namespace MockSsh

/-! ## Operations on a stream -/

/-- What a stream can be asked to do. -/
inductive Stream.Operation
  | read (size : Nat)
  | write (bytes : Bytes)
  | flush
  | shutdown
deriving DecidableEq, Repr

/-- What a read meets where the bytes have come to an orderly end. -/
def StreamFault.endOfInput : StreamFault := ⟨.unexpectedEnd, "early eof"⟩

namespace Stream

/-- An operation with the fault that it met, if it met one. -/
abbrev Performed := Operation × Option StreamFault

/-- Does an operation: the fault that it meets, and the stream afterwards. -/
def perform (stream : Stream) : Operation → Option StreamFault × Stream
  | .read size =>
    match stream.read size with
    | (some _, after) => (none, after)
    | (none, after) => (some (after.ending.getD .endOfInput), after)
  | .write bytes => stream.write bytes
  | .flush => stream.flush
  | .shutdown => stream.shutdown

/-- The stream after operations. -/
def past (stream : Stream) (operations : List Operation) : Stream :=
  operations.foldl (fun stream operation => (stream.perform operation).2) stream

/-- The operations, each with what became of it. -/
def trace : Stream → List Operation → List Performed
  | _, [] => []
  | stream, operation :: rest =>
    (operation, (stream.perform operation).1) :: (stream.perform operation).2.trace rest

theorem past_append (stream : Stream) (operations others : List Operation) :
    stream.past (operations ++ others) = (stream.past operations).past others :=
  List.foldl_append

theorem trace_append (stream : Stream) (operations others : List Operation) :
    stream.trace (operations ++ others)
      = stream.trace operations ++ (stream.past operations).trace others := by
  induction operations generalizing stream with
  | nil => rfl
  | cons operation rest ih => exact congrArg (_ :: ·) (ih _)

/-- Nothing went wrong. -/
def Untroubled (trace : List Performed) : Prop :=
  ∀ performed ∈ trace, performed.2 = none

theorem Untroubled.append {trace later : List Performed} (h : Untroubled trace)
    (hlater : Untroubled later) : Untroubled (trace ++ later) :=
  List.forall_mem_append.mpr ⟨h, hlater⟩

/-- The size of a read that gave its bytes. -/
def completed? : Performed → Option Nat
  | (.read size, none) => some size
  | _ => none

/-- The sizes of the reads that gave their bytes. -/
def completed (trace : List Performed) : List Nat :=
  trace.filterMap completed?

theorem completed_append (trace later : List Performed) :
    completed (trace ++ later) = completed trace ++ completed later :=
  List.filterMap_append

end Stream

/-! ## Calls on a transport -/

namespace Transport

/-- What a transport can be called for. -/
inductive Call
  | readExact (size : Nat)
  | readIdentification (limit : Nat)
  | readPacket (limit : Nat)
  | writeIdentification (line : Bytes)
  | writePacket (packet : Packet)
  | shutdown
deriving DecidableEq, Repr

/-- A call, and the transport on which it is made. -/
structure Step where
  transport : Transport
  call : Call

/-- What is asked of a stream in order to write: what it took is pushed out. -/
def writeOperations (transport : Transport) (bytes : Bytes) : List Stream.Operation :=
  .write bytes :: match (transport.stream.write bytes).1 with
    | none => [.flush]
    | some _ => []

namespace Step

/-- The transport after the call, whatever came of it. -/
def after (step : Step) : Transport :=
  match step.call with
  | .readExact size => (step.transport.readExact size).2
  | .readIdentification limit => (step.transport.readIdentification limit).2
  | .readPacket limit => (step.transport.readPacket limit).2
  | .writeIdentification line => (step.transport.writeIdentification line).2
  | .writePacket packet => (step.transport.writePacket packet).2
  | .shutdown => step.transport.shutdown.2

/-- What the call asks of the stream, in this order. -/
def operations (step : Step) : List Stream.Operation :=
  match step.call with
  | .readExact size => [.read size]
  | .readIdentification limit =>
    ((lineReading (limit - 1) []).sizes step.transport).map .read
  | .readPacket limit => ((packetReading limit).sizes step.transport).map .read
  | .writeIdentification line => step.transport.writeOperations line
  | .writePacket packet => step.transport.writeOperations packet.encode
  | .shutdown => [.shutdown]

/-- What became of the operations. -/
def trace (step : Step) : List Stream.Performed :=
  step.transport.stream.trace step.operations

/-- The packet that the call gave. -/
def inbound? (step : Step) : Option Inbound :=
  match step.call with
  | .readPacket limit => (step.transport.readPacket limit).1.toOption.join
  | _ => none

/-- Whether the call sent a packet. -/
def sent (step : Step) : Bool :=
  match step.call with
  | .writePacket packet => (step.transport.writePacket packet).1.isOk
  | _ => false

/-- What the call was to write, and what became of it. -/
def write? (step : Step) : Option (Bytes × Except Fault Unit) :=
  match step.call with
  | .writeIdentification line => some (line, (step.transport.writeIdentification line).1)
  | .writePacket packet => some (packet.encode, (step.transport.writePacket packet).1)
  | _ => none

/-- The bytes that the call wrote without a fault. -/
def wrote? (step : Step) : Option Bytes :=
  match step.write? with
  | some (bytes, .ok ()) => some bytes
  | _ => none

end Step

/-- The calls, each with the transport that the calls before it left. -/
def steps (transport : Transport) : List Call → List Step
  | [] => []
  | call :: rest => ⟨transport, call⟩ :: (Step.after ⟨transport, call⟩).steps rest

/-- The transport after calls. -/
def past (transport : Transport) (calls : List Call) : Transport :=
  calls.foldl (fun transport call => Step.after ⟨transport, call⟩) transport

theorem past_append (transport : Transport) (calls others : List Call) :
    transport.past (calls ++ others) = (transport.past calls).past others :=
  List.foldl_append

theorem steps_append (transport : Transport) (calls others : List Call) :
    transport.steps (calls ++ others)
      = transport.steps calls ++ (transport.past calls).steps others := by
  induction calls generalizing transport with
  | nil => rfl
  | cons call rest ih => exact congrArg (_ :: ·) (ih _)

/-! ## What a call does -/

/-- The transport after reads of these sizes. -/
def drained (transport : Transport) (sizes : List Nat) : Transport :=
  let operations := sizes.map Stream.Operation.read
  { transport with
    stream := transport.stream.past operations
    bytesRead := transport.bytesRead + (Stream.completed (transport.stream.trace operations)).sum }

/-- An exact read asks for its bytes once, and counts them if they come. -/
theorem readExact_snd (transport : Transport) (size : Nat) :
    (transport.readExact size).2 = transport.drained [size] := by
  unfold readExact drained
  simp only [List.map_cons, List.map_nil, Stream.past, List.foldl_cons, List.foldl_nil,
    Stream.trace, Stream.perform]
  generalize transport.stream.read size = read
  obtain ⟨_ | bytes, after⟩ := read <;> rfl

theorem drained_cons (transport : Transport) (size : Nat) (sizes : List Nat) :
    (transport.drained [size]).drained sizes = transport.drained (size :: sizes) := by
  simp only [drained, List.map_cons, List.map_nil, Stream.past, List.foldl_cons, List.foldl_nil,
    Stream.trace, Stream.completed]
  congr 1
  rw [Nat.add_assoc, ← List.sum_append, ← List.filterMap_append]
  rfl

/-- A reader leaves what its exact reads leave. -/
theorem run_snd {α : Type} (reading : Reading α) (transport : Transport) :
    (reading.run transport).2 = transport.drained (reading.sizes transport) := by
  induction reading generalizing transport with
  | give answer => rfl
  | ask size next ih =>
    have hfirst := transport.readExact_snd size
    rw [Reading.run, Reading.sizes]
    generalize transport.readExact size = read at hfirst ⊢
    obtain ⟨answer, after⟩ := read
    rcases answer with fault | _ | bytes
    · exact hfirst
    · exact hfirst
    · rw [← drained_cons, ← hfirst]
      exact ih bytes after

theorem readIdentification_snd (transport : Transport) (limit : Nat) :
    (transport.readIdentification limit).2
      = transport.drained ((lineReading (limit - 1) []).sizes transport) := by
  rw [readIdentification_leaves, run_snd]

/-- A reader of packets also counts the packet that it gives, which has the number counted so far. -/
theorem readPacket_cases (transport : Transport) (limit : Nat) :
    let after := transport.drained ((packetReading limit).sizes transport)
    (∃ packet, transport.readPacket limit =
      (.ok (some ⟨transport.packetsReceived, packet⟩),
        { after with packetsReceived := transport.packetsReceived + 1 })) ∨
    (transport.readPacket limit).1.toOption.join = none ∧ (transport.readPacket limit).2 = after := by
  intro after
  have hafter : ((packetReading limit).run transport).2 = after := run_snd _ _
  have hcount : after.packetsReceived = transport.packetsReceived := rfl
  rw [readPacket_eq_reading]
  generalize after = last at hafter hcount
  generalize (packetReading limit).run transport = read at hafter
  obtain ⟨answer, _⟩ := read
  subst hafter
  rcases answer with fault | _ | fault | packet
  · exact .inr ⟨rfl, rfl⟩
  · exact .inr ⟨rfl, rfl⟩
  · exact .inr ⟨rfl, rfl⟩
  · exact .inl ⟨packet, by rw [numbered, hcount]⟩

/-- A write meets a fault of the stream, or all of its bytes are written and counted. -/
theorem writeBytes_cases (transport : Transport) (bytes : Bytes) :
    let stream := transport.stream.past (transport.writeOperations bytes)
    (∃ fault, transport.writeBytes bytes = (.error (.stream fault), { transport with stream })) ∨
    transport.writeBytes bytes = (.ok (), { transport with
      stream, bytesWritten := transport.bytesWritten + bytes.length }) := by
  unfold writeBytes writeOperations Stream.past
  simp only [List.foldl_cons, Stream.perform]
  generalize transport.stream.write bytes = write
  obtain ⟨_ | fault, after⟩ := write
  · simp only [List.foldl_cons, List.foldl_nil]
    generalize after.flush = flush
    obtain ⟨_ | fault, last⟩ := flush
    · exact .inr rfl
    · exact .inl ⟨fault, rfl⟩
  · exact .inl ⟨fault, rfl⟩

/-- A packet is not written, for a fault of the stream, or it is written and counted. -/
theorem writePacket_cases (transport : Transport) (packet : Packet) :
    let stream := transport.stream.past (transport.writeOperations packet.encode)
    (∃ fault,
      transport.writePacket packet = (.error (.stream fault), { transport with stream })) ∨
    transport.writePacket packet = (.ok (), { transport with
      stream
      bytesWritten := transport.bytesWritten + packet.encode.length
      packetsSent := transport.packetsSent + 1 }) := by
  intro stream
  unfold writePacket
  rcases transport.writeBytes_cases packet.encode with ⟨fault, hwrite⟩ | hwrite
  · rw [hwrite]
    exact .inl ⟨fault, rfl⟩
  · rw [hwrite]
    exact .inr rfl

theorem completed_trace_writeOperations (transport : Transport) (bytes : Bytes) :
    Stream.completed (transport.stream.trace (transport.writeOperations bytes)) = [] := by
  unfold writeOperations
  split <;> rfl

/-- To shut the stream down moves no counter. -/
theorem shutdown_snd (transport : Transport) :
    transport.shutdown.2 = { transport with stream := transport.stream.past [.shutdown] } := by
  show _ = { transport with stream := transport.stream.shutdown.2 }
  unfold shutdown
  generalize transport.stream.shutdown = shutdown
  obtain ⟨_ | fault, after⟩ := shutdown
  · rfl
  · simp only
    split <;> rfl

/-- **A call** leaves the stream as its operations leave it. It counts the packet that it gave or
sent, the bytes of the reads that were completed, and the bytes that were written without a fault.
-/
theorem Step.after_eq (step : Step) :
    step.after =
      { stream := step.transport.stream.past step.operations
        packetsReceived := step.transport.packetsReceived
          + UInt32.ofNat step.inbound?.toList.length
        packetsSent := step.transport.packetsSent + UInt32.ofNat step.sent.toNat
        bytesRead := step.transport.bytesRead + (Stream.completed step.trace).sum
        bytesWritten := step.transport.bytesWritten
          + (step.wrote?.toList.map List.length).sum } := by
  obtain ⟨transport, call⟩ := step
  cases call with
  | readExact size =>
    simp [after, readExact_snd, drained, operations, trace, inbound?, sent, wrote?, write?]
  | readIdentification limit =>
    simp [after, readIdentification_snd, drained, operations, trace, inbound?, sent, wrote?, write?]
  | readPacket limit =>
    rcases transport.readPacket_cases limit with ⟨packet, hread⟩ | ⟨hnone, hread⟩
    · simp [after, hread, drained, operations, trace, inbound?, sent, wrote?, write?,
        Except.toOption]
    · simp [after, hread, drained, operations, trace, inbound?, hnone, sent, wrote?, write?]
  | writeIdentification line =>
    have hreads := transport.completed_trace_writeOperations line
    rcases transport.writeBytes_cases line with ⟨fault, hwrite⟩ | hwrite
    · simp [after, writeIdentification, hwrite, operations, trace, hreads, inbound?, sent, wrote?,
        write?]
    · simp [after, writeIdentification, hwrite, operations, trace, hreads, inbound?, sent, wrote?,
        write?]
  | writePacket packet =>
    have hreads := transport.completed_trace_writeOperations packet.encode
    rcases transport.writePacket_cases packet with ⟨fault, hwrite⟩ | hwrite
    · simp [after, hwrite, operations, trace, hreads, inbound?, sent, wrote?, write?,
        Except.isOk, Except.toBool]
    · simp [after, hwrite, operations, trace, hreads, inbound?, sent, wrote?, write?,
        Except.isOk, Except.toBool]
  | shutdown =>
    have hreads : Stream.completed (transport.stream.trace [.shutdown]) = [] := rfl
    simp [after, shutdown_snd, operations, trace, hreads, inbound?, sent, wrote?, write?]

end Transport
end MockSsh
