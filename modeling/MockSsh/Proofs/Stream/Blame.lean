import MockSsh.Proofs.Stream.Counters

/-!
Where the faults of a transport come from. An operation on the stream may meet a fault; reads and
shutdowns take some of them for an orderly close, and writes take none. If a call fails, one of its
operations has met the fault and did not take it so (`Stream.Raised`); or bytes that were read are
to blame, and then no operation of the call has met any fault (`Transport.accounts_readPacket`,
`Transport.accounts_readIdentification`). A call that gives what was asked for has met none either.
-/
namespace MockSsh

/-! ## Operations -/

namespace Stream

/-- Whether the operation takes the fault for an orderly close. -/
def Operation.isOrderly : Operation → StreamFault → Bool
  | .read _, fault => fault.isClosed
  | .shutdown, fault => fault.isClosed || fault.kind == .notConnected
  | .write _, _ | .flush, _ => false

/-- An operation has met the fault, and did not take it for an orderly close. -/
def Raised (trace : List Performed) (fault : Fault) : Prop :=
  ∃ operation cause, (operation, some cause) ∈ trace ∧ operation.isOrderly cause = false ∧
    fault = .stream cause

/-- The fault was raised by an operation, or no operation has met any and the peer is to blame. -/
def Blamed (trace : List Performed) (fault : Fault) : Prop :=
  Raised trace fault ∨ Untroubled trace ∧ fault.isPeerFault = true

theorem Raised.append_left {trace : List Performed} {fault : Fault} (h : Raised trace fault)
    (later : List Performed) : Raised (trace ++ later) fault := by
  obtain ⟨operation, cause, hmem, hraises, hfault⟩ := h
  exact ⟨operation, cause, List.mem_append_left _ hmem, hraises, hfault⟩

theorem Raised.append_right {later : List Performed} {fault : Fault} (h : Raised later fault)
    (trace : List Performed) : Raised (trace ++ later) fault := by
  obtain ⟨operation, cause, hmem, hraises, hfault⟩ := h
  exact ⟨operation, cause, List.mem_append_right _ hmem, hraises, hfault⟩

theorem Blamed.append_right {trace later : List Performed} {fault : Fault}
    (h : Blamed later fault) (htrace : Untroubled trace) : Blamed (trace ++ later) fault := by
  rcases h with hraised | ⟨hlater, hpeer⟩
  · exact .inl (hraised.append_right trace)
  · exact .inr ⟨htrace.append hlater, hpeer⟩

theorem untroubled_nil : Untroubled [] :=
  fun _ hmem => absurd hmem List.not_mem_nil

/-- The trace accounts for what was read: nothing went wrong if it was given, and a fault is to be
blamed. -/
inductive Accounts {α : Type} (trace : List Performed) : Except Fault (Option α) → Prop
  | given {answer : α} (h : Untroubled trace) : Accounts trace (.ok (some answer))
  | nothing : Accounts trace (.ok none)
  | failed {fault : Fault} (h : Blamed trace fault) : Accounts trace (.error fault)

theorem Accounts.append_right {α : Type} {trace later : List Performed}
    {result : Except Fault (Option α)} (h : Accounts later result) (htrace : Untroubled trace) :
    Accounts (trace ++ later) result := by
  cases h with
  | given hlater => exact .given (htrace.append hlater)
  | nothing => exact .nothing
  | failed hblamed => exact .failed (hblamed.append_right htrace)

theorem Accounts.map {α β : Type} {trace : List Performed} {result : Except Fault (Option α)}
    (h : Accounts trace result) (f : α → β) : Accounts trace (result.map (Option.map f)) := by
  cases h with
  | given hgiven => exact .given hgiven
  | nothing => exact .nothing
  | failed hblamed => exact .failed hblamed

/-- Where all went well, the first read took its bytes. -/
theorem Untroubled.unread_add_le {stream : Stream} {size : Nat} {operations : List Operation}
    (h : Untroubled (stream.trace (.read size :: operations))) :
    (stream.past (.read size :: operations)).unread + size ≤ stream.unread := by
  have hsum := stream.sum_completed_add_unread (.read size :: operations)
    fun _ fault hmem => h (_, fault) hmem
  have hfirst : (stream.perform (.read size)).1 = none := h _ List.mem_cons_self
  rw [trace, hfirst, completed, List.filterMap_cons, completed?, List.sum_cons] at hsum
  omega

end Stream

/-! ## Refusals -/

/-- A field of a payload is cut short. -/
def PayloadFault.isCut : PayloadFault → Bool
  | wordCut .. | flagCut .. | stringCut .. => true
  | trailing _ | other _ => false

/-- The fault is of bytes that are too few or too many, and tells of nothing but their numbers. -/
def Fault.isOfSize : Fault → Bool
  | protocol (.frameCut ..) | protocol (.bodyCut ..) | protocol (.bodyTrailing _) => true
  | frame .. | identificationTooLong _ | packetTooLarge .. => true
  | payload cause => cause.isCut
  | _ => false

theorem Fault.isPeerFault_of_isOfSize (fault : Fault) (h : fault.isOfSize = true) :
    fault.isPeerFault = true := by
  cases fault with
  | protocol _ | frame _ _ | payload _ | identificationTooLong _ | packetTooLarge _ _ => rfl
  | stream _ | endpoint _ | config _ => cases h

/-! ## Reads -/

/-- Whatever the reads bring, the answer is such. -/
def Reading.Gives {α : Type} (P : α → Prop) : Reading α → Prop
  | give answer => P answer
  | ask _ next => ∀ bytes, (next bytes).Gives P

theorem Reading.Gives.mono {α : Type} {P Q : α → Prop} {reading : Reading α} (h : reading.Gives P)
    (hPQ : ∀ answer, P answer → Q answer) : reading.Gives Q := by
  induction reading with
  | give answer => exact hPQ answer h
  | ask size next ih => exact fun bytes => ih bytes (h bytes)

theorem Reading.Gives.run {α : Type} {P : α → Prop} {reading : Reading α} (h : reading.Gives P)
    {transport : Transport} {answer : α} (hrun : (reading.run transport).1 = .ok (some answer)) :
    P answer := by
  induction reading generalizing transport with
  | give given =>
    cases hrun
    exact h
  | ask size next ih =>
    rw [Reading.run] at hrun
    generalize transport.readExact size = read at hrun
    obtain ⟨answer, after⟩ := read
    rcases answer with fault | _ | bytes
    · cases hrun
    · cases hrun
    · exact ih bytes (h bytes) hrun

namespace Transport

theorem accounts_readExact (transport : Transport) (size : Nat) :
    Stream.Accounts (transport.stream.trace [.read size]) (transport.readExact size).1 := by
  unfold readExact
  simp only [Stream.trace, Stream.perform]
  generalize transport.stream.read size = read
  obtain ⟨_ | bytes, after⟩ := read
  · simp only [endOfRead]
    cases after.ending with
    | none => exact .nothing
    | some cause =>
      simp only
      split
      · exact .nothing
      · next hopen =>
        refine .failed (.inl ⟨.read size, cause, List.mem_cons_self, ?_, rfl⟩)
        exact Bool.eq_false_iff.mpr hopen
  · exact .given (List.forall_mem_singleton.mpr rfl)

/-- The exact reads of a reader: the induction is on the reader. -/
theorem accounts_run {α : Type} (reading : Reading α) (transport : Transport) :
    Stream.Accounts (transport.stream.trace ((reading.sizes transport).map .read))
      (reading.run transport).1 := by
  induction reading generalizing transport with
  | give answer => exact .given Stream.untroubled_nil
  | ask size next ih =>
    have hread := transport.accounts_readExact size
    have hafter := congrArg Transport.stream (transport.readExact_snd size)
    rw [Reading.run, Reading.sizes]
    generalize transport.readExact size = read at hread hafter ⊢
    obtain ⟨answer, after⟩ := read
    have hstream : after.stream = (transport.stream.perform (.read size)).2 := hafter
    cases hread with
    | failed hblamed => exact .failed hblamed
    | nothing => exact .nothing
    | given hgiven =>
      simp only [List.map_cons, Stream.trace, ← hstream]
      exact (ih _ after).append_right hgiven

/-- Where a packet or a line was read but refused, it has too few bytes or too many. -/
def RefusesSize {α : Type} (answer : Except Fault α) : Prop :=
  ∀ fault, answer = .error fault → fault.isOfSize = true

theorem refusesSize_ofFrame (frame : Bytes) : RefusesSize (Packet.ofFrame frame) := by
  intro fault h
  unfold Packet.ofFrame at h
  split at h
  · simp only at h
    split at h
    · cases h
      rfl
    · split at h
      · cases h
        rfl
      · unfold Packet.ofBody at h
        split at h
        · cases h
          rfl
        · split at h
          · cases h
            rfl
          · cases h
  · cases h
    rfl

theorem refusesSize_packetReading (limit : Nat) : (packetReading limit).Gives RefusesSize := by
  intro header
  simp only
  split
  · rintro fault ⟨⟩
    rfl
  · exact fun body => refusesSize_ofFrame _

theorem refusesSize_lineReading (allowed : Nat) (seen : Bytes) :
    (lineReading allowed seen).Gives RefusesSize := by
  induction allowed generalizing seen with
  | zero =>
    rintro (_ | ⟨byte, rest⟩)
    · rintro fault ⟨⟩
    · show RefusesSize (if byte = lineFeed then _ else _)
      split
      · rintro fault ⟨⟩
      · rintro fault ⟨⟩
        rfl
  | succ allowed ih =>
    rintro (_ | ⟨byte, rest⟩)
    · rintro fault ⟨⟩
    · simp only
      split
      · rintro fault ⟨⟩
      · exact ih _

/-- Where a packet or a line was read but refused, the peer is to blame. -/
def BlamesPeer {α : Type} (answer : Except Fault α) : Prop :=
  ∀ fault, answer = .error fault → fault.isPeerFault = true

theorem RefusesSize.blamesPeer {α : Type} {answer : Except Fault α} (h : RefusesSize answer) :
    BlamesPeer answer :=
  fun fault herror => fault.isPeerFault_of_isOfSize (h fault herror)

theorem gives_packetReading (limit : Nat) : (packetReading limit).Gives BlamesPeer :=
  (refusesSize_packetReading limit).mono fun _ => RefusesSize.blamesPeer

theorem gives_lineReading (allowed : Nat) (seen : Bytes) :
    (lineReading allowed seen).Gives BlamesPeer :=
  (refusesSize_lineReading allowed seen).mono fun _ => RefusesSize.blamesPeer

/-- What a reader gives or refuses is accounted for, where it refuses nothing but what the peer is to
blame for. -/
theorem accounts_decided {α : Type} {reading : Reading (Except Fault α)}
    (h : reading.Gives BlamesPeer) (transport : Transport) :
    Stream.Accounts (transport.stream.trace ((reading.sizes transport).map .read))
      (decided (reading.run transport)).1 := by
  have hread := transport.accounts_run reading
  have hpeer {answer : Except Fault α}
      (hrun : (reading.run transport).1 = .ok (some answer)) : BlamesPeer answer := h.run hrun
  generalize reading.run transport = read at *
  obtain ⟨answer, after⟩ := read
  cases hread with
  | failed hblamed => exact .failed hblamed
  | nothing => exact .nothing
  | @given answer hgiven =>
    cases answer with
    | error fault => exact .failed (.inr ⟨hgiven, hpeer rfl fault rfl⟩)
    | ok answer => exact .given hgiven

/-- **A packet** is read without a fault, or there is one to be blamed. -/
theorem accounts_readPacket (transport : Transport) (limit : Nat) :
    Stream.Accounts (Step.trace ⟨transport, .readPacket limit⟩) (transport.readPacket limit).1 := by
  have hread : Stream.Accounts (Step.trace ⟨transport, .readPacket limit⟩) _ :=
    accounts_decided (gives_packetReading limit) transport
  rw [readPacket_gives]
  exact hread.map _

/-- **A line** is read without a fault, or there is one to be blamed. -/
theorem accounts_readIdentification (transport : Transport) (limit : Nat) :
    Stream.Accounts (Step.trace ⟨transport, .readIdentification limit⟩)
      (transport.readIdentification limit).1 := by
  have hread : Stream.Accounts (Step.trace ⟨transport, .readIdentification limit⟩) _ :=
    accounts_decided (gives_lineReading (limit - 1) []) transport
  rw [readIdentification_gives]
  exact hread.map _

/-! ## Writes -/

/-- **A write** meets no fault, or raises the one that it gives. -/
theorem blame_writeBytes (transport : Transport) (bytes : Bytes) :
    let trace := transport.stream.trace (transport.writeOperations bytes)
    (transport.writeBytes bytes).1 = .ok () ∧ Stream.Untroubled trace ∨
      ∃ fault, (transport.writeBytes bytes).1 = .error fault ∧ Stream.Raised trace fault := by
  unfold writeBytes writeOperations
  simp only [Stream.trace, Stream.perform]
  generalize transport.stream.write bytes = write
  obtain ⟨_ | cause, after⟩ := write
  · simp only [Stream.trace, Stream.perform]
    generalize after.flush = flush
    obtain ⟨_ | cause, last⟩ := flush
    · refine .inl ⟨rfl, List.forall_mem_cons.mpr ⟨rfl, List.forall_mem_singleton.mpr rfl⟩⟩
    · exact .inr ⟨_, rfl, .flush, cause, List.mem_cons_of_mem _ List.mem_cons_self, rfl, rfl⟩
  · exact .inr ⟨_, rfl, .write bytes, cause, List.mem_cons_self, rfl, rfl⟩

theorem blame_writePacket (transport : Transport) (packet : Packet) :
    let trace := Step.trace ⟨transport, .writePacket packet⟩
    (transport.writePacket packet).1 = .ok () ∧ Stream.Untroubled trace ∨
      ∃ fault, (transport.writePacket packet).1 = .error fault ∧ Stream.Raised trace fault := by
  rw [(transport.writePacket_of_writeBytes packet).1]
  exact transport.blame_writeBytes packet.encode

/-! ## Calls -/

/-- What became of all operations of the calls. -/
def trace (transport : Transport) (calls : List Call) : List Stream.Performed :=
  transport.stream.trace (transport.operations calls)

theorem trace_cons (transport : Transport) (call : Call) (rest : List Call) :
    transport.trace (call :: rest)
      = Step.trace ⟨transport, call⟩ ++ (Step.after ⟨transport, call⟩).trace rest := by
  have hstream := congrArg Transport.stream (Step.after_eq ⟨transport, call⟩)
  rw [trace, operations_cons, Stream.trace_append, trace, hstream]
  rfl

theorem trace_append (transport : Transport) (calls others : List Call) :
    transport.trace (calls ++ others)
      = transport.trace calls ++ (transport.past calls).trace others := by
  rw [trace, operations_append, Stream.trace_append, ← stream_past]
  rfl

end Transport
end MockSsh
