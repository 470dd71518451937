import MockSsh.Proofs.Stream.Counters
import MockSsh.Proofs.Stream.Line

/-!
What reading costs. Bytes that are read are counted, or lost where too few of them come; where a reader
gives something, none was lost (`Reading.supply_run_of_given`). A line takes the bytes up to its line
feed and a packet six bytes at least, whatever its header declares
(`Transport.bytesRead_readIdentification`, `Transport.bytesRead_readPacket`).

The number of reads is bounded by the bytes that they take. A read may ask for no byte at all, for the
body of a frame that declares none; the header in front of it has paid for it (`Reading.Paid`).
-/
namespace MockSsh

/-! ## Bytes that are counted, and bytes to come -/

namespace Transport

theorem endOfRead_ne_some {α : Type} {ending : Option StreamFault} (answer : α) :
    endOfRead ending ≠ .ok (some answer) := by
  unfold endOfRead
  split
  · exact fun h => by cases h
  · split <;> exact fun h => by cases h

/-- An exact read counts what it gives. If it gives nothing, all that was to come is lost. -/
theorem supply_readExact_cases (transport : Transport) (size : Nat) :
    let read := transport.readExact size
    (∃ bytes, read.1 = .ok (some bytes) ∧ read.2.stream.unread + size = transport.stream.unread ∧
      read.2.supply = transport.supply) ∨
    (∀ bytes, read.1 ≠ .ok (some bytes)) ∧ read.2.stream.unread = 0 ∧
      read.2.bytesRead = transport.bytesRead := by
  intro read
  by_cases hthere : size ≤ transport.stream.unread
  · have hread : Alike Recut read _ := readExact_of_le hthere
    have hgiven := congrArg Prod.fst (seen_of_alike hread)
    have hunread := hread.state.stream.unread
    have hsupply := hread.state.supply
    rw [Stream.unread, Stream.unread, pending_advance, List.length_drop] at hunread
    rw [supply_advance, List.length_drop] at hsupply
    refine .inl ⟨_, hgiven, ?_, ?_⟩
    · unfold Stream.unread at *
      omega
    · rw [hsupply, supply]
      unfold Stream.unread at *
      omega
  · have hread : Alike Recut read _ := readExact_of_lt (Nat.lt_of_not_le hthere)
    have hunread := hread.state.stream.unread
    have hsupply := hread.state.supply
    rw [Stream.unread, Stream.unread, pending_advance, List.length_nil] at hunread
    rw [supply_advance, List.length_nil, supply] at hsupply
    refine .inr ⟨fun bytes hbytes => ?_, hunread, ?_⟩
    · have hgiven := congrArg Prod.fst (seen_of_alike hread)
      exact endOfRead_ne_some bytes (hgiven.symm.trans hbytes)
    · unfold Stream.unread at *
      omega

end Transport

namespace Reading

variable {α : Type}

/-- A reader that gives something has counted all that it took. -/
theorem supply_run_of_given (reading : Reading α) {transport : Transport} {answer : α}
    (h : (reading.run transport).1 = .ok (some answer)) :
    (reading.run transport).2.supply = transport.supply := by
  induction reading generalizing transport with
  | give answer => rfl
  | ask size next ih =>
    have hread := transport.supply_readExact_cases size
    rw [run] at h ⊢
    generalize transport.readExact size = read at hread h ⊢
    obtain ⟨given, after⟩ := read
    rcases hread with ⟨bytes, hgiven, -, hsupply⟩ | ⟨hnone, -, -⟩
    · cases hgiven
      exact (ih bytes h).trans hsupply
    · rcases given with fault | _ | bytes
      · cases h
      · cases h
      · exact absurd rfl (hnone bytes)

/-! ## The number of reads -/

/-- Every read is paid for, with bytes that came before it or come by it, or out of the credit. A byte
pays for one read. -/
def Paid : Reading α → Nat → Prop
  | give _, _ => True
  | ask size next, credit => 0 < credit + size ∧ ∀ bytes, (next bytes).Paid (credit + size - 1)

/-- The reads that went unanswered: one, where a reader gives nothing. -/
def unanswered : Except Fault (Option α) → Nat
  | .ok (some _) => 0
  | _ => 1

/-- **The reads** are no more than the bytes that they took and the credit, but for one: that at which
the bytes came to their end. -/
theorem Paid.length_sizes_le {reading : Reading α} {credit : Nat} (h : reading.Paid credit)
    (transport : Transport) :
    let read := reading.run transport
    (reading.sizes transport).length + read.2.stream.unread ≤
      credit + transport.stream.unread + unanswered read.1 := by
  induction reading generalizing transport credit with
  | give answer =>
    simp only [sizes, run, List.length_nil, unanswered]
    omega
  | ask size next ih =>
    obtain ⟨hpays, hnext⟩ := h
    have hread := transport.supply_readExact_cases size
    rw [run, sizes]
    generalize transport.readExact size = read at hread ⊢
    obtain ⟨answer, after⟩ := read
    rcases hread with ⟨bytes, hgiven, hunread, -⟩ | ⟨hnone, hunread, -⟩
    · cases hgiven
      have hrest := ih bytes (hnext bytes) after
      simp only [List.length_cons] at hunread hrest ⊢
      omega
    · rcases answer with fault | _ | bytes
      · simp only [List.length_cons, List.length_nil, hunread, unanswered]
        omega
      · simp only [List.length_cons, List.length_nil, hunread, unanswered]
        omega
      · exact absurd rfl (hnone bytes)

end Reading

namespace Transport

theorem paid_lineReading (allowed : Nat) (seen : Bytes) : (lineReading allowed seen).Paid 0 := by
  induction allowed generalizing seen with
  | zero =>
    refine ⟨Nat.zero_lt_one, fun bytes => ?_⟩
    cases bytes <;> trivial
  | succ allowed ih =>
    refine ⟨Nat.zero_lt_one, fun bytes => ?_⟩
    cases bytes with
    | nil => trivial
    | cons byte rest =>
      simp only
      split
      · trivial
      · exact ih (byte :: seen)

/-- The header pays for the body, which may be empty. -/
theorem paid_packetReading (limit : Nat) : (packetReading limit).Paid 0 := by
  refine ⟨by decide, fun header => ?_⟩
  simp only
  split
  · trivial
  · exact ⟨Nat.lt_of_lt_of_le (by decide) (Nat.le_add_right _ _), fun _ => trivial⟩

/-- A reader may also refuse what it has read, and then no bytes need have come to their end. -/
theorem length_sizes_decided {α β : Type} {reading : Reading (Except Fault α)} (h : reading.Paid 0)
    (transport : Transport) (form : α → β) :
    let read := reading.run transport
    (reading.sizes transport).length + read.2.stream.unread ≤
      transport.stream.unread + Reading.unanswered ((decided read).1.map (Option.map form)) := by
  have hreads := h.length_sizes_le transport
  simp only [Nat.zero_add] at hreads
  generalize reading.run transport = read at hreads ⊢
  obtain ⟨answer, after⟩ := read
  rcases answer with fault | _ | fault | answer
  · exact hreads
  · exact hreads
  · exact Nat.le_succ_of_le hreads
  · exact hreads

/-! ## Lines and packets -/

/-- **A line** that is given takes all bytes up to its line feed, and counts them. -/
theorem bytesRead_readIdentification {transport after : Transport} {limit : Nat} {line : String}
    (h : transport.readIdentification limit = (.ok (some line), after)) :
    after.bytesRead = transport.bytesRead + (transport.stream.pending.idxOf lineFeed + 1) := by
  obtain ⟨counted, hread⟩ := transport.readIdentification_alike limit
  have hsupply := transport.supply_readIdentification limit
  rw [cutLine_eq] at hread
  rw [h] at hread hsupply
  by_cases hline : transport.stream.pending.idxOf lineFeed < transport.stream.pending.length ∧
      transport.stream.pending.idxOf lineFeed + 1 ≤ max 1 limit
  · rw [if_pos hline] at hread
    obtain ⟨-, -, chunks, hafter⟩ := exact_of_alike hsupply hline.1 hread
    exact congrArg bytesRead hafter
  · rw [if_neg hline] at hread
    have hgiven := congrArg Prod.fst (seen_of_alike hread)
    split at hgiven
    · cases hgiven
    · exact absurd hgiven.symm (endOfRead_ne_some line)

/-- The reads for a line. -/
theorem length_sizes_lineReading (transport : Transport) (limit : Nat) :
    let read := transport.readIdentification limit
    ((lineReading (limit - 1) []).sizes transport).length + read.2.stream.unread ≤
      transport.stream.unread + Reading.unanswered read.1 := by
  intro read
  rw [readIdentification_leaves, readIdentification_gives]
  exact length_sizes_decided (paid_lineReading (limit - 1) []) transport lineText

/-- A frame that is cut off has a header, a message number and no less. -/
theorem length_add_six_le_of_cutFrame {limit : Nat} {input rest : Bytes} {packet : Packet}
    (h : cutFrame limit input = .packet packet rest) : rest.length + 6 ≤ input.length := by
  have hsize : Header.size ≤ input.length := by
    refine Nat.le_of_not_lt fun hshort => ?_
    rw [cutFrame_of_short hshort] at h
    cases h
  rw [cutFrame_of_size hsize, cutDeclared] at h
  split at h
  · cases h
  · split at h
    · cases h
    · next hthere =>
      split at h
      · next hframe =>
        cases h
        -- the padding is no longer than the body without the message number
        obtain ⟨⟨-, -, hroom⟩, -⟩ := Packet.ofFrame_eq_ok_iff.mp hframe
        rw [Frame.total_take (Nat.le_add_right _ _)] at hroom
        simp only [List.length_drop, Header.size] at hthere ⊢
        omega
      · cases h

/-- **A packet** that is given takes six bytes or more, and counts them. -/
theorem bytesRead_readPacket {transport after : Transport} {limit : Nat} {inbound : Inbound}
    (h : transport.readPacket limit = (.ok (some inbound), after)) :
    transport.bytesRead + 6 ≤ after.bytesRead := by
  have hsupply : after.supply = transport.supply := by
    have hread := transport.readPacket_eq_reading limit
    have hgiven {answer : Except Fault Packet} :=
      @Reading.supply_run_of_given _ (packetReading limit) transport answer
    rw [h] at hread
    generalize (packetReading limit).run transport = read at hread hgiven
    obtain ⟨fault | _ | fault | packet, last⟩ := read
    · cases hread
    · cases hread
    · cases hread
    · exact (congrArg (·.2.supply) hread).trans (hgiven rfl)
  have hunread : after.stream.unread + 6 ≤ transport.stream.unread := by
    have hseen := transport.seen_readPacket limit
    rw [h] at hseen
    simp only at hseen
    split at hseen
    · next packet rest hcut =>
      have hrest : after.stream.pending = rest := congrArg (·.2.1) hseen
      rw [Stream.unread, hrest]
      exact length_add_six_le_of_cutFrame hcut
    · cases congrArg Prod.fst hseen
    · exact absurd (congrArg Prod.fst hseen).symm (endOfRead_ne_some inbound)
  unfold supply at hsupply
  omega

/-- The reads for a packet. -/
theorem length_sizes_packetReading (transport : Transport) (limit : Nat) :
    let read := transport.readPacket limit
    ((packetReading limit).sizes transport).length + read.2.stream.unread ≤
      transport.stream.unread + Reading.unanswered read.1 := by
  intro read
  rw [readPacket_leaves, readPacket_gives]
  exact length_sizes_decided (paid_packetReading limit) transport _

end Transport

/-! ## Operations and calls -/

namespace Stream

/-- Whether bytes are asked for. -/
def Operation.isRead : Operation → Bool
  | read _ => true
  | _ => false

/-- The bytes that an operation gave and those still to come are no more than there were. -/
theorem unread_perform_le (stream : Stream) (operation : Operation) :
    (completed [(operation, (stream.perform operation).1)]).sum
      + (stream.perform operation).2.unread ≤ stream.unread := by
  by_cases hgave : ∀ size, operation = .read size → (stream.perform operation).1 = none
  · exact Nat.le_of_eq (stream.unread_perform operation hgave)
  · -- the bytes of a read that failed are lost
    obtain ⟨size, hgave⟩ := not_forall.mp hgave
    obtain ⟨rfl, hfault⟩ := Classical.not_imp.mp hgave
    obtain ⟨fault, hfault⟩ := Option.ne_none_iff_exists'.mp hfault
    have hrest : (stream.perform (.read size)).2.pending = stream.pending.drop size := by
      rw [← (stream.read_eq size).2, perform]
      generalize stream.read size = read
      obtain ⟨_ | bytes, after⟩ := read <;> rfl
    rw [hfault, unread, hrest, List.length_drop]
    show 0 + (stream.unread - size) ≤ stream.unread
    omega

theorem sum_completed_add_unread_le (stream : Stream) (operations : List Operation) :
    (completed (stream.trace operations)).sum + (stream.past operations).unread
      ≤ stream.unread := by
  induction operations generalizing stream with
  | nil => exact Nat.le_of_eq (Nat.zero_add _)
  | cons operation rest ih =>
    have hfirst := stream.unread_perform_le operation
    have hrest := ih (stream.perform operation).2
    rw [sum_completed_cons]
    show _ + ((stream.perform operation).2.past rest).unread ≤ _
    omega

end Stream

namespace Transport

/-- **Calls** count no more than they take. -/
theorem supply_past_le (transport : Transport) (calls : List Call) :
    (transport.past calls).supply ≤ transport.supply := by
  have hstream := transport.stream.sum_completed_add_unread_le (transport.operations calls)
  rw [past_eq, supply, supply]
  simp only
  omega

theorem bytesRead_past_le (transport : Transport) (calls : List Call) :
    transport.bytesRead ≤ (transport.past calls).bytesRead := by
  rw [past_eq]
  exact Nat.le_add_right _ _

theorem unread_past_le (transport : Transport) (calls : List Call) :
    (transport.past calls).stream.unread ≤ transport.stream.unread :=
  Nat.le_trans (Nat.le_add_left _ _)
    (transport.stream_past calls ▸ transport.stream.sum_completed_add_unread_le _)

/-- How many reads the calls ask for. -/
def countReads (transport : Transport) (calls : List Call) : Nat :=
  (transport.operations calls).countP (·.isRead)

theorem countReads_append (transport : Transport) (calls others : List Call) :
    transport.countReads (calls ++ others)
      = transport.countReads calls + (transport.past calls).countReads others := by
  rw [countReads, operations_append, List.countP_append]
  rfl

theorem countReads_cons (transport : Transport) (call : Call) (rest : List Call) :
    transport.countReads (call :: rest)
      = (Step.operations ⟨transport, call⟩).countP (·.isRead)
        + (Step.after ⟨transport, call⟩).countReads rest := by
  rw [countReads, operations_cons, List.countP_append]
  rfl

theorem countP_isRead_reads (sizes : List Nat) :
    (sizes.map Stream.Operation.read).countP (·.isRead) = sizes.length := by
  rw [List.countP_map]
  exact List.countP_eq_length.mpr fun _ _ => rfl

/-- A call that only writes. -/
def Call.isWrite : Call → Bool
  | writeIdentification _ | writePacket _ => true
  | _ => false

/-- To write reads nothing. -/
theorem countReads_of_writes {calls : List Call} (h : ∀ call ∈ calls, call.isWrite = true)
    (transport : Transport) : transport.countReads calls = 0 := by
  have hbytes (transport : Transport) (bytes : Bytes) :
      (transport.writeOperations bytes).countP (·.isRead) = 0 := by
    unfold writeOperations
    split <;> rfl
  induction calls generalizing transport with
  | nil => rfl
  | cons call rest ih =>
    obtain ⟨hcall, hrest⟩ := List.forall_mem_cons.mp h
    rw [countReads_cons, ih hrest]
    cases call with
    | writeIdentification line => exact hbytes transport line
    | writePacket packet => exact hbytes transport packet.encode
    | readExact _ | readIdentification _ | readPacket _ | shutdown => cases hcall

/-- **A read and writes behind it** ask for no more bytes than the read does. -/
theorem countReads_read_le {transport : Transport} {call : Call} {rest : List Call}
    {sizes : List Nat} {bound : Nat} (hcall : Step.operations ⟨transport, call⟩ = sizes.map .read)
    (hrest : ∀ call ∈ rest, call.isWrite = true)
    (h : sizes.length + (Step.after ⟨transport, call⟩).stream.unread ≤ bound) :
    transport.countReads (call :: rest) + (transport.past (call :: rest)).stream.unread
      ≤ bound := by
  have hleft := (Step.after ⟨transport, call⟩).unread_past_le rest
  rw [countReads_cons, countReads_of_writes hrest, hcall, countP_isRead_reads]
  show _ + ((Step.after ⟨transport, call⟩).past rest).stream.unread ≤ bound
  omega

end Transport
end MockSsh
