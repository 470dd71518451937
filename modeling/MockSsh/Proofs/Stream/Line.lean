import MockSsh.Proofs.Stream.Operations

/-!
The identification line, to the byte. A reader that asks for one byte at a time loses none, so what it
counts is what it took (`Reading.supply_run`). Where a line is cut off is told by the place of its line
feed (`cutLine_eq`), and with the count this says all that reading a line does
(`Transport.readIdentification_exact`).
-/
namespace MockSsh

/-! ## What is counted -/

namespace Transport

/-- The bytes that were counted when they were read, and those to come. -/
def supply (transport : Transport) : Nat :=
  transport.bytesRead + transport.stream.unread

theorem Recut.supply {transport other : Transport} (h : transport.Recut other) :
    transport.supply = other.supply := by
  have hunread := h.stream.unread
  obtain ⟨stream, rfl, -⟩ := h
  exact congrArg (other.bytesRead + ·) hunread

theorem supply_advance (transport : Transport) (rest : Bytes) (counted : Nat) :
    (transport.advance rest counted).supply = transport.bytesRead + counted + rest.length := by
  rw [supply, Stream.unread, pending_advance]
  rfl

/-- Where more than one byte is asked for, some may come that are not counted; of one byte there is
nothing to lose. -/
theorem supply_readExact {size : Nat} (h : size ≤ 1) (transport : Transport) :
    (transport.readExact size).2.supply = transport.supply := by
  by_cases hthere : size ≤ transport.stream.unread
  · rw [(readExact_of_le hthere).state.supply, supply_advance, List.length_drop, supply]
    unfold Stream.unread at *
    omega
  · have hshort := Nat.lt_of_not_le hthere
    rw [(readExact_of_lt hshort).state.supply, supply_advance, supply, List.length_nil]
    omega

end Transport

/-- A reader that never asks for more than one byte counts every byte that it takes. -/
theorem Reading.supply_run {α : Type} {reading : Reading α} (h : reading.Bounded 1)
    (transport : Transport) : (reading.run transport).2.supply = transport.supply := by
  induction reading generalizing transport with
  | give answer => rfl
  | ask size next ih =>
    obtain ⟨hsize, hnext⟩ := h
    have hfirst := Transport.supply_readExact hsize transport
    rw [run]
    generalize transport.readExact size = read at hfirst ⊢
    obtain ⟨answer, after⟩ := read
    rcases answer with fault | _ | bytes
    · exact hfirst
    · exact hfirst
    · exact (ih bytes (hnext bytes) after).trans hfirst

namespace Transport

theorem bounded_lineReading (allowed : Nat) (seen : Bytes) :
    (lineReading allowed seen).Bounded 1 := by
  induction allowed generalizing seen with
  | zero =>
    refine ⟨Nat.le_refl 1, fun bytes => ?_⟩
    cases bytes <;> trivial
  | succ allowed ih =>
    refine ⟨Nat.le_refl 1, fun bytes => ?_⟩
    cases bytes with
    | nil => trivial
    | cons byte rest =>
      simp only
      split
      · trivial
      · exact ih (byte :: seen)

theorem supply_readIdentification (transport : Transport) (limit : Nat) :
    (transport.readIdentification limit).2.supply = transport.supply := by
  rw [readIdentification_leaves]
  exact Reading.supply_run (bounded_lineReading (limit - 1) []) transport

end Transport

/-! ## Where a line is cut off -/

/-- A line is cut off behind its line feed, if that stands within the limit. -/
theorem cutLine_eq (limit : Nat) (input : Bytes) :
    let most := max 1 limit
    let place := input.idxOf Transport.lineFeed
    cutLine limit input =
      if place < input.length ∧ place + 1 ≤ most then
        .line (input.take place) (input.drop (place + 1))
      else if most ≤ input.length then .tooLong most (input.drop most)
      else .incomplete := by
  intro most place
  have htext : input.takeWhile (· != Transport.lineFeed) = input.take place := by
    rw [List.takeWhile_eq_take_findIdx_not]
    simp only [bne, Bool.not_not]
    rfl
  have hplace : place ≤ input.length := List.idxOf_le_length
  simp only [cutLine, htext, List.length_take_of_le hplace, Nat.max_comm limit 1]
  by_cases hline : place < input.length ∧ place + 1 ≤ most
  · rw [if_pos hline, if_neg (Nat.not_le.mpr hline.2), if_pos hline.1]
  rw [if_neg hline]
  by_cases hlong : most ≤ place
  · rw [if_pos hlong, if_pos (Nat.le_trans hlong hplace)]
  · rw [if_neg hlong, if_neg (show ¬ place < input.length by omega),
      if_neg (show ¬ most ≤ input.length by omega)]

/-- Four bytes with the line feed are a line within a limit of four, and too long for one of three. -/
example : cutLine 4 [65, 66, 67, 10, 68] = .line [65, 66, 67] [68] ∧
    cutLine 3 [65, 66, 67, 10, 68] = .tooLong 3 [10, 68] := by decide

namespace Transport

/-- With nothing lost, the bytes that a reader left tell how many it counted. -/
theorem exact_of_alike {α : Type} {transport : Transport} {read : α × Transport} {answer : α}
    {consumed counted : Nat} (hsupply : read.2.supply = transport.supply)
    (hfits : consumed ≤ transport.stream.unread)
    (hread : Alike Recut read
      (answer, transport.advance (transport.stream.pending.drop consumed) counted)) :
    read.1 = answer ∧ read.2.stream.pending = transport.stream.pending.drop consumed ∧
      ∃ chunks, read.2 = { transport with
        stream := { transport.stream with chunks }
        bytesRead := transport.bytesRead + consumed } := by
  have hcounted : counted = consumed := by
    rw [hread.state.supply, supply_advance, List.length_drop, supply] at hsupply
    unfold Stream.unread at *
    omega
  subst hcounted
  cases hread with
  | mk _ hafter =>
    have hpending := hafter.stream.pending
    rw [pending_advance] at hpending
    obtain ⟨stream, rfl, chunks, rfl, -⟩ := hafter
    exact ⟨rfl, hpending, chunks, rfl⟩

/-- **An identification line** is read to the byte, whatever the limit and the chunks. If the first line
feed stands within the limit, the bytes before it are the line, and it is consumed with them. Otherwise
the reader stops at the limit and says so, or it takes all that comes and tells how the stream ended. The
bytes consumed, and no others, are counted as read, and nothing else of the transport changes. -/
theorem readIdentification_exact (transport : Transport) (limit : Nat) :
    let input := transport.stream.pending
    let most := max 1 limit
    let place := input.idxOf lineFeed
    let ended : Except Fault (Option String) := match transport.stream.ending with
      | none => .ok none
      | some fault =>
        if fault.kind ∈ [.unexpectedEnd, .connectionReset, .connectionAborted, .brokenPipe] then
          .ok none
        else .error (.stream fault)
    let expected : Except Fault (Option String) × Nat :=
      if place < input.length ∧ place + 1 ≤ most then
        (.ok (some (identificationText (input.take place))), place + 1)
      else if most ≤ input.length then (.error (.identificationTooLong most), most)
      else (ended, input.length)
    let read := transport.readIdentification limit
    read.1 = expected.1 ∧ read.2.stream.pending = input.drop expected.2 ∧
      ∃ chunks, read.2 = { transport with
        stream := { transport.stream with chunks }
        bytesRead := transport.bytesRead + expected.2 } := by
  intro input most place ended expected read
  have hended : ended = endOfRead transport.stream.ending := by
    simp only [ended]
    cases transport.stream.ending with
    | none => rfl
    | some fault =>
      obtain ⟨kind, text⟩ := fault
      cases kind <;> rfl
  obtain ⟨counted, hread⟩ := transport.readIdentification_alike limit
  have hsupply := transport.supply_readIdentification limit
  rw [cutLine_eq] at hread
  by_cases hline : place < input.length ∧ place + 1 ≤ most
  · have hexpected : expected = (_, place + 1) := if_pos hline
    rw [if_pos hline] at hread
    rw [hexpected]
    exact exact_of_alike hsupply hline.1 hread
  rw [if_neg hline] at hread
  by_cases hlong : most ≤ input.length
  · have hexpected : expected = (_, most) := (if_neg hline).trans (if_pos hlong)
    rw [if_pos hlong] at hread
    rw [hexpected]
    exact exact_of_alike hsupply hlong hread
  · have hexpected : expected = (ended, input.length) := (if_neg hline).trans (if_neg hlong)
    rw [if_neg hlong, identificationRead, ← hended] at hread
    have hall : input.drop input.length = [] := List.drop_length
    rw [← hall] at hread
    rw [hexpected]
    exact exact_of_alike hsupply (Nat.le_refl _) hread

end Transport
end MockSsh
