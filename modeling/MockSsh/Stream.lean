import MockSsh.Fault
import MockSsh.Bytes

/-!
A duplex byte stream as a value: what it still delivers, in chunks, how that ends, what it has
accepted, and the faults that it meets. An exact read goes on over the border of a chunk, so what it
gives depends on the bytes alone and not on how they are cut; `read_eq` says so.
-/
namespace MockSsh

/-- A stream with both its directions. -/
structure Stream where
  /-- The bytes to come, in the pieces in which they arrive. -/
  chunks : List Bytes
  /-- What a read meets after the last chunk; nothing means an orderly end. -/
  ending : Option StreamFault
  /-- How many more bytes are accepted; nothing means any number. -/
  room : Option Nat
  /-- What a write meets that finds no room; nothing means that no byte is taken. -/
  writeFault : Option StreamFault
  /-- What a flush meets, and how many succeed before one does; nothing means that none fails. -/
  flushFault : Option StreamFault
  steadyFlushes : Nat
  shutdownFault : Option StreamFault
  written : Bytes
  flushes : Nat
  shutdowns : Nat
deriving DecidableEq, Repr

/-- The failure of a write that takes no byte. -/
def StreamFault.nothingWritten : StreamFault := ⟨.writeZero, "write zero"⟩

namespace Stream

/-- A stream that delivers `input` and then ends, and accepts everything. -/
def ofInput (input : Bytes) : Stream where
  chunks := [input]
  ending := none
  room := none
  writeFault := none
  flushFault := none
  steadyFlushes := 0
  shutdownFault := none
  written := []
  flushes := 0
  shutdowns := 0

/-- The bytes to come. -/
def pending (stream : Stream) : Bytes :=
  stream.chunks.flatten

/-- How many bytes are to come. -/
def unread (stream : Stream) : Nat :=
  stream.pending.length

/-- The first `n` bytes of the chunks, with the chunks after them; nothing if there are fewer. -/
def takeExact : Nat → List Bytes → Option (Bytes × List Bytes)
  | 0, chunks => some ([], chunks)
  | _ + 1, [] => none
  | n + 1, chunk :: rest =>
    if chunk.length ≤ n + 1 then
      (takeExact (n + 1 - chunk.length) rest).map fun (bytes, rest) => (chunk ++ bytes, rest)
    else
      some (chunk.take (n + 1), chunk.drop (n + 1) :: rest)

/-- Reads exactly `n` bytes. If fewer are to come they are taken all the same, and lost. -/
def read (stream : Stream) (n : Nat) : Option Bytes × Stream :=
  match takeExact n stream.chunks with
  | some (bytes, chunks) => (some bytes, { stream with chunks })
  | none => (none, { stream with chunks := [] })

/-- Writes the bytes, or as many as there is room for. -/
def write (stream : Stream) (bytes : Bytes) : Option StreamFault × Stream :=
  match stream.room with
  | none => (none, { stream with written := stream.written ++ bytes })
  | some room =>
    if bytes.length ≤ room then
      (none, { stream with written := stream.written ++ bytes, room := some (room - bytes.length) })
    else
      (some (stream.writeFault.getD .nothingWritten),
        { stream with written := stream.written ++ bytes.take room, room := some 0 })

/-- What the next flush meets. -/
def nextFlush (stream : Stream) : Option StreamFault :=
  if stream.flushes < stream.steadyFlushes then none else stream.flushFault

/-- Pushes out what was written. -/
def flush (stream : Stream) : Option StreamFault × Stream :=
  (stream.nextFlush, { stream with flushes := stream.flushes + 1 })

/-- Ends the direction in which the server writes. -/
def shutdown (stream : Stream) : Option StreamFault × Stream :=
  (stream.shutdownFault, { stream with shutdowns := stream.shutdowns + 1 })

theorem nextFlush_of_none {stream : Stream} (h : stream.flushFault = none) :
    stream.nextFlush = none := by
  rw [nextFlush, h, ite_self]

/-- A flush meets no fault but the one of the stream. -/
theorem flushFault_of_nextFlush {stream : Stream} {fault : StreamFault}
    (h : stream.nextFlush = some fault) : stream.flushFault = some fault := by
  unfold nextFlush at h
  split at h
  · cases h
  · exact h

theorem takeExact_eq_none {n : Nat} {chunks : List Bytes} :
    takeExact n chunks = none ↔ chunks.flatten.length < n := by
  fun_induction takeExact n chunks with
  | case1 => simp
  | case2 => simp
  | case3 n chunk rest h ih =>
    simp only [Option.map_eq_none_iff, ih, List.flatten_cons, List.length_append]
    omega
  | case4 n chunk rest h =>
    simp only [reduceCtorEq, List.flatten_cons, List.length_append, false_iff]
    omega

theorem takeExact_eq_some {n : Nat} {chunks rest : List Bytes} {bytes : Bytes}
    (h : takeExact n chunks = some (bytes, rest)) :
    bytes.length = n ∧ bytes ++ rest.flatten = chunks.flatten := by
  fun_induction takeExact n chunks generalizing bytes rest with
  | case1 => simp_all
  | case2 => simp at h
  | case3 n chunk tail hle ih =>
    obtain ⟨⟨bs, rs⟩, ht, heq⟩ := Option.map_eq_some_iff.mp h
    obtain ⟨hlen, happ⟩ := ih ht
    simp only [Prod.mk.injEq] at heq
    obtain ⟨rfl, rfl⟩ := heq
    simp [hlen, happ]
    omega
  | case4 n chunk tail hlt =>
    simp only [Option.some.injEq, Prod.mk.injEq] at h
    obtain ⟨rfl, rfl⟩ := h
    simp only [List.length_take, List.flatten_cons]
    refine ⟨by omega, ?_⟩
    rw [← List.append_assoc, List.take_append_drop]

/-- An exact read gives the first bytes to come, however they are cut into chunks. -/
theorem read_eq (stream : Stream) (n : Nat) :
    (stream.read n).1 = (if n ≤ stream.unread then some (stream.pending.take n) else none)
      ∧ (stream.read n).2.pending = stream.pending.drop n := by
  unfold read unread pending
  cases h : takeExact n stream.chunks with
  | none =>
    have hlt := takeExact_eq_none.mp h
    simp only [List.flatten_nil]
    refine ⟨by rw [if_neg (by omega)], ?_⟩
    rw [List.drop_eq_nil_of_le (by omega)]
  | some found =>
    obtain ⟨bytes, rest⟩ := found
    obtain ⟨hlen, happ⟩ := takeExact_eq_some h
    subst hlen
    simp only [← happ, List.length_append]
    refine ⟨by rw [if_pos (by omega)]; simp, by simp⟩

end Stream
end MockSsh
