import MockSsh.Proofs.Message.Fields

/-!
Reading by places. A cursor takes the bytes off that it reads, so nothing can be read from where there is
nothing. Here a payload stays whole and a reader goes from place to place in it, with words of 64 bits for
places, and with every way to go wrong as an outcome of its own (`Breach`): a byte or a slice that is not
there, a place behind the end, a sum or a difference that no word holds. The readers of single fields are
shown to go none of these ways from any place of the payload, and to end at a place of it with the answer
of the cursor (`Follows`); so does what is read one after the other (`Follows.bind`, `Follows.within`).
-/
namespace MockSsh

/-- What can be done wrong with places in bytes. -/
inductive Breach
  /-- A byte taken from where there is none. -/
  | byte (place size : Nat)
  /-- A slice that ends behind the bytes, or before it begins. -/
  | slice (first last size : Nat)
  /-- A sum that is too large for a word. -/
  | sum (left right : Nat)
  /-- A difference that is less than zero. -/
  | difference (left right : Nat)
  /-- A read that begins behind the bytes. -/
  | offset (place size : Nat)
  /-- Windows without width. -/
  | windows
deriving DecidableEq, Repr

/-- What a computation with places yields, unless it does something wrong. -/
abbrev Access := Except Breach

namespace Access

open Message (Cursor)

/-- What comes behind a step that does nothing wrong. -/
theorem ok_bind {α β : Type} (value : α) (next : α → Access β) :
    ((.ok value : Access α) >>= next) = next value :=
  rfl

/-! ## Bytes and places -/

/-- The byte at a place. -/
def byteAt (data : Bytes) (place : Nat) : Access UInt8 :=
  match data[place]? with
  | some byte => .ok byte
  | none => .error (.byte place data.length)

/-- The bytes from the place `first` to before the place `last`. -/
def slice (data : Bytes) (first last : Nat) : Access Bytes :=
  if first ≤ last ∧ last ≤ data.length then .ok ((data.drop first).take (last - first))
  else .error (.slice first last data.length)

/-- A sum of two words. -/
def sum (left right : Nat) : Access Nat :=
  if left + right < UInt64.size then .ok (left + right) else .error (.sum left right)

/-- A difference of two words. -/
def difference (left right : Nat) : Access Nat :=
  if right ≤ left then .ok (left - right) else .error (.difference left right)

theorem slice_of_le {data : Bytes} {first last : Nat} (hfirst : first ≤ last)
    (hlast : last ≤ data.length) : slice data first last = .ok ((data.drop first).take (last - first)) :=
  if_pos ⟨hfirst, hlast⟩

theorem slice_to_end {data : Bytes} {place : Nat} (h : place ≤ data.length) :
    slice data place data.length = .ok (data.drop place) := by
  rw [slice_of_le h (Nat.le_refl _), ← List.length_drop, List.take_length]

/-- Two halves make a whole at most. -/
theorem sum_of_lt {left right : Nat} (hleft : left < UInt64.size / 2)
    (hright : right < UInt64.size / 2) : sum left right = .ok (left + right) :=
  if_pos (by omega)

theorem difference_of_le {left right : Nat} (h : right ≤ left) :
    difference left right = .ok (left - right) :=
  if_pos h

/-! ## Readers -/

/-- Reads on from a place, which moves. A reader that fails leaves the place where it got to. -/
abbrev Reader (α : Type) := ExceptT PayloadFault (StateT Nat Access) α

/-- How the reader ends from a place, and where. -/
def Reader.runAt {α : Type} (reader : Reader α) (place : Nat) : Access (Except PayloadFault α × Nat) :=
  reader.run.run place

section Reader

variable {α β : Type}

/-- Something that moves no place. -/
def still (action : Access α) : Reader α :=
  ExceptT.lift (StateT.lift action)

/-- The place, which has to be one of the payload's. -/
def here (data : Bytes) : Reader Nat := do
  let place ← get
  if place ≤ data.length then return place
  else still (.error (.offset place data.length))

/-- What a reader finds, if it does not fail. Wherever it leaves the place, the next one goes on. -/
def attempt (reader : Reader α) : Reader (Option α) :=
  ExceptT.mk do return .ok (← reader.run).toOption

/-- A word. -/
def word (data : Bytes) : Reader UInt32 := do
  let start ← here data
  match (slice data start (← still (sum start 4))).toOption with
  | none => throw (.wordCut start data.length)
  | some bytes =>
    set (← still (sum start 4))
    return decodeWord (← still (byteAt bytes 0)) (← still (byteAt bytes 1)) (← still (byteAt bytes 2))
      (← still (byteAt bytes 3))

/-- A flag. -/
def flag (data : Bytes) : Reader Bool := do
  let start ← here data
  match data[start]? with
  | none => throw (.flagCut start data.length)
  | some byte =>
    set (← still (sum start 1))
    return byte != 0

/-- A string, as the bytes it holds. -/
def string (data : Bytes) : Reader Bytes := do
  let length ← word data
  let start ← here data
  let last ← still (sum start length.toNat)
  if last ≤ data.length then
    set last
    still (slice data start last)
  else
    throw (.stringCut length.toNat start data.length)

/-- A string that is read as text. -/
def text (data : Bytes) : Reader String := do
  return Utf8.decodeLossy (← string data)

/-! ## One after the other -/

section Bind

variable {reader : Reader α} {next : α → Reader β} {place after : Nat}

theorem runAt_bind_ok {value : α} (h : reader.runAt place = .ok (.ok value, after)) :
    (reader >>= next).runAt place = (next value).runAt after := by
  show (reader.runAt place >>= _) = _
  rw [h]
  rfl

theorem runAt_bind_error {fault : PayloadFault} (h : reader.runAt place = .ok (.error fault, after)) :
    (reader >>= next).runAt place = .ok (.error fault, after) := by
  show (reader.runAt place >>= _) = _
  rw [h]
  rfl

theorem runAt_attempt {answer : Except PayloadFault α} (h : reader.runAt place = .ok (answer, after)) :
    (attempt reader).runAt place = .ok (.ok answer.toOption, after) := by
  show (reader.runAt place >>= _) = _
  rw [h]
  rfl

theorem runAt_still_bind {action : Access α} {value : α} (h : action = .ok value) :
    (still action >>= next).runAt place = (next value).runAt place := by
  rw [h]
  rfl

theorem runAt_here_bind {data : Bytes} {next : Nat → Reader β} (h : place ≤ data.length) :
    (here data >>= next).runAt place = (next place).runAt place := by
  refine runAt_bind_ok ?_
  show (if place ≤ data.length then (pure place : Reader Nat) else _).runAt place = _
  rw [if_pos h]
  rfl

end Bind

/-- From every place of the payload the reader goes to a place of it, and what it answers and what is left
behind that place are what a cursor with the same bytes left answers and leaves. -/
def Follows (data : Bytes) (reader : Reader α)
    (read : Cursor → Except PayloadFault (α × Cursor)) : Prop :=
  ∀ place ≤ data.length, ∃ answer after, after ≤ data.length ∧
    reader.runAt place = .ok (answer, after) ∧
    read ⟨data.length, data.drop place⟩ = answer.map (·, ⟨data.length, data.drop after⟩)

/-- From the place the reader goes to a place of the payload with this answer. -/
def Within (data : Bytes) (reader : Reader α) (place : Nat) (answer : Except PayloadFault α) : Prop :=
  ∃ after ≤ data.length, reader.runAt place = .ok (answer, after)

section Follows

variable {data : Bytes} {reader : Reader α} {read : Cursor → Except PayloadFault (α × Cursor)}
  {next : α → Reader β}

theorem Follows.bind {further : α × Cursor → Except PayloadFault (β × Cursor)}
    (h : Follows data reader read)
    (hnext : ∀ value, Follows data (next value) fun cursor => further (value, cursor)) :
    Follows data (reader >>= next) fun cursor => read cursor >>= further := by
  intro place hplace
  obtain ⟨answer, middle, hmiddle, hrun, hread⟩ := h place hplace
  simp only [hread]
  cases answer with
  | error fault => exact ⟨.error fault, middle, hmiddle, runAt_bind_error hrun, rfl⟩
  | ok value =>
    rw [runAt_bind_ok hrun]
    exact hnext value middle hmiddle

/-- What is read last need not say what it leaves. -/
theorem Follows.within {further : α × Cursor → Except PayloadFault β} (h : Follows data reader read)
    {place : Nat} (hplace : place ≤ data.length)
    (hnext : ∀ value, ∀ after ≤ data.length,
      Within data (next value) after (further (value, ⟨data.length, data.drop after⟩))) :
    Within data (reader >>= next) place (read ⟨data.length, data.drop place⟩ >>= further) := by
  obtain ⟨answer, middle, hmiddle, hrun, hread⟩ := h place hplace
  rw [hread]
  cases answer with
  | error fault => exact ⟨middle, hmiddle, runAt_bind_error hrun⟩
  | ok value =>
    obtain ⟨after, hafter, hlast⟩ := hnext value middle hmiddle
    exact ⟨after, hafter, (runAt_bind_ok hrun).trans hlast⟩

section Within

variable {place : Nat} {answer : Except PayloadFault β}

theorem Within.here {next : Nat → Reader β} (hplace : place ≤ data.length)
    (h : Within data (next place) place answer) :
    Within data (Access.here data >>= next) place answer := by
  obtain ⟨after, hafter, hrun⟩ := h
  exact ⟨after, hafter, (runAt_here_bind hplace).trans hrun⟩

theorem Within.still {action : Access α} {value : α} (haction : action = .ok value)
    (h : Within data (next value) place answer) :
    Within data (Access.still action >>= next) place answer := by
  obtain ⟨after, hafter, hrun⟩ := h
  exact ⟨after, hafter, (runAt_still_bind haction).trans hrun⟩

/-- Behind a reader that may fail, what follows goes on from wherever the reader got to. -/
theorem Follows.attempt {next : Option α → Reader β} (h : Follows data reader read)
    (hplace : place ≤ data.length)
    (hnext : ∀ found : Except PayloadFault α, ∀ after ≤ data.length,
      read ⟨data.length, data.drop place⟩ = found.map (·, ⟨data.length, data.drop after⟩) →
        Within data (next found.toOption) after answer) :
    Within data (Access.attempt reader >>= next) place answer := by
  obtain ⟨found, middle, hmiddle, hrun, hread⟩ := h place hplace
  obtain ⟨after, hafter, hlast⟩ := hnext found middle hmiddle hread
  exact ⟨after, hafter, (runAt_bind_ok (runAt_attempt hrun)).trans hlast⟩

end Within

/-- A reader that may fail, and that nothing follows. -/
theorem Follows.found (h : Follows data reader read) {place : Nat} (hplace : place ≤ data.length) :
    Within data (Access.attempt reader) place
      (.ok ((read ⟨data.length, data.drop place⟩).toOption.map Prod.fst)) := by
  obtain ⟨answer, after, hafter, hrun, hread⟩ := h place hplace
  refine ⟨after, hafter, ?_⟩
  rw [runAt_attempt hrun, hread]
  cases answer <;> rfl

theorem within_pure {place : Nat} (hplace : place ≤ data.length) (value : α) :
    Within data (pure value) place (.ok value) :=
  ⟨place, hplace, rfl⟩

theorem follows_pure (value : α) : Follows data (pure value) fun cursor => .ok (value, cursor) :=
  fun place hplace => ⟨.ok value, place, hplace, rfl, rfl⟩

end Follows

end Reader

/-! ## Fields -/

section Fields

variable {data : Bytes}

theorem offset_drop {place : Nat} (hplace : place ≤ data.length) :
    Cursor.offset ⟨data.length, data.drop place⟩ = place := by
  show data.length - (data.drop place).length = place
  rw [List.length_drop, Nat.sub_sub_self hplace]

theorem cursor_word_of_short {cursor : Cursor} (h : cursor.rest.length < 4) :
    cursor.word = .error (.wordCut cursor.offset cursor.size) := by
  unfold Cursor.word
  split
  · next hrest =>
    simp only [hrest, List.length_cons] at h
    omega
  · rfl

variable (hsize : data.length < UInt64.size / 2)
include hsize

theorem follows_word : Follows data (word data) Cursor.word := by
  intro place hplace
  have hsum : sum place 4 = .ok (place + 4) :=
    sum_of_lt (Nat.lt_of_le_of_lt hplace hsize) (by decide)
  rw [word, runAt_here_bind hplace, runAt_still_bind hsum]
  by_cases hlong : place + 4 ≤ data.length
  · have hrest : 4 ≤ (data.drop place).length := by
      rw [List.length_drop]
      omega
    obtain ⟨field, value, rest, hfield, hinput⟩ := Message.exists_isWord hrest
    have hslice : slice data place (place + 4) = .ok (encodeWord value) := by
      rw [slice_of_le (Nat.le_add_right _ _) hlong, hinput, Nat.add_sub_cancel_left, hfield.encodeWord,
        ← hfield.length, List.take_left]
    have hbehind : data.drop (place + 4) = rest := by
      rw [← List.drop_drop, hinput, ← hfield.length, List.drop_left]
    refine ⟨.ok value, place + 4, hlong, ?_, ?_⟩
    · rw [hslice]
      refine (runAt_still_bind hsum).trans ?_
      exact congrArg (fun word => Except.ok (Except.ok word, place + 4)) (decodeWord_encodeWord value)
    · rw [hbehind, hinput]
      exact Cursor.takes_word.append hfield _ _
  · have hshort : (data.drop place).length < 4 := by
      rw [List.length_drop]
      omega
    refine ⟨.error (.wordCut place data.length), place, hplace, ?_, ?_⟩
    · rw [slice, if_neg (by omega)]
      rfl
    · rw [cursor_word_of_short hshort, offset_drop hplace]
      rfl

/-- From behind the bytes a reader would do wrong before it looks at any. -/
example : (word [1, 2, 3, 4]).runAt 5 = .error (.offset 5 4) := rfl

theorem follows_flag : Follows data (flag data) Cursor.flag := by
  intro place hplace
  rw [flag, runAt_here_bind hplace]
  cases hrest : data.drop place with
  | nil =>
    have hend : data.length ≤ place := List.drop_eq_nil_iff.mp hrest
    have hoffset : Cursor.offset ⟨data.length, []⟩ = place := hrest ▸ offset_drop hplace
    refine ⟨.error (.flagCut place data.length), place, hplace, ?_, ?_⟩
    · rw [List.getElem?_eq_none hend]
      rfl
    · show Except.error (PayloadFault.flagCut (Cursor.offset ⟨data.length, []⟩) data.length) = _
      rw [hoffset]
      rfl
  | cons byte rest =>
    have hbyte : data[place]? = some byte := by
      rw [← List.head?_drop, hrest]
      rfl
    have hlong : place < data.length := (List.getElem?_eq_some_iff.mp hbyte).1
    have hsum : sum place 1 = .ok (place + 1) :=
      sum_of_lt (Nat.lt_of_le_of_lt hplace hsize) (by decide)
    have hbehind : data.drop (place + 1) = rest := by
      rw [← List.drop_drop, hrest]
      rfl
    refine ⟨.ok (byte != 0), place + 1, hlong, ?_, ?_⟩
    · rw [hbyte]
      exact runAt_still_bind hsum
    · rw [hbehind]
      rfl

theorem follows_string : Follows data (string data) Cursor.string := by
  refine (follows_word hsize).bind fun length place hplace => ?_
  have hlength : length.toNat < UInt64.size / 2 :=
    Nat.lt_of_lt_of_le length.toNat_lt_size (by decide)
  have hsum : sum place length.toNat = .ok (place + length.toNat) :=
    sum_of_lt (Nat.lt_of_le_of_lt hplace hsize) hlength
  have hrest : (data.drop place).length = data.length - place := List.length_drop
  rw [runAt_here_bind hplace, runAt_still_bind hsum]
  by_cases hfits : place + length.toNat ≤ data.length
  · refine ⟨.ok ((data.drop place).take length.toNat), place + length.toNat, hfits, ?_, ?_⟩
    · rw [if_pos hfits, slice_of_le (Nat.le_add_right _ _) hfits, Nat.add_sub_cancel_left]
      rfl
    · simp only
      rw [if_pos (by omega), List.drop_drop]
      rfl
  · refine ⟨.error (.stringCut length.toNat place data.length), place, hplace, ?_, ?_⟩
    · rw [if_neg hfits]
      rfl
    · simp only
      rw [if_neg (by omega), offset_drop hplace]
      rfl

theorem follows_text : Follows data (text data) Cursor.text :=
  (follows_string hsize).bind fun bytes => follows_pure (Utf8.decodeLossy bytes)

end Fields

end Access
end MockSsh
