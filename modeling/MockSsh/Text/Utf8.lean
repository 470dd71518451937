import MockSsh.Bytes

/-!
UTF-8 in both directions. Writing is total on text. Reading is total on bytes: each maximal
ill-formed part, which is the longest beginning of a well-formed sequence that the next byte does
not continue, or else a single byte, becomes one replacement character.

The reader is a machine that takes one byte at a time. `decode_append_ascii` says that a byte below
128 always ends whatever stood before it, so decoding may be cut there.
-/
namespace MockSsh.Utf8

/-- The bytes of a text. -/
def encode (text : String) : Bytes :=
  text.toList.flatMap String.utf8EncodeChar

/-- The character that stands for bytes that are no text. -/
def replacement : Char := '\uFFFD'

/-- A character of which some bytes are still owed: how many, the range that the next one must lie
in, and the value of the bits seen so far. -/
structure Owed where
  count : Nat
  low : UInt8
  high : UInt8
  bits : Nat
deriving DecidableEq, Repr

/-- Where the reader stands: between characters, or inside one. -/
abbrev State := Option Owed

/-- A byte at the start of a character: what it yields at once, and where the reader stands then. -/
def start (b : UInt8) : List Char × State :=
  if b < 0x80 then ([Char.ofNat b.toNat], none)
  else if 0xC2 ≤ b && b ≤ 0xDF then ([], some ⟨1, 0x80, 0xBF, b.toNat - 0xC0⟩)
  else if b == 0xE0 then ([], some ⟨2, 0xA0, 0xBF, 0⟩)
  else if b == 0xED then ([], some ⟨2, 0x80, 0x9F, 0xD⟩)
  else if 0xE1 ≤ b && b ≤ 0xEF then ([], some ⟨2, 0x80, 0xBF, b.toNat - 0xE0⟩)
  else if b == 0xF0 then ([], some ⟨3, 0x90, 0xBF, 0⟩)
  else if 0xF1 ≤ b && b ≤ 0xF3 then ([], some ⟨3, 0x80, 0xBF, b.toNat - 0xF0⟩)
  else if b == 0xF4 then ([], some ⟨3, 0x80, 0x8F, 4⟩)
  else ([replacement], none)

/-- One byte. A byte that does not continue the character being read closes it with a replacement
and is then read as the start of the next. -/
def step (state : State) (b : UInt8) : List Char × State :=
  match state with
  | none => start b
  | some owed =>
    if owed.low ≤ b && b ≤ owed.high then
      let bits := owed.bits * 64 + (b.toNat - 0x80)
      if owed.count ≤ 1 then ([Char.ofNat bits], none)
      else ([], some ⟨owed.count - 1, 0x80, 0xBF, bits⟩)
    else
      (replacement :: (start b).1, (start b).2)

/-- What the end of the bytes yields: a replacement if a character is unfinished. -/
def finish : State → List Char
  | none => []
  | some _ => [replacement]

/-- The characters of the bytes, read from a given state. -/
def decodeFrom : State → Bytes → List Char
  | state, [] => finish state
  | state, b :: rest => (step state b).1 ++ decodeFrom (step state b).2 rest

/-- The text of the bytes, with a replacement character for each ill-formed part. -/
def decodeLossy (bytes : Bytes) : String :=
  String.ofList (decodeFrom none bytes)

theorem start_ascii {b : UInt8} (h : b < 0x80) : start b = ([Char.ofNat b.toNat], none) := by
  simp [start, h]

/-- Outside a character or inside one, a byte below 128 ends what stood before it. -/
theorem step_ascii {b : UInt8} (h : b < 0x80) (state : State)
    (hlow : ∀ owed ∈ state, 0x80 ≤ owed.low) :
    step state b = (finish state ++ [Char.ofNat b.toNat], none) := by
  cases state with
  | none => simp [step, finish, start_ascii h]
  | some owed =>
    have hl := hlow owed rfl
    have : ¬ owed.low ≤ b := fun hb => by
      have := UInt8.le_trans hl hb
      exact absurd h (UInt8.not_lt.mpr this)
    simp [step, finish, start_ascii h, this]

/-- Every character being read asks for a byte of at least 128. -/
theorem low_step (state : State) (b : UInt8) (h : ∀ owed ∈ state, 0x80 ≤ owed.low) :
    ∀ owed ∈ (step state b).2, 0x80 ≤ owed.low := by
  have hstart : ∀ owed ∈ (start b).2, 0x80 ≤ owed.low := by
    intro owed ho
    unfold start at ho
    repeat' split at ho
    all_goals simp at ho <;> subst ho <;> simp
  unfold step
  cases state with
  | none => exact hstart
  | some owed =>
    simp only
    split
    · split <;> simp
    · exact hstart

theorem decodeFrom_append_ascii (state : State) (hlow : ∀ owed ∈ state, 0x80 ≤ owed.low)
    (x y : Bytes) {b : UInt8} (h : b < 0x80) :
    decodeFrom state (x ++ b :: y)
      = decodeFrom state x ++ Char.ofNat b.toNat :: decodeFrom none y := by
  induction x generalizing state with
  | nil => simp [decodeFrom, step_ascii h state hlow]
  | cons a x ih => simp [decodeFrom, ih _ (low_step state a hlow)]

/-- Decoding may be cut at any byte below 128. -/
theorem decode_append_ascii (x y : Bytes) {b : UInt8} (h : b < 0x80) :
    decodeFrom none (x ++ b :: y)
      = decodeFrom none x ++ Char.ofNat b.toNat :: decodeFrom none y :=
  decodeFrom_append_ascii none (by simp) x y h

end MockSsh.Utf8
