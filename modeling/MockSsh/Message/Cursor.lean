import MockSsh.Fault
import MockSsh.Text.Utf8

/-!
The fields of a payload: words, flags, and strings with their length in front. A cursor knows how
long the whole payload is, because a field that cannot be read is told by its offset; the offset is
what has been read so far. A failed read of a string has nevertheless read its length.
-/
namespace MockSsh.Message

/-- A place in a payload: the payload's length and the bytes not read yet. -/
structure Cursor where
  size : Nat
  rest : Bytes
deriving DecidableEq, Repr

namespace Cursor

/-- The place before the first field. -/
def start (payload : Bytes) : Cursor :=
  ⟨payload.length, payload⟩

/-- How many bytes stand before the place. -/
def offset (cursor : Cursor) : Nat :=
  cursor.size - cursor.rest.length

/-- A word. -/
def word (cursor : Cursor) : Except PayloadFault (UInt32 × Cursor) :=
  match cursor.rest with
  | a :: b :: c :: d :: rest => .ok (decodeWord a b c d, { cursor with rest })
  | _ => .error (.wordCut cursor.offset cursor.size)

/-- A flag: one byte, and any but zero means yes. -/
def flag (cursor : Cursor) : Except PayloadFault (Bool × Cursor) :=
  match cursor.rest with
  | b :: rest => .ok (b != 0, { cursor with rest })
  | [] => .error (.flagCut cursor.offset cursor.size)

/-- A string, as the bytes it holds. -/
def string (cursor : Cursor) : Except PayloadFault (Bytes × Cursor) := do
  let (length, content) ← cursor.word
  if length.toNat ≤ content.rest.length then
    .ok (content.rest.take length.toNat,
      { content with rest := content.rest.drop length.toNat })
  else
    .error (.stringCut length.toNat content.offset content.size)

/-- A string that is read as text. -/
def text (cursor : Cursor) : Except PayloadFault (String × Cursor) := do
  let (bytes, cursor) ← cursor.string
  return (Utf8.decodeLossy bytes, cursor)

end Cursor

/-- The bytes of a flag. -/
def encodeFlag (flag : Bool) : Bytes :=
  [if flag then 1 else 0]

/-- The bytes of a string. Its length field has 32 bits. -/
def encodeString (bytes : Bytes) : Bytes :=
  encodeWord (UInt32.ofNat bytes.length) ++ bytes

/-- The bytes of a text. -/
def encodeText (text : String) : Bytes :=
  encodeString (Utf8.encode text)

end MockSsh.Message
