/-!
Byte strings and the 32-bit words in them.

A byte string is a list, so that readers are recursion on the data and a reader's answer is the
value it found together with the bytes after it. Words are big-endian; `decodeWord_encodeWord` and
`encodeWord_decodeWord` say that the two directions are inverse.
-/
namespace MockSsh

/-- A finite sequence of octets, as it travels on the wire. -/
abbrev Bytes := List UInt8

/-- The four octets of a word, most significant first. -/
def encodeWord (word : UInt32) : Bytes :=
  [UInt8.ofNat (word.toNat / 16777216), UInt8.ofNat (word.toNat / 65536),
    UInt8.ofNat (word.toNat / 256), UInt8.ofNat word.toNat]

/-- The word whose octets, most significant first, are given. -/
def decodeWord (a b c d : UInt8) : UInt32 :=
  UInt32.ofNat (a.toNat * 16777216 + b.toNat * 65536 + c.toNat * 256 + d.toNat)

@[simp] theorem length_encodeWord (word : UInt32) : (encodeWord word).length = 4 := rfl

theorem toNat_decodeWord (a b c d : UInt8) :
    (decodeWord a b c d).toNat
      = a.toNat * 16777216 + b.toNat * 65536 + c.toNat * 256 + d.toNat := by
  have ha := a.toNat_lt
  have hb := b.toNat_lt
  have hc := c.toNat_lt
  have hd := d.toNat_lt
  simp only [decodeWord, UInt32.toNat_ofNat']
  omega

/-- Reading back a written word gives the word. -/
theorem decodeWord_encodeWord (word : UInt32) :
    decodeWord (UInt8.ofNat (word.toNat / 16777216)) (UInt8.ofNat (word.toNat / 65536))
      (UInt8.ofNat (word.toNat / 256)) (UInt8.ofNat word.toNat) = word := by
  have h := word.toNat_lt
  apply UInt32.toNat_inj.mp
  rw [toNat_decodeWord]
  simp only [UInt8.toNat_ofNat']
  omega

/-- Every four octets are the written form of the word they decode to. -/
theorem encodeWord_decodeWord (a b c d : UInt8) :
    encodeWord (decodeWord a b c d) = [a, b, c, d] := by
  have ha := a.toNat_lt
  have hb := b.toNat_lt
  have hc := c.toNat_lt
  have hd := d.toNat_lt
  simp only [encodeWord, toNat_decodeWord, List.cons.injEq, and_true]
  refine ⟨?_, ?_, ?_, ?_⟩ <;> apply UInt8.toNat_inj.mp <;> simp only [UInt8.toNat_ofNat'] <;> omega

namespace Bytes

/-- The digit, lower case, for a number below sixteen. -/
def hexDigit (n : Nat) : Char :=
  if n < 10 then Char.ofNat ('0'.toNat + n) else Char.ofNat ('a'.toNat + (n - 10))

/-- Two lower-case hexadecimal digits for each octet. -/
def hex (bytes : Bytes) : String :=
  String.ofList (bytes.flatMap fun b => [hexDigit (b.toNat / 16), hexDigit (b.toNat % 16)])

/-- Whether `needle` stands, without gaps, somewhere in the byte string. -/
def occurs (needle : Bytes) : Bytes → Bool
  | [] => needle.isEmpty
  | b :: rest => needle.isPrefixOf (b :: rest) || occurs needle rest

end Bytes
end MockSsh
