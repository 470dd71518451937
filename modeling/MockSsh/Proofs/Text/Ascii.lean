import MockSsh.Proofs.Text.Utf8

/-!
ASCII within UTF-8. A byte below 128 is never a part of a longer sequence, so in the bytes of a text it
stands as often as its character stands in the text (`count_encode`). Bytes that are read need not be
well-formed, but whatever a character was read from, the reader stands between characters behind it
(`exists_rest_of_decodeFrom`), and an ASCII character that is read last was the last byte
(`getLast?_of_decodeLossy`).
-/
namespace MockSsh.Utf8

/-! ## Writing -/

section Encode

variable {byte : UInt8} (hbyte : byte < 0x80)
include hbyte

theorem utf8EncodeChar_of_ascii : String.utf8EncodeChar (Char.ofNat byte.toNat) = [byte] := by
  have hvalue : byte.toNat < 128 := UInt8.lt_iff_toNat_lt.mp hbyte
  rw [utf8EncodeChar_ofNat (by omega), if_pos (by omega), UInt8.ofNat_toNat]

theorem eq_of_mem_utf8EncodeChar {c : Char} (hmem : byte ∈ String.utf8EncodeChar c) :
    c = Char.ofNat byte.toNat := by
  have hvalue : byte.toNat < 128 := UInt8.lt_iff_toNat_lt.mp hbyte
  rw [← Char.ofNat_toNat c] at hmem ⊢
  have hvalid : c.toNat < 0xD800 ∨ 0xDFFF < c.toNat ∧ c.toNat < 0x110000 := c.valid
  generalize c.toNat = value at hmem hvalid ⊢
  rw [utf8EncodeChar_ofNat hvalid] at hmem
  by_cases hone : value ≤ 0x7F
  · rw [if_pos hone, List.mem_singleton] at hmem
    have hread : (UInt8.ofNat value).toNat = value :=
      UInt8.toNat_ofNat_of_lt (show value < 256 by omega)
    rw [hmem, hread]
  · -- in a longer sequence every byte is at least 128
    have hlong {n : Nat} (hleast : 128 ≤ n) (hmost : n < 256) : byte ≠ UInt8.ofNat n := by
      rintro rfl
      have hread : (UInt8.ofNat n).toNat = n := UInt8.toNat_ofNat_of_lt hmost
      omega
    exfalso
    rw [if_neg hone] at hmem
    split at hmem
    · simp only [List.mem_cons, List.not_mem_nil, or_false] at hmem
      rcases hmem with h | h <;> exact hlong (by omega) (by omega) h
    split at hmem
    · simp only [List.mem_cons, List.not_mem_nil, or_false] at hmem
      rcases hmem with h | h | h <;> exact hlong (by omega) (by omega) h
    · simp only [List.mem_cons, List.not_mem_nil, or_false] at hmem
      rcases hmem with h | h | h | h <;> exact hlong (by omega) (by omega) h

/-- **A byte below 128** stands in the bytes of a text as often as its character in the text. -/
theorem count_encode (text : String) :
    (encode text).count byte = text.toList.count (Char.ofNat byte.toNat) := by
  rw [encode]
  induction text.toList with
  | nil => rfl
  | cons c chars ih =>
    rw [List.flatMap_cons, List.count_append, ih, List.count_cons]
    by_cases hc : c = Char.ofNat byte.toNat
    · rw [hc, utf8EncodeChar_of_ascii hbyte, List.count_singleton_self, beq_self_eq_true,
        if_pos rfl, Nat.add_comm]
    · have hnone : (String.utf8EncodeChar c).count byte = 0 :=
        List.count_eq_zero.mpr fun hmem => hc (eq_of_mem_utf8EncodeChar hbyte hmem)
      rw [hnone, if_neg (by simpa using hc), Nat.zero_add, Nat.add_zero]

end Encode

/-! ## Reading -/

/-- The byte at which a character begins yields it at once, or leaves the reader inside it. -/
theorem start_cases (byte : UInt8) :
    (∃ c, start byte = ([c], none)) ∨ ∃ owed, start byte = ([], some owed) := by
  unfold start
  repeat' split
  all_goals simp

/-- Behind a character that was read, from whatever bytes, the reader stands between characters. -/
theorem exists_rest_of_decodeFrom {state : State} {bytes : Bytes} {c : Char} {chars : List Char}
    (h : decodeFrom state bytes = c :: chars) :
    ∃ taken rest, bytes = taken ++ rest ∧ decodeFrom none rest = chars := by
  induction bytes generalizing state with
  | nil =>
    cases state with
    | none => cases h
    | some owed =>
      cases h
      exact ⟨[], [], rfl, rfl⟩
  | cons byte bytes ih =>
    -- a byte that yields nothing leaves the character to the bytes behind it
    have hsilent {later : State} (hlater : decodeFrom later bytes = c :: chars) :
        ∃ taken rest, byte :: bytes = taken ++ rest ∧ decodeFrom none rest = chars := by
      obtain ⟨taken, rest, rfl, hrest⟩ := ih hlater
      exact ⟨byte :: taken, rest, rfl, hrest⟩
    cases state with
    | none =>
      rcases start_cases byte with ⟨d, hstart⟩ | ⟨owed, hstart⟩
      · simp only [decodeFrom, step, hstart, List.cons_append, List.nil_append] at h
        exact ⟨[byte], bytes, rfl, (List.cons.inj h).2⟩
      · simp only [decodeFrom, step, hstart, List.nil_append] at h
        exact hsilent h
    | some owed =>
      by_cases hrange : (owed.low ≤ byte && byte ≤ owed.high) = true
      · by_cases hlast : owed.count ≤ 1
        · simp only [decodeFrom, step, if_pos hrange, if_pos hlast, List.cons_append,
            List.nil_append] at h
          exact ⟨[byte], bytes, rfl, (List.cons.inj h).2⟩
        · simp only [decodeFrom, step, if_pos hrange, if_neg hlast, List.nil_append] at h
          exact hsilent h
      · -- the byte is replaced for and read again
        simp only [decodeFrom, step, if_neg hrange, List.cons_append] at h
        exact ⟨[], byte :: bytes, rfl, (List.cons.inj h).2⟩

/-- **An ASCII character** that is read last was the last byte. -/
theorem getLast?_of_decodeLossy {bytes : Bytes} {c : Char} (hascii : c.toNat < 0x80)
    (h : (decodeLossy bytes).toList.getLast? = some c) :
    bytes.getLast? = some (UInt8.ofNat c.toNat) := by
  rw [decodeLossy, String.toList_ofList] at h
  generalize hchars : decodeFrom none bytes = chars at h
  induction chars generalizing bytes with
  | nil => cases h
  | cons d later ih =>
    cases later with
    | nil =>
      have hlast : d = c := Option.some.inj h
      have hread : c ≠ replacement := by
        rintro rfl
        exact absurd hascii (by decide)
      rw [hlast] at hchars
      obtain ⟨rest, rfl, hrest⟩ := exists_utf8EncodeChar hchars hread
      have hbyte : (UInt8.ofNat c.toNat).toNat = c.toNat :=
        UInt8.toNat_ofNat_of_lt (show c.toNat < 256 by omega)
      have hlow : UInt8.ofNat c.toNat < 0x80 := by
        rw [UInt8.lt_iff_toNat_lt, hbyte]
        exact hascii
      have hown := utf8EncodeChar_of_ascii hlow
      rw [hbyte, Char.ofNat_toNat] at hown
      rw [hown, (eq_nil_of_decodeFrom hrest).2]
      rfl
    | cons e later =>
      rw [List.getLast?_cons_cons] at h
      obtain ⟨taken, rest, rfl, hrest⟩ := exists_rest_of_decodeFrom hchars
      rw [List.getLast?_append, ih hrest h]
      rfl

theorem decodeLossy_concat {byte : UInt8} (h : byte < 0x80) (bytes : Bytes) :
    (decodeLossy (bytes ++ [byte])).toList
      = (decodeLossy bytes).toList ++ [Char.ofNat byte.toNat] := by
  rw [decodeLossy, String.toList_ofList, decode_append_ascii bytes [] h, decodeLossy,
    String.toList_ofList]
  rfl

end MockSsh.Utf8
