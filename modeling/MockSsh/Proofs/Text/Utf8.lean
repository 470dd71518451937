import MockSsh.Text.Utf8

/-!
Reading undoes writing. The bytes of a character take the reader through as many states as there are
bytes and back between characters (`decodeFrom_utf8EncodeChar`), so a text is read back from its bytes
(`decodeLossy_encode`), and valid bytes are the bytes of the text that is read from them
(`Valid.encode_decodeLossy`).

Writing undoes reading where nothing was replaced. A character that is no replacement is read from its
own bytes alone (`exists_utf8EncodeChar`), so a text without replacements is read from one byte string
only (`decodeLossy_eq_iff`).
-/
namespace MockSsh.Utf8

/-! ## One byte after the other -/

section Bytes

variable {n : Nat}

theorem decodeFrom_of_one (h : n ≤ 0x7F) (rest : Bytes) :
    decodeFrom none (UInt8.ofNat n :: rest) = Char.ofNat n :: decodeFrom none rest := by
  have hbyte : (UInt8.ofNat n).toNat = n := UInt8.toNat_ofNat_of_lt (show _ < 256 by omega)
  have hascii : UInt8.ofNat n < 0x80 := by
    rw [UInt8.lt_iff_toNat_lt, hbyte]
    exact Nat.lt_succ_of_le h
  simp only [decodeFrom, step, start_ascii hascii, hbyte, List.singleton_append]

theorem start_of_two (hlow : 0xC2 ≤ n) (hhigh : n ≤ 0xDF) :
    start (UInt8.ofNat n) = ([], some ⟨1, 0x80, 0xBF, n - 0xC0⟩) := by
  have hbyte : (UInt8.ofNat n).toNat = n := UInt8.toNat_ofNat_of_lt (show _ < 256 by omega)
  simp only [start, UInt8.lt_iff_toNat_lt, UInt8.le_iff_toNat_le, hbyte]
  rw [if_neg (by simp; omega), if_pos (by simp; omega)]

/-- The first of three bytes tells the range of the second, which is narrower where the number would
be too small for three bytes or a surrogate. -/
theorem start_of_three (hlow : 0xE0 ≤ n) (hhigh : n ≤ 0xEF) :
    start (UInt8.ofNat n) = ([], some ⟨2, if n = 0xE0 then 0xA0 else 0x80,
      if n = 0xED then 0x9F else 0xBF, n - 0xE0⟩) := by
  have hbyte : (UInt8.ofNat n).toNat = n := UInt8.toNat_ofNat_of_lt (show _ < 256 by omega)
  by_cases hleast : n = 0xE0
  · subst hleast
    rfl
  by_cases hsurrogate : n = 0xED
  · subst hsurrogate
    rfl
  simp only [start, UInt8.lt_iff_toNat_lt, UInt8.le_iff_toNat_le, beq_iff_eq, ← UInt8.toNat_inj,
    hbyte]
  rw [if_neg (by simp; omega), if_neg (by simp; omega), if_neg (by simpa using hleast),
    if_neg (by simpa using hsurrogate), if_pos (by simp; omega), if_neg hleast, if_neg hsurrogate]

/-- The first of four bytes. The range of the second leaves out numbers that are too small for four
bytes or too great for a character. -/
theorem start_of_four (hlow : 0xF0 ≤ n) (hhigh : n ≤ 0xF4) :
    start (UInt8.ofNat n) = ([], some ⟨3, if n = 0xF0 then 0x90 else 0x80,
      if n = 0xF4 then 0x8F else 0xBF, n - 0xF0⟩) := by
  obtain rfl | rfl | rfl | rfl | rfl :
      n = 0xF0 ∨ n = 0xF1 ∨ n = 0xF2 ∨ n = 0xF3 ∨ n = 0xF4 := by omega
  all_goals rfl

theorem decodeFrom_of_start {owed : Owed} (h : start (UInt8.ofNat n) = ([], some owed))
    (rest : Bytes) : decodeFrom none (UInt8.ofNat n :: rest) = decodeFrom (some owed) rest := by
  simp only [decodeFrom, step, h, List.nil_append]

section Owed

variable {low high : UInt8} {bits : Nat} (hbyte : n < 64) (hlow : low.toNat ≤ n + 128)
  (hhigh : n + 128 ≤ high.toNat)
include hbyte hlow hhigh

/-- A byte in the range that is asked for adds six bits to the number. -/
theorem step_of_owed (count : Nat) :
    step (some ⟨count, low, high, bits⟩) (UInt8.ofNat (n + 128)) =
      if count ≤ 1 then ([Char.ofNat (bits * 64 + n)], none)
      else ([], some ⟨count - 1, 0x80, 0xBF, bits * 64 + n⟩) := by
  have hvalue : (UInt8.ofNat (n + 128)).toNat = n + 128 := UInt8.toNat_ofNat_of_lt (show _ < 256 by omega)
  have hrange : (decide (low ≤ UInt8.ofNat (n + 128))
      && decide (UInt8.ofNat (n + 128) ≤ high)) = true := by
    simp only [UInt8.le_iff_toNat_le, hvalue, Bool.and_eq_true, decide_eq_true_eq]
    exact ⟨hlow, hhigh⟩
  simp only [step, hvalue, if_pos hrange, Nat.add_sub_cancel]

theorem decodeFrom_of_last (rest : Bytes) :
    decodeFrom (some ⟨1, low, high, bits⟩) (UInt8.ofNat (n + 128) :: rest)
      = Char.ofNat (bits * 64 + n) :: decodeFrom none rest := by
  simp only [decodeFrom, step_of_owed hbyte hlow hhigh, if_pos (Nat.le_refl 1),
    List.singleton_append]

theorem decodeFrom_of_more (count : Nat) (rest : Bytes) :
    decodeFrom (some ⟨count + 2, low, high, bits⟩) (UInt8.ofNat (n + 128) :: rest)
      = decodeFrom (some ⟨count + 1, 0x80, 0xBF, bits * 64 + n⟩) rest := by
  have hmore : ¬ count + 2 ≤ 1 := by omega
  simp only [decodeFrom, step_of_owed hbyte hlow hhigh, if_neg hmore, List.nil_append]
  rfl

end Owed

end Bytes

/-! ## Characters and texts -/

/-- **A character** is read from its bytes, whatever follows them. -/
theorem decodeFrom_utf8EncodeChar (c : Char) (rest : Bytes) :
    decodeFrom none (String.utf8EncodeChar c ++ rest) = c :: decodeFrom none rest := by
  obtain ⟨value, hvalue⟩ : ∃ value, c.val.toNat = value := ⟨_, rfl⟩
  have hvalid : value < 0xD800 ∨ 0xDFFF < value ∧ value < 0x110000 := hvalue ▸ c.valid
  have hchar {bits : Nat} (h : bits = value) : Char.ofNat bits = c := by
    rw [h, ← hvalue]
    exact Char.ofNat_toNat c
  unfold String.utf8EncodeChar
  simp only [hvalue]
  -- the first byte tells how many there are, and every later one lies in the range asked for
  by_cases hone : value ≤ 0x7F
  · rw [if_pos hone, List.singleton_append, decodeFrom_of_one hone, hchar rfl]
  rw [if_neg hone]
  by_cases htwo : value ≤ 0x7FF
  · rw [if_pos htwo]
    simp only [List.cons_append, List.nil_append]
    rw [decodeFrom_of_start (start_of_two (by omega) (by omega)),
      decodeFrom_of_last (by omega) (by simp) (by simp; omega), hchar (by omega)]
  rw [if_neg htwo]
  by_cases hthree : value ≤ 0xFFFF
  · rw [if_pos hthree]
    simp only [List.cons_append, List.nil_append]
    rw [decodeFrom_of_start (start_of_three (by omega) (by omega)),
      decodeFrom_of_more (by omega) (by split <;> simp; omega) (by split <;> simp <;> omega),
      decodeFrom_of_last (by omega) (by simp) (by simp; omega), hchar (by omega)]
  · rw [if_neg hthree]
    simp only [List.cons_append, List.nil_append]
    rw [decodeFrom_of_start (start_of_four (by omega) (by omega)),
      decodeFrom_of_more (by omega) (by split <;> simp; omega) (by split <;> simp <;> omega),
      decodeFrom_of_more (by omega) (by simp) (by simp; omega),
      decodeFrom_of_last (by omega) (by simp) (by simp; omega), hchar (by omega)]

/-- **A text** is read back from its bytes. -/
@[simp] theorem decodeLossy_encode (text : String) : decodeLossy (encode text) = text := by
  have hchars : ∀ chars : List Char,
      decodeFrom none (chars.flatMap String.utf8EncodeChar) = chars := by
    intro chars
    induction chars with
    | nil => rfl
    | cons c chars ih => rw [List.flatMap_cons, decodeFrom_utf8EncodeChar, ih]
  rw [decodeLossy, encode, hchars, String.ofList_toList]

theorem encode_append (text more : String) : encode (text ++ more) = encode text ++ encode more := by
  rw [encode, String.toList_append, List.flatMap_append]
  rfl

theorem encode_eq_nil_iff {text : String} : encode text = [] ↔ text = "" := by
  constructor
  · intro h
    rw [← decodeLossy_encode text, h]
    rfl
  · rintro rfl
    rfl

/-- No character has more than four bytes. -/
theorem length_encode_le (text : String) : (encode text).length ≤ 4 * text.length := by
  have hchars : ∀ chars : List Char,
      (chars.flatMap String.utf8EncodeChar).length ≤ 4 * chars.length := by
    intro chars
    induction chars with
    | nil => exact Nat.le_refl 0
    | cons c chars ih =>
      have hchar := c.utf8Size_le_four
      rw [List.flatMap_cons, List.length_append, String.length_utf8EncodeChar, List.length_cons]
      omega
  rw [encode, ← String.length_toList]
  exact hchars text.toList

/-- The bytes of some text. -/
def Valid (bytes : Bytes) : Prop :=
  ∃ text, encode text = bytes

/-- Valid bytes come through a reading unchanged. -/
theorem Valid.encode_decodeLossy {bytes : Bytes} (h : Valid bytes) :
    encode (decodeLossy bytes) = bytes := by
  obtain ⟨text, rfl⟩ := h
  rw [decodeLossy_encode]

/-! ## Readings without a replacement -/

/-- A byte that starts no character is replaced at once. -/
theorem start_of_stray {n : Nat} (hlow : 0x7F < n) (hhigh : n < 0xC2 ∨ 0xF4 < n) (h : n < 256) :
    start (UInt8.ofNat n) = ([replacement], none) := by
  have hbyte : (UInt8.ofNat n).toNat = n := UInt8.toNat_ofNat_of_lt h
  simp only [start, UInt8.lt_iff_toNat_lt, UInt8.le_iff_toNat_le, beq_iff_eq, ← UInt8.toNat_inj,
    hbyte]
  rw [if_neg (by simp; omega), if_neg (by simp; omega), if_neg (by simp; omega),
    if_neg (by simp; omega), if_neg (by simp; omega), if_neg (by simp; omega),
    if_neg (by simp; omega), if_neg (by simp; omega)]

section Owed

variable {low high : UInt8} {bits : Nat} {bytes : Bytes} {c : Char} {chars : List Char}

/-- What is owed comes, or a replacement does. -/
theorem next_of_decodeFrom {count : Nat} (hlow : 0x80 ≤ low) (hhigh : high ≤ 0xBF)
    (h : decodeFrom (some ⟨count, low, high, bits⟩) bytes = c :: chars) (hread : c ≠ replacement) :
    ∃ n rest, n < 64 ∧ low.toNat ≤ n + 128 ∧ n + 128 ≤ high.toNat ∧
      bytes = UInt8.ofNat (n + 128) :: rest := by
  cases bytes with
  | nil =>
    cases h
    exact absurd rfl hread
  | cons b rest =>
    by_cases hrange : (low ≤ b && b ≤ high) = true
    · rw [Bool.and_eq_true, decide_eq_true_eq, decide_eq_true_eq, UInt8.le_iff_toNat_le,
        UInt8.le_iff_toNat_le] at hrange
      have hleast : 128 ≤ low.toNat := UInt8.le_iff_toNat_le.mp hlow
      have hmost : high.toNat ≤ 191 := UInt8.le_iff_toNat_le.mp hhigh
      refine ⟨b.toNat - 128, rest, by omega, by omega, by omega, ?_⟩
      rw [Nat.sub_add_cancel (by omega), UInt8.ofNat_toNat]
    · simp only [decodeFrom, step, if_neg hrange, List.cons_append, List.cons.injEq] at h
      exact absurd h.1.symm hread

theorem last_of_decodeFrom (hlow : 0x80 ≤ low) (hhigh : high ≤ 0xBF)
    (h : decodeFrom (some ⟨1, low, high, bits⟩) bytes = c :: chars) (hread : c ≠ replacement) :
    ∃ n rest, n < 64 ∧ low.toNat ≤ n + 128 ∧ n + 128 ≤ high.toNat ∧
      bytes = UInt8.ofNat (n + 128) :: rest ∧ c = Char.ofNat (bits * 64 + n) ∧
      decodeFrom none rest = chars := by
  obtain ⟨n, rest, hbyte, hleast, hmost, rfl⟩ := next_of_decodeFrom hlow hhigh h hread
  rw [decodeFrom_of_last hbyte hleast hmost, List.cons.injEq] at h
  exact ⟨n, rest, hbyte, hleast, hmost, rfl, h.1.symm, h.2⟩

theorem more_of_decodeFrom {count : Nat} (hlow : 0x80 ≤ low) (hhigh : high ≤ 0xBF)
    (h : decodeFrom (some ⟨count + 2, low, high, bits⟩) bytes = c :: chars)
    (hread : c ≠ replacement) :
    ∃ n rest, n < 64 ∧ low.toNat ≤ n + 128 ∧ n + 128 ≤ high.toNat ∧
      bytes = UInt8.ofNat (n + 128) :: rest ∧
      decodeFrom (some ⟨count + 1, 0x80, 0xBF, bits * 64 + n⟩) rest = c :: chars := by
  obtain ⟨n, rest, hbyte, hleast, hmost, rfl⟩ := next_of_decodeFrom hlow hhigh h hread
  rw [decodeFrom_of_more hbyte hleast hmost] at h
  exact ⟨n, rest, hbyte, hleast, hmost, rfl, h⟩

end Owed

/-- The bytes of the character with a given number. -/
theorem utf8EncodeChar_ofNat {value : Nat}
    (h : value < 0xD800 ∨ 0xDFFF < value ∧ value < 0x110000) :
    String.utf8EncodeChar (Char.ofNat value) =
      if value ≤ 0x7F then [UInt8.ofNat value]
      else if value ≤ 0x7FF then
        [UInt8.ofNat (value / 64 % 32 + 0xC0), UInt8.ofNat (value % 64 + 128)]
      else if value ≤ 0xFFFF then
        [UInt8.ofNat (value / 4096 % 16 + 0xE0), UInt8.ofNat (value / 64 % 64 + 128),
          UInt8.ofNat (value % 64 + 128)]
      else
        [UInt8.ofNat (value / 262144 % 8 + 0xF0), UInt8.ofNat (value / 4096 % 64 + 128),
          UInt8.ofNat (value / 64 % 64 + 128), UInt8.ofNat (value % 64 + 128)] := by
  have hvalid : value.isValidChar := h
  have hvalue : (Char.ofNat value).val.toNat = value := by
    rw [Char.ofNat, dif_pos hvalid]
    rfl
  rw [String.utf8EncodeChar]
  simp only [hvalue]

/-- **A character** that is read, and is no replacement, is read from its own bytes. -/
theorem exists_utf8EncodeChar {bytes : Bytes} {c : Char} {chars : List Char}
    (h : decodeFrom none bytes = c :: chars) (hread : c ≠ replacement) :
    ∃ rest, bytes = String.utf8EncodeChar c ++ rest ∧ decodeFrom none rest = chars := by
  cases bytes with
  | nil => cases h
  | cons byte rest =>
    obtain ⟨n, hbyte, rfl⟩ : ∃ n, n < 256 ∧ byte = UInt8.ofNat n :=
      ⟨byte.toNat, byte.toNat_lt, UInt8.ofNat_toNat.symm⟩
    by_cases hone : n ≤ 0x7F
    · rw [decodeFrom_of_one hone, List.cons.injEq] at h
      obtain ⟨rfl, rfl⟩ := h
      refine ⟨rest, ?_, rfl⟩
      rw [utf8EncodeChar_ofNat (by omega), if_pos hone]
      rfl
    by_cases hstray : n < 0xC2 ∨ 0xF4 < n
    · simp only [decodeFrom, step, start_of_stray (by omega) hstray hbyte, List.cons_append,
        List.cons.injEq] at h
      exact absurd h.1.symm hread
    -- every other byte tells how many are to follow it and where the next one lies
    by_cases htwo : n ≤ 0xDF
    · rw [decodeFrom_of_start (start_of_two (by omega) htwo)] at h
      obtain ⟨m, rest, hm, -, -, rfl, rfl, rfl⟩ :=
        last_of_decodeFrom (by decide) (by decide) h hread
      refine ⟨rest, ?_, rfl⟩
      rw [utf8EncodeChar_ofNat (by omega), if_neg (by omega), if_pos (by omega)]
      simp only [List.cons_append, List.nil_append, List.cons.injEq, and_true]
      constructor <;> congr 1 <;> omega
    by_cases hthree : n ≤ 0xEF
    · rw [decodeFrom_of_start (start_of_three (by omega) hthree)] at h
      obtain ⟨m, rest, hm, hleast, hmost, rfl, hmore⟩ :=
        more_of_decodeFrom (by split <;> decide) (by split <;> decide) h hread
      obtain ⟨k, rest, hk, -, -, rfl, rfl, rfl⟩ :=
        last_of_decodeFrom (by decide) (by decide) hmore hread
      have hlarge : n = 0xE0 → 0xA0 ≤ m + 128 := by
        rintro rfl
        exact hleast
      have hsurrogate : n = 0xED → m + 128 ≤ 0x9F := by
        rintro rfl
        exact hmost
      refine ⟨rest, ?_, rfl⟩
      rw [utf8EncodeChar_ofNat (by omega), if_neg (by omega), if_neg (by omega), if_pos (by omega)]
      simp only [List.cons_append, List.nil_append, List.cons.injEq, and_true]
      refine ⟨?_, ?_, ?_⟩ <;> congr 1 <;> omega
    · rw [decodeFrom_of_start (start_of_four (by omega) (by omega))] at h
      obtain ⟨m, rest, hm, hleast, hmost, rfl, hmore⟩ :=
        more_of_decodeFrom (by split <;> decide) (by split <;> decide) h hread
      obtain ⟨k, rest, hk, -, -, rfl, hlater⟩ :=
        more_of_decodeFrom (by decide) (by decide) hmore hread
      obtain ⟨l, rest, hl, -, -, rfl, rfl, rfl⟩ :=
        last_of_decodeFrom (by decide) (by decide) hlater hread
      have hlarge : n = 0xF0 → 0x90 ≤ m + 128 := by
        rintro rfl
        exact hleast
      have hsmall : n = 0xF4 → m + 128 ≤ 0x8F := by
        rintro rfl
        exact hmost
      refine ⟨rest, ?_, rfl⟩
      rw [utf8EncodeChar_ofNat (by omega), if_neg (by omega), if_neg (by omega), if_neg (by omega)]
      simp only [List.cons_append, List.nil_append, List.cons.injEq, and_true]
      refine ⟨?_, ?_, ?_, ?_⟩ <;> congr 1 <;> omega

/-- After a byte the reader has yielded something or stands inside a character. -/
theorem step_yields (state : State) (b : UInt8) :
    (step state b).1 ≠ [] ∨ (step state b).2 ≠ none := by
  have hstart : (start b).1 ≠ [] ∨ (start b).2 ≠ none := by
    unfold start
    repeat' split
    all_goals simp
  unfold step
  cases state with
  | none => exact hstart
  | some owed =>
    simp only
    split
    · split <;> simp
    · exact .inl (List.cons_ne_nil _ _)

/-- Only where there are no bytes, nothing is read. -/
theorem eq_nil_of_decodeFrom {state : State} {bytes : Bytes} (h : decodeFrom state bytes = []) :
    state = none ∧ bytes = [] := by
  induction bytes generalizing state with
  | nil =>
    cases state with
    | none => exact ⟨rfl, rfl⟩
    | some owed => cases h
  | cons b rest ih =>
    obtain ⟨hyields, hrest⟩ := List.append_eq_nil_iff.mp h
    rcases step_yields state b with hsome | hinside
    · exact absurd hyields hsome
    · exact absurd (ih hrest).1 hinside

/-- **Where no replacement was read**, the bytes are those of the text that was read. -/
theorem encode_decodeLossy {bytes : Bytes} (h : replacement ∉ (decodeLossy bytes).toList) :
    encode (decodeLossy bytes) = bytes := by
  rw [decodeLossy, String.toList_ofList] at h
  rw [decodeLossy, encode, String.toList_ofList]
  generalize hchars : decodeFrom none bytes = chars at h ⊢
  induction chars generalizing bytes with
  | nil => rw [(eq_nil_of_decodeFrom hchars).2, List.flatMap_nil]
  | cons c chars ih =>
    rw [List.mem_cons, not_or] at h
    obtain ⟨rest, rfl, hrest⟩ := exists_utf8EncodeChar hchars (Ne.symm h.1)
    rw [List.flatMap_cons, ih hrest h.2]

/-- So a text without replacements is read from its own bytes alone. -/
theorem decodeLossy_eq_iff {text : String} (h : replacement ∉ text.toList) {bytes : Bytes} :
    decodeLossy bytes = text ↔ bytes = encode text := by
  constructor
  · rintro rfl
    exact (encode_decodeLossy h).symm
  · rintro rfl
    exact decodeLossy_encode text

end MockSsh.Utf8
