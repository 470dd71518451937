import MockSsh.Message.Cursor
import MockSsh.Proofs.Text.Utf8

/-!
The fields of a payload, told without a reader: `IsWord`, `IsString`, `IsText` and `IsFlag` say which
bytes are a field and what its value is. Each reader of a cursor takes exactly its field off the bytes
(`Cursor.Takes`), and so a sequence of readers takes apart the concatenation of the fields
(`Cursor.Takes.bind_eq_ok_iff`).
-/
namespace MockSsh.Message

/-! ## Fields -/

/-- Four bytes with a number, the most significant first. -/
inductive IsWord : Bytes → UInt32 → Prop
  | mk {a b c d : UInt8} {word : UInt32}
      (h : word.toNat = ((a.toNat * 256 + b.toNat) * 256 + c.toNat) * 256 + d.toNat) :
      IsWord [a, b, c, d] word

/-- Four bytes with a length, and as many bytes of content. -/
inductive IsString : Bytes → Bytes → Prop
  | mk {length content : Bytes} {word : UInt32} (hword : IsWord length word)
      (hlength : word.toNat = content.length) : IsString (length ++ content) content

/-- One byte, and any but zero means yes. -/
inductive IsFlag : Bytes → Bool → Prop
  | mk (byte : UInt8) : IsFlag [byte] (byte != 0)

theorem isWord_iff {field : Bytes} {word : UInt32} : IsWord field word ↔ field = encodeWord word := by
  constructor
  · rintro ⟨h⟩
    rw [← encodeWord_decodeWord]
    congr 1
    apply UInt32.toNat_inj.mp
    rw [toNat_decodeWord, h]
    omega
  · rintro rfl
    refine .mk ?_
    have h := congrArg UInt32.toNat (decodeWord_encodeWord word)
    rw [toNat_decodeWord] at h
    omega

theorem isString_iff {field content : Bytes} :
    IsString field content ↔ content.length < UInt32.size ∧ field = encodeString content := by
  constructor
  · rintro ⟨hword, hlength⟩
    rw [isWord_iff.mp hword, encodeString, ← hlength, UInt32.ofNat_toNat]
    exact ⟨UInt32.toNat_lt_size _, rfl⟩
  · rintro ⟨hlength, rfl⟩
    exact .mk (isWord_iff.mpr rfl) (UInt32.toNat_ofNat_of_lt hlength)

@[simp] theorem length_encodeString (bytes : Bytes) :
    (encodeString bytes).length = 4 + bytes.length := by
  rw [encodeString, List.length_append, length_encodeWord]

@[simp] theorem length_encodeText (text : String) :
    (encodeText text).length = 4 + (Utf8.encode text).length :=
  length_encodeString (Utf8.encode text)

theorem IsWord.length {field : Bytes} {word : UInt32} (h : IsWord field word) : field.length = 4 := by
  cases h
  rfl

theorem IsString.length {field content : Bytes} (h : IsString field content) :
    field.length = 4 + content.length := by
  obtain ⟨hword, -⟩ := h
  rw [List.length_append, hword.length]

theorem IsWord.ne_nil {field : Bytes} {word : UInt32} (h : IsWord field word) : field ≠ [] := by
  refine List.ne_nil_of_length_pos ?_
  rw [h.length]
  exact Nat.zero_lt_succ 3

theorem IsString.ne_nil {field content : Bytes} (h : IsString field content) : field ≠ [] := by
  obtain ⟨hword, -⟩ := h
  exact List.append_ne_nil_of_left_ne_nil hword.ne_nil _

/-- Any four bytes are a word. -/
theorem exists_isWord {input : Bytes} (h : 4 ≤ input.length) :
    ∃ field word rest, IsWord field word ∧ input = field ++ rest := by
  rcases input with _ | ⟨a, _ | ⟨b, _ | ⟨c, _ | ⟨d, rest⟩⟩⟩⟩
  case cons.cons.cons.cons =>
    exact ⟨[a, b, c, d], decodeWord a b c d, rest,
      isWord_iff.mpr (encodeWord_decodeWord a b c d).symm, rfl⟩
  all_goals simp at h

theorem IsWord.encodeWord {field : Bytes} {word : UInt32} (h : IsWord field word) :
    encodeWord word = field :=
  (isWord_iff.mp h).symm

theorem IsString.encodeString {field content : Bytes} (h : IsString field content) :
    encodeString content = field :=
  (isString_iff.mp h).2.symm

/-- Valid bytes are written as they were read. -/
theorem IsString.encodeText {field content : Bytes} (h : IsString field content)
    (hvalid : Utf8.Valid content) : encodeText (Utf8.decodeLossy content) = field := by
  rw [Message.encodeText, hvalid.encode_decodeLossy, h.encodeString]

/-- A string that is read as text. -/
def IsText (field : Bytes) (text : String) : Prop :=
  ∃ content, IsString field content ∧ Utf8.decodeLossy content = text

namespace Cursor

/-! ## Readers -/

@[simp] theorem rest_start (payload : Bytes) : (start payload).rest = payload := rfl

/-- The reader takes exactly such fields off the bytes, and leaves what stands behind them. -/
def Takes {α : Type} (read : Cursor → Except PayloadFault (α × Cursor))
    (Field : Bytes → α → Prop) : Prop :=
  ∀ cursor value after, read cursor = .ok (value, after) ↔
    ∃ field rest, Field field value ∧ cursor.rest = field ++ rest ∧ after = { cursor with rest }

section Takes

variable {α β : Type} {read : Cursor → Except PayloadFault (α × Cursor)} {Field : Bytes → α → Prop}

theorem Takes.append (h : Takes read Field) {field : Bytes} {value : α} (hfield : Field field value)
    (size : Nat) (rest : Bytes) : read ⟨size, field ++ rest⟩ = .ok (value, ⟨size, rest⟩) :=
  (h _ _ _).mpr ⟨field, rest, hfield, rfl, rfl⟩

/-- Whatever is read behind a field is read from the bytes behind it. -/
theorem Takes.bind_eq_ok_iff (h : Takes read Field) {cursor : Cursor}
    {next : α × Cursor → Except PayloadFault β} {result : β} :
    read cursor >>= next = .ok result ↔
      ∃ field value rest, Field field value ∧ cursor.rest = field ++ rest ∧
        next (value, { cursor with rest }) = .ok result := by
  constructor
  · intro hbind
    cases hread : read cursor with
    | error fault =>
      rw [hread] at hbind
      cases hbind
    | ok taken =>
      obtain ⟨value, after⟩ := taken
      rw [hread] at hbind
      obtain ⟨field, rest, hfield, hrest, rfl⟩ := (h cursor value after).mp hread
      exact ⟨field, value, rest, hfield, hrest, hbind⟩
  · rintro ⟨field, value, rest, hfield, hrest, hnext⟩
    rw [(h cursor value _).mpr ⟨field, rest, hfield, hrest, rfl⟩]
    exact hnext

end Takes

theorem takes_word : Takes word IsWord := by
  intro cursor value after
  constructor
  · intro h
    unfold word at h
    split at h
    · next a b c d rest hrest =>
      cases h
      exact ⟨[a, b, c, d], rest, isWord_iff.mpr (encodeWord_decodeWord a b c d).symm, hrest, rfl⟩
    · cases h
  · rintro ⟨field, rest, hfield, hrest, rfl⟩
    rw [isWord_iff.mp hfield] at hrest
    unfold word
    rw [hrest]
    simp only [encodeWord, List.cons_append, List.nil_append, decodeWord_encodeWord]

theorem takes_flag : Takes flag IsFlag := by
  intro cursor value after
  constructor
  · intro h
    unfold flag at h
    split at h
    · next byte rest hrest =>
      cases h
      exact ⟨[byte], rest, .mk byte, hrest, rfl⟩
    · cases h
  · rintro ⟨_, rest, ⟨byte⟩, hrest, rfl⟩
    unfold flag
    rw [hrest]
    rfl

theorem takes_string : Takes string IsString := by
  intro cursor value after
  unfold string
  rw [takes_word.bind_eq_ok_iff]
  constructor
  · rintro ⟨field, length, rest, hfield, hrest, h⟩
    simp only at h
    split at h
    · next hle =>
      cases h
      refine ⟨field ++ rest.take length.toNat, rest.drop length.toNat, .mk hfield ?_, ?_, rfl⟩
      · rw [List.length_take, Nat.min_eq_left hle]
      · rw [hrest, List.append_assoc, List.take_append_drop]
    · cases h
  · rintro ⟨_, rest, ⟨hword, hlength⟩, hrest, rfl⟩
    refine ⟨_, _, value ++ rest, hword, by rw [hrest, List.append_assoc], ?_⟩
    have hle : value.length ≤ (value ++ rest).length := by
      rw [List.length_append]
      omega
    simp only [hlength, if_pos hle, List.take_left, List.drop_left]

theorem takes_text : Takes text IsText := by
  intro cursor value after
  unfold text
  rw [takes_string.bind_eq_ok_iff]
  constructor
  · rintro ⟨field, content, rest, hfield, hrest, h⟩
    cases h
    exact ⟨field, rest, ⟨content, hfield, rfl⟩, hrest, rfl⟩
  · rintro ⟨field, rest, ⟨content, hfield, rfl⟩, hrest, rfl⟩
    exact ⟨field, content, rest, hfield, hrest, rfl⟩

/-- Only where fewer than four bytes are left, no word is read. -/
theorem word_eq_error_iff {cursor : Cursor} :
    (∃ fault, cursor.word = .error fault) ↔ cursor.rest.length < 4 := by
  cases hread : cursor.word with
  | error fault =>
    have hshort : cursor.rest.length < 4 := by
      refine Nat.lt_of_not_le fun hlong => ?_
      obtain ⟨field, word, rest, hfield, hrest⟩ := exists_isWord hlong
      cases hread.symm.trans ((takes_word cursor word _).mpr ⟨field, rest, hfield, hrest, rfl⟩)
    simp [hshort]
  | ok taken =>
    obtain ⟨field, rest, hfield, hrest, -⟩ := (takes_word cursor taken.1 taken.2).mp hread
    simp only [reduceCtorEq, exists_false, hrest, List.length_append, hfield.length, false_iff]
    omega

end Cursor
end MockSsh.Message
