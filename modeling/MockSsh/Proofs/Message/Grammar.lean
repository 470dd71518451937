import MockSsh.Message.Channel
import MockSsh.Message.Service
import MockSsh.Message.Transport
import MockSsh.Proofs.Message.Fields

/-!
Which payloads are messages, told without a reader. The `Layout` of a message says which fields follow
each other in its payload, which of them may be missing, and what may stand behind them; beside the
message it names the bytes of the text fields, because a text is not always the text of one byte string
alone. Every reader accepts exactly its layout (`Accepts`), and a message that was read is written in a
canonical form of what was read, unless a text was no UTF-8 (`Canonical`).
-/
namespace MockSsh.Message

/-! ## Layouts -/

/-- The algorithm and the key, and nothing behind them. -/
inductive PublicKeyOk.Layout : Bytes → List Bytes → PublicKeyOk → Prop
  | mk {first second algorithm key : Bytes} (halgorithm : IsString first algorithm)
      (hkey : IsString second key) :
      Layout (first ++ second) [algorithm] ⟨Utf8.decodeLossy algorithm, key⟩

/-- Nothing, or the name of the service, with anything behind it. -/
inductive ServiceRequest.Layout : Bytes → List Bytes → ServiceRequest → Prop
  | unnamed : Layout [] [] ⟨""⟩
  | named {first rest service : Bytes} (hservice : IsString first service) :
      Layout (first ++ rest) [service] ⟨Utf8.decodeLossy service⟩

/-- The type and the sender's number; the window if four more bytes follow, the largest packet if
another four do, and anything behind them. -/
inductive ChannelOpen.Layout : Bytes → List Bytes → ChannelOpen → Prop
  | bare {first second rest channelType : Bytes} {sender : UInt32}
      (htype : IsString first channelType) (hsender : IsWord second sender)
      (hrest : rest.length < 4) :
      Layout (first ++ (second ++ rest)) [channelType]
        ⟨Utf8.decodeLossy channelType, sender, none, none⟩
  | windowed {first second third rest channelType : Bytes} {sender window : UInt32}
      (htype : IsString first channelType) (hsender : IsWord second sender)
      (hwindow : IsWord third window) (hrest : rest.length < 4) :
      Layout (first ++ (second ++ (third ++ rest))) [channelType]
        ⟨Utf8.decodeLossy channelType, sender, some window, none⟩
  | full {first second third fourth rest channelType : Bytes} {sender window maxPacket : UInt32}
      (htype : IsString first channelType) (hsender : IsWord second sender)
      (hwindow : IsWord third window) (hmax : IsWord fourth maxPacket) :
      Layout (first ++ (second ++ (third ++ (fourth ++ rest)))) [channelType]
        ⟨Utf8.decodeLossy channelType, sender, some window, some maxPacket⟩

/-- Four words, and anything behind them. -/
inductive ChannelOpenConfirmation.Layout :
    Bytes → List Bytes → ChannelOpenConfirmation → Prop
  | mk {first second third fourth rest : Bytes} {recipient sender window maxPacket : UInt32}
      (hrecipient : IsWord first recipient) (hsender : IsWord second sender)
      (hwindow : IsWord third window) (hmax : IsWord fourth maxPacket) :
      Layout (first ++ (second ++ (third ++ (fourth ++ rest)))) []
        ⟨recipient, sender, window, maxPacket⟩

/-- The recipient's number and the data, and anything behind them. -/
inductive ChannelData.Layout : Bytes → List Bytes → ChannelData → Prop
  | mk {first second rest data : Bytes} {recipient : UInt32} (hrecipient : IsWord first recipient)
      (hdata : IsString second data) : Layout (first ++ (second ++ rest)) [] ⟨recipient, data⟩

/-- The recipient's number, the type, whether a reply is wanted, and the details, which are all the
rest. -/
inductive ChannelRequest.Layout : Bytes → List Bytes → ChannelRequest → Prop
  | mk {first second third details requestType : Bytes} {recipient : UInt32} {wantReply : Bool}
      (hrecipient : IsWord first recipient) (htype : IsString second requestType)
      (hwant : IsFlag third wantReply) :
      Layout (first ++ (second ++ (third ++ details))) [requestType]
        ⟨recipient, Utf8.decodeLossy requestType, wantReply, details⟩

/-- Nothing, or the reason alone, or the reason and the description, or these and the language with
anything behind it. -/
inductive Disconnect.Layout : Bytes → List Bytes → Disconnect → Prop
  | empty : Layout [] [] ⟨0, "", ""⟩
  | bare {first : Bytes} {reason : UInt32} (hreason : IsWord first reason) :
      Layout first [] ⟨reason, "", ""⟩
  | described {first second description : Bytes} {reason : UInt32} (hreason : IsWord first reason)
      (hdescription : IsString second description) :
      Layout (first ++ second) [description] ⟨reason, Utf8.decodeLossy description, ""⟩
  | full {first second third rest description language : Bytes} {reason : UInt32}
      (hreason : IsWord first reason) (hdescription : IsString second description)
      (hlanguage : IsString third language) :
      Layout (first ++ (second ++ (third ++ rest))) [description, language]
        ⟨reason, Utf8.decodeLossy description, Utf8.decodeLossy language⟩

/-- A number, which makes the message, and anything behind it. -/
inductive WordLayout {μ : Type} (make : UInt32 → μ) : Bytes → List Bytes → μ → Prop
  | mk {first rest : Bytes} {word : UInt32} (hword : IsWord first word) :
      WordLayout make (first ++ rest) [] (make word)

/-! ## Readers -/

section Accepts

variable {μ : Type}

/-- The reader gives the message where its layout fits, and a fault of the payload where none does. -/
structure Accepts (parse : Bytes → Except PayloadFault μ)
    (Layout : Bytes → List Bytes → μ → Prop) : Prop where
  ok_iff : ∀ payload message, parse payload = .ok message ↔ ∃ texts, Layout payload texts message
  error_iff : ∀ payload,
    (∃ fault, parse payload = .error fault) ↔ ∀ texts message, ¬ Layout payload texts message

theorem Accepts.of_ok_iff {parse : Bytes → Except PayloadFault μ}
    {Layout : Bytes → List Bytes → μ → Prop}
    (h : ∀ payload message, parse payload = .ok message ↔ ∃ texts, Layout payload texts message) :
    Accepts parse Layout where
  ok_iff := h
  error_iff payload := by
    cases hparse : parse payload with
    | error fault =>
      refine iff_of_true ⟨fault, rfl⟩ fun texts message hlayout => ?_
      cases hparse.symm.trans ((h payload message).mpr ⟨texts, hlayout⟩)
    | ok message =>
      obtain ⟨texts, hlayout⟩ := (h payload message).mp hparse
      refine iff_of_false ?_ fun hnone => hnone texts message hlayout
      rintro ⟨fault, ⟨⟩⟩

end Accepts

theorem PublicKeyOk.accepts : Accepts parse Layout := by
  refine .of_ok_iff fun payload message => ?_
  simp only [parse, Cursor.takes_text.bind_eq_ok_iff, Cursor.takes_string.bind_eq_ok_iff,
    Cursor.rest_start]
  constructor
  · rintro ⟨first, _, _, ⟨algorithm, halgorithm, rfl⟩, rfl, second, key, rest, hkey, rfl, h⟩
    cases rest with
    | nil =>
      cases h
      rw [List.append_nil]
      exact ⟨[algorithm], .mk halgorithm hkey⟩
    | cons byte rest => cases h
  · rintro ⟨_, ⟨halgorithm, hkey⟩⟩
    exact ⟨_, _, _, ⟨_, halgorithm, rfl⟩, rfl, _, _, [], hkey, (List.append_nil _).symm, rfl⟩

theorem ServiceRequest.accepts : Accepts parse Layout := by
  refine .of_ok_iff fun payload message => ?_
  unfold parse
  constructor
  · intro h
    split at h
    · next hempty =>
      cases h
      rw [List.isEmpty_iff.mp hempty]
      exact ⟨[], .unnamed⟩
    · simp only [Cursor.takes_text.bind_eq_ok_iff, Cursor.rest_start] at h
      obtain ⟨first, _, rest, ⟨service, hservice, rfl⟩, rfl, ⟨⟩⟩ := h
      exact ⟨[service], .named hservice⟩
  · rintro ⟨texts, hlayout⟩
    cases hlayout with
    | unnamed => rfl
    | named hservice =>
      rw [if_neg (by simp [hservice.ne_nil]), Cursor.takes_text.bind_eq_ok_iff]
      exact ⟨_, _, _, ⟨_, hservice, rfl⟩, rfl, rfl⟩

theorem ChannelOpen.accepts : Accepts parse Layout := by
  refine .of_ok_iff fun payload message => ?_
  simp only [parse, Cursor.takes_text.bind_eq_ok_iff, Cursor.takes_word.bind_eq_ok_iff,
    Cursor.rest_start]
  constructor
  · rintro ⟨_, _, _, ⟨channelType, htype, rfl⟩, rfl, _, sender, rest, hsender, rfl, h⟩
    refine ⟨[channelType], ?_⟩
    -- a word that cannot be read ends the reading and is no fault
    split at h
    · next fault hread =>
      cases h
      exact .bare htype hsender (Cursor.word_eq_error_iff.mp ⟨fault, hread⟩)
    · next window after hread =>
      obtain ⟨_, rest, hwindow, rfl, rfl⟩ := (Cursor.takes_word _ _ _).mp hread
      split at h
      · next fault hread =>
        cases h
        exact .windowed htype hsender hwindow (Cursor.word_eq_error_iff.mp ⟨fault, hread⟩)
      · next maxPacket after hread =>
        obtain ⟨_, rest, hmax, rfl, rfl⟩ := (Cursor.takes_word _ _ _).mp hread
        cases h
        exact .full htype hsender hwindow hmax
  · rintro ⟨texts, hlayout⟩
    cases hlayout with
    | bare htype hsender hrest =>
      refine ⟨_, _, _, ⟨_, htype, rfl⟩, rfl, _, _, _, hsender, rfl, ?_⟩
      generalize (Cursor.start _).size = size
      obtain ⟨fault, hread⟩ := @Cursor.word_eq_error_iff ⟨size, _⟩ |>.mpr hrest
      rw [hread]
      rfl
    | windowed htype hsender hwindow hrest =>
      refine ⟨_, _, _, ⟨_, htype, rfl⟩, rfl, _, _, _, hsender, rfl, ?_⟩
      generalize (Cursor.start _).size = size
      obtain ⟨fault, hread⟩ := @Cursor.word_eq_error_iff ⟨size, _⟩ |>.mpr hrest
      simp only [Cursor.takes_word.append hwindow, hread]
      rfl
    | full htype hsender hwindow hmax =>
      refine ⟨_, _, _, ⟨_, htype, rfl⟩, rfl, _, _, _, hsender, rfl, ?_⟩
      simp only [Cursor.takes_word.append hwindow, Cursor.takes_word.append hmax]
      rfl

theorem ChannelOpenConfirmation.accepts : Accepts parse Layout := by
  refine .of_ok_iff fun payload message => ?_
  simp only [parse, Cursor.takes_word.bind_eq_ok_iff, Cursor.rest_start]
  constructor
  · rintro ⟨_, _, _, hrecipient, rfl, _, _, _, hsender, rfl, _, _, _, hwindow, rfl, _, _, _, hmax,
      rfl, ⟨⟩⟩
    exact ⟨[], .mk hrecipient hsender hwindow hmax⟩
  · rintro ⟨_, ⟨hrecipient, hsender, hwindow, hmax⟩⟩
    exact ⟨_, _, _, hrecipient, rfl, _, _, _, hsender, rfl, _, _, _, hwindow, rfl, _, _, _, hmax,
      rfl, rfl⟩

theorem ChannelData.accepts : Accepts parse Layout := by
  refine .of_ok_iff fun payload message => ?_
  simp only [parse, Cursor.takes_word.bind_eq_ok_iff, Cursor.takes_string.bind_eq_ok_iff,
    Cursor.rest_start]
  constructor
  · rintro ⟨_, _, _, hrecipient, rfl, _, _, _, hdata, rfl, ⟨⟩⟩
    exact ⟨[], .mk hrecipient hdata⟩
  · rintro ⟨_, ⟨hrecipient, hdata⟩⟩
    exact ⟨_, _, _, hrecipient, rfl, _, _, _, hdata, rfl, rfl⟩

theorem ChannelRequest.accepts : Accepts parse Layout := by
  refine .of_ok_iff fun payload message => ?_
  simp only [parse, Cursor.takes_word.bind_eq_ok_iff, Cursor.takes_text.bind_eq_ok_iff,
    Cursor.takes_flag.bind_eq_ok_iff, Cursor.rest_start]
  constructor
  · rintro ⟨_, _, _, hrecipient, rfl, _, _, _, ⟨requestType, htype, rfl⟩, rfl, _, _, _, hwant, rfl,
      ⟨⟩⟩
    exact ⟨[requestType], .mk hrecipient htype hwant⟩
  · rintro ⟨_, ⟨hrecipient, htype, hwant⟩⟩
    exact ⟨_, _, _, hrecipient, rfl, _, _, _, ⟨_, htype, rfl⟩, rfl, _, _, _, hwant, rfl, rfl⟩

theorem Disconnect.accepts : Accepts parse Layout := by
  refine .of_ok_iff fun payload message => ?_
  unfold parse
  constructor
  · intro h
    -- before each field the reader asks whether anything is left
    split at h
    · next hempty =>
      cases h
      rw [List.isEmpty_iff.mp hempty]
      exact ⟨[], .empty⟩
    · rw [Cursor.takes_word.bind_eq_ok_iff] at h
      obtain ⟨first, reason, rest, hreason, hpayload, h⟩ := h
      rw [Cursor.rest_start] at hpayload
      subst hpayload
      simp only at h
      split at h
      · next hempty =>
        cases h
        rw [List.isEmpty_iff.mp hempty, List.append_nil]
        exact ⟨[], .bare hreason⟩
      · rw [Cursor.takes_text.bind_eq_ok_iff] at h
        obtain ⟨second, _, rest, ⟨description, hdescription, rfl⟩, rfl, h⟩ := h
        simp only at h
        split at h
        · next hempty =>
          cases h
          rw [List.isEmpty_iff.mp hempty, List.append_nil]
          exact ⟨[description], .described hreason hdescription⟩
        · rw [Cursor.takes_text.bind_eq_ok_iff] at h
          obtain ⟨third, _, rest, ⟨language, hlanguage, rfl⟩, rfl, ⟨⟩⟩ := h
          exact ⟨[description, language], .full hreason hdescription hlanguage⟩
  · rintro ⟨texts, hlayout⟩
    cases hlayout with
    | empty => rfl
    | bare hreason =>
      rw [if_neg (by simp [hreason.ne_nil]), Cursor.takes_word.bind_eq_ok_iff]
      exact ⟨_, _, [], hreason, (List.append_nil _).symm, rfl⟩
    | described hreason hdescription =>
      rw [if_neg (by simp [hreason.ne_nil]), Cursor.takes_word.bind_eq_ok_iff]
      refine ⟨_, _, _, hreason, rfl, ?_⟩
      simp only
      rw [if_neg (by simp [hdescription.ne_nil]), Cursor.takes_text.bind_eq_ok_iff]
      exact ⟨_, _, [], ⟨_, hdescription, rfl⟩, (List.append_nil _).symm, rfl⟩
    | full hreason hdescription hlanguage =>
      rw [if_neg (by simp [hreason.ne_nil]), Cursor.takes_word.bind_eq_ok_iff]
      refine ⟨_, _, _, hreason, rfl, ?_⟩
      simp only
      rw [if_neg (by simp [hdescription.ne_nil]), Cursor.takes_text.bind_eq_ok_iff]
      refine ⟨_, _, _, ⟨_, hdescription, rfl⟩, rfl, ?_⟩
      simp only
      rw [if_neg (by simp [hlanguage.ne_nil]), Cursor.takes_text.bind_eq_ok_iff]
      exact ⟨_, _, _, ⟨_, hlanguage, rfl⟩, rfl, rfl⟩

/-- The reader of a message that is made of one number. -/
theorem accepts_word {μ : Type} (make : UInt32 → μ) :
    Accepts (fun payload => do
      let (word, _) ← (Cursor.start payload).word
      return make word) (WordLayout make) := by
  refine .of_ok_iff fun payload message => ?_
  simp only [Cursor.takes_word.bind_eq_ok_iff, Cursor.rest_start]
  constructor
  · rintro ⟨_, _, _, hword, rfl, ⟨⟩⟩
    exact ⟨[], .mk hword⟩
  · rintro ⟨_, ⟨hword⟩⟩
    exact ⟨_, _, _, hword, rfl, rfl⟩

theorem ChannelClose.accepts : Accepts parse (WordLayout mk) :=
  accepts_word mk

theorem Unimplemented.accepts : Accepts parse (WordLayout mk) :=
  accepts_word mk

/-! ## Lengths -/

theorem Accepts.isOk_iff_of_word {μ : Type} {parse : Bytes → Except PayloadFault μ}
    {make : UInt32 → μ} (h : Accepts parse (WordLayout make)) (payload : Bytes) :
    (∃ message, parse payload = .ok message) ↔ 4 ≤ payload.length := by
  simp only [h.ok_iff]
  constructor
  · rintro ⟨_, _, ⟨hword⟩⟩
    rw [List.length_append, hword.length]
    exact Nat.le_add_right 4 _
  · intro hlong
    obtain ⟨_, _, rest, hword, rfl⟩ := exists_isWord hlong
    exact ⟨_, _, .mk hword⟩

theorem ChannelOpenConfirmation.isOk_iff (payload : Bytes) :
    (∃ message, parse payload = .ok message) ↔ 16 ≤ payload.length := by
  simp only [accepts.ok_iff]
  constructor
  · rintro ⟨_, _, ⟨hrecipient, hsender, hwindow, hmax⟩⟩
    simp only [List.length_append, hrecipient.length, hsender.length, hwindow.length, hmax.length]
    omega
  · intro hlong
    -- each word that is taken off leaves enough for the next
    obtain ⟨_, _, rest, hrecipient, rfl⟩ := exists_isWord (Nat.le_trans (by decide) hlong)
    rw [List.length_append, hrecipient.length] at hlong
    obtain ⟨_, _, rest, hsender, rfl⟩ := exists_isWord (show 4 ≤ rest.length by omega)
    rw [List.length_append, hsender.length] at hlong
    obtain ⟨_, _, rest, hwindow, rfl⟩ := exists_isWord (show 4 ≤ rest.length by omega)
    rw [List.length_append, hwindow.length] at hlong
    obtain ⟨_, _, rest, hmax, rfl⟩ := exists_isWord (show 4 ≤ rest.length by omega)
    exact ⟨_, _, .mk hrecipient hsender hwindow hmax⟩

/-- A request to open a channel needs its first two fields, and has of the others those for which there
are bytes. -/
theorem ChannelOpen.parse_append {first second channelType : Bytes} {sender : UInt32}
    (htype : IsString first channelType) (hsender : IsWord second sender) (rest : Bytes) :
    ∃ message, parse (first ++ (second ++ rest)) = .ok message ∧
      message.channelType = Utf8.decodeLossy channelType ∧ message.sender = sender ∧
      (message.window.isSome ↔ 4 ≤ rest.length) ∧ (message.maxPacket.isSome ↔ 8 ≤ rest.length) := by
  by_cases hwindow : rest.length < 4
  · refine ⟨_, (accepts.ok_iff _ _).mpr ⟨_, .bare htype hsender hwindow⟩, rfl, rfl, ?_, ?_⟩
    · simpa using hwindow
    · simpa using Nat.lt_trans hwindow (by decide)
  obtain ⟨third, window, after, hthird, rfl⟩ := exists_isWord (Nat.le_of_not_lt hwindow)
  by_cases hmax : after.length < 4
  · refine ⟨_, (accepts.ok_iff _ _).mpr ⟨_, .windowed htype hsender hthird hmax⟩, rfl, rfl, ?_, ?_⟩
    · simp [hthird.length]
    · simp only [Option.isSome_none, Bool.false_eq_true, List.length_append, hthird.length, false_iff]
      omega
  · obtain ⟨fourth, maxPacket, after, hfourth, rfl⟩ := exists_isWord (Nat.le_of_not_lt hmax)
    refine ⟨_, (accepts.ok_iff _ _).mpr ⟨_, .full htype hsender hthird hfourth⟩, rfl, rfl, ?_, ?_⟩
    · simp [hthird.length]
    · simp only [Option.isSome_some, List.length_append, hthird.length, hfourth.length, true_iff]
      omega

/-! ## Writing what was read -/

section Canonical

variable {μ : Type}

/-- A message that was read off a payload, in which every text was UTF-8, is written in a form that the
payload and the lengths of its fields determine. -/
def Canonical (packet : μ → Packet) (Layout : Bytes → List Bytes → μ → Prop)
    (form : Bytes → List Bytes → μ → Bytes) : Prop :=
  ∀ payload texts message, Layout payload texts message → (∀ text ∈ texts, Utf8.Valid text) →
    (packet message).payload = form payload texts message

end Canonical

theorem PublicKeyOk.canonical : Canonical packet Layout fun payload _ _ => payload := by
  rintro _ _ _ ⟨halgorithm, hkey⟩ hvalid
  show encodeText _ ++ encodeString _ = _
  rw [halgorithm.encodeText (hvalid _ (by simp)), hkey.encodeString]

theorem ChannelOpenConfirmation.canonical :
    Canonical packet Layout fun payload _ _ => payload.take 16 := by
  rintro _ _ _ ⟨hrecipient, hsender, hwindow, hmax⟩ -
  show encodeWord _ ++ encodeWord _ ++ encodeWord _ ++ encodeWord _ = List.take 16 _
  rw [hrecipient.encodeWord, hsender.encodeWord, hwindow.encodeWord, hmax.encodeWord]
  simp only [← List.append_assoc]
  refine (List.take_left' ?_).symm
  simp only [List.length_append, hrecipient.length, hsender.length, hwindow.length, hmax.length]

theorem ChannelData.canonical :
    Canonical packet Layout fun payload _ message => payload.take (8 + message.data.length) := by
  rintro _ _ _ ⟨hrecipient, hdata⟩ -
  show encodeWord _ ++ encodeString _ = List.take (8 + List.length _) _
  rw [hrecipient.encodeWord, hdata.encodeString, ← List.append_assoc]
  refine (List.take_left' ?_).symm
  simp only [List.length_append, hrecipient.length, hdata.length]
  omega

theorem ChannelRequest.canonical :
    Canonical packet Layout fun payload texts message =>
      payload.set (8 + texts.flatten.length) (if message.wantReply then 1 else 0) := by
  intro payload texts message hlayout hvalid
  cases hlayout with
  | @mk first second _ details requestType _ _ hrecipient htype hwant =>
    cases hwant with
    | mk byte =>
      have hbefore : 8 + [requestType].flatten.length = (first ++ second).length := by
        simp only [List.length_append, hrecipient.length, htype.length, List.flatten_singleton]
        omega
      show encodeWord _ ++ encodeText _ ++ [_] ++ details = List.set _ (8 + _) _
      rw [hrecipient.encodeWord, htype.encodeText (hvalid _ (by simp)), hbefore,
        ← List.append_assoc first, List.set_append_right _ _ (Nat.le_refl _), Nat.sub_self,
        List.append_assoc]
      rfl

theorem Disconnect.canonical :
    Canonical packet Layout fun payload texts _ =>
      (payload ++ List.replicate 12 0).take (12 + texts.flatten.length) := by
  intro payload texts message hlayout hvalid
  have hempty : encodeText "" = List.replicate 4 0 := by decide
  show encodeWord _ ++ encodeText _ ++ encodeText _ = List.take (12 + _) _
  cases hlayout with
  | empty => rfl
  | bare hreason =>
    have hlength : 12 + ([] : List Bytes).flatten.length = payload.length + 8 := by
      rw [hreason.length]
      rfl
    rw [hreason.encodeWord, hempty, hlength, List.take_length_add_append, List.append_assoc]
    rfl
  | @described first second description _ hreason hdescription =>
    have hlength : 12 + [description].flatten.length = (first ++ second).length + 4 := by
      simp only [List.length_append, hreason.length, hdescription.length, List.flatten_singleton]
      omega
    rw [hreason.encodeWord, hdescription.encodeText (hvalid _ (by simp)), hempty, hlength,
      List.take_length_add_append]
    rfl
  | @full first second third rest description language _ hreason hdescription hlanguage =>
    have hlength :
        12 + [description, language].flatten.length = (first ++ second ++ third).length := by
      simp only [List.length_append, List.flatten_cons, List.flatten_nil, List.length_nil,
        hreason.length, hdescription.length, hlanguage.length]
      omega
    rw [hreason.encodeWord, hdescription.encodeText (hvalid _ (by simp)),
      hlanguage.encodeText (hvalid _ (by simp)), hlength]
    simp only [← List.append_assoc]
    rw [List.append_assoc _ rest, List.take_left]

theorem canonical_word {μ : Type} {make : UInt32 → μ} {packet : μ → Packet}
    (h : ∀ word, (packet (make word)).payload = encodeWord word) :
    Canonical packet (WordLayout make) fun payload _ _ => payload.take 4 := by
  rintro _ _ _ ⟨hword⟩ -
  show (packet (make _)).payload = List.take 4 _
  rw [h, hword.encodeWord, List.take_left' hword.length]

/-- **The grammar of the payloads.** Each of the nine readers accepts exactly its layout, gives the
fields of the layout, and has a fault of the payload for every other byte string; where words alone are
asked for, that is a matter of the length. A request to open a channel has a window if four more bytes
follow its two fields, and a largest packet if eight do. Where the texts are UTF-8, what was read is
written as it stood: the whole payload, or the part of it with the fields, with one or zero for the
flag and with the length zero for a text that was left out. -/
theorem parse_grammar :
    (Accepts PublicKeyOk.parse PublicKeyOk.Layout ∧
      Accepts ServiceRequest.parse ServiceRequest.Layout ∧
      Accepts ChannelOpen.parse ChannelOpen.Layout ∧
      Accepts ChannelOpenConfirmation.parse ChannelOpenConfirmation.Layout ∧
      Accepts ChannelData.parse ChannelData.Layout ∧
      Accepts ChannelClose.parse (WordLayout ChannelClose.mk) ∧
      Accepts ChannelRequest.parse ChannelRequest.Layout ∧
      Accepts Disconnect.parse Disconnect.Layout ∧
      Accepts Unimplemented.parse (WordLayout Unimplemented.mk)) ∧
    (∀ payload,
      ((∃ message, ChannelClose.parse payload = .ok message) ↔ 4 ≤ payload.length) ∧
      ((∃ message, Unimplemented.parse payload = .ok message) ↔ 4 ≤ payload.length) ∧
      ((∃ message, ChannelOpenConfirmation.parse payload = .ok message) ↔ 16 ≤ payload.length)) ∧
    (∀ first second rest channelType sender, IsString first channelType → IsWord second sender →
      ∃ message, ChannelOpen.parse (first ++ (second ++ rest)) = .ok message ∧
        message.channelType = Utf8.decodeLossy channelType ∧ message.sender = sender ∧
        (message.window.isSome ↔ 4 ≤ rest.length) ∧
        (message.maxPacket.isSome ↔ 8 ≤ rest.length)) ∧
    (Canonical PublicKeyOk.packet PublicKeyOk.Layout fun payload _ _ => payload) ∧
    (Canonical ChannelOpenConfirmation.packet ChannelOpenConfirmation.Layout fun payload _ _ =>
      payload.take 16) ∧
    (Canonical ChannelData.packet ChannelData.Layout fun payload _ message =>
      payload.take (8 + message.data.length)) ∧
    (Canonical ChannelClose.packet (WordLayout ChannelClose.mk) fun payload _ _ => payload.take 4) ∧
    (Canonical ChannelRequest.packet ChannelRequest.Layout fun payload texts message =>
      payload.set (8 + texts.flatten.length) (if message.wantReply then 1 else 0)) ∧
    (Canonical Disconnect.packet Disconnect.Layout fun payload texts _ =>
      (payload ++ List.replicate 12 0).take (12 + texts.flatten.length)) ∧
    (Canonical Unimplemented.packet (WordLayout Unimplemented.mk) fun payload _ _ =>
      payload.take 4) := by
  refine ⟨⟨PublicKeyOk.accepts, ServiceRequest.accepts, ChannelOpen.accepts,
    ChannelOpenConfirmation.accepts, ChannelData.accepts, ChannelClose.accepts,
    ChannelRequest.accepts, Disconnect.accepts, Unimplemented.accepts⟩, fun payload => ?_, ?_,
    PublicKeyOk.canonical, ChannelOpenConfirmation.canonical, ChannelData.canonical,
    canonical_word fun _ => rfl, ChannelRequest.canonical, Disconnect.canonical,
    canonical_word fun _ => rfl⟩
  · exact ⟨ChannelClose.accepts.isOk_iff_of_word payload,
      Unimplemented.accepts.isOk_iff_of_word payload, ChannelOpenConfirmation.isOk_iff payload⟩
  · intro first second rest channelType sender htype hsender
    exact ChannelOpen.parse_append htype hsender rest

/-- A request with a two for its flag, which is written as a one; and a request to open a channel with a
window, and with one byte too few for a largest packet behind it. -/
theorem parse_grammar_flag :
    let type : Bytes := [101, 120, 101, 99]
    let payload : Bytes := [0, 0, 0, 7] ++ (([0, 0, 0, 4] ++ type) ++ ([2] ++ [9]))
    let request : ChannelRequest := ⟨7, Utf8.decodeLossy type, true, [9]⟩
    let opening : Bytes := ([0, 0, 0, 0] ++ []) ++ ([0, 0, 0, 5] ++ [0, 0, 0, 9, 1, 2, 3])
    (ChannelRequest.Layout payload [type] request ∧ Utf8.Valid type ∧
      ChannelRequest.parse payload = .ok request ∧
      request.packet.payload = [0, 0, 0, 7, 0, 0, 0, 4, 101, 120, 101, 99, 1, 9]) ∧
    ∃ message, ChannelOpen.parse opening = .ok message ∧ message.sender = 5 ∧
      message.window.isSome ∧ ¬ message.maxPacket.isSome := by
  intro type payload request opening
  have hzero : IsWord [0, 0, 0, 0] 0 := .mk (by decide)
  have hfour : IsWord [0, 0, 0, 4] 4 := .mk (by decide)
  have hfive : IsWord [0, 0, 0, 5] 5 := .mk (by decide)
  have hlayout : ChannelRequest.Layout payload [type] request :=
    .mk (.mk (by decide)) (.mk hfour (by decide)) (.mk 2)
  have hvalid : Utf8.Valid type := ⟨"exec", by decide +kernel⟩
  obtain ⟨⟨-, -, -, -, -, -, haccepts, -⟩, -, hopening, -, -, -, -, hcanonical, -⟩ := parse_grammar
  refine ⟨⟨hlayout, hvalid, (haccepts.ok_iff _ _).mpr ⟨_, hlayout⟩, ?_⟩, ?_⟩
  · exact hcanonical payload [type] request hlayout (List.forall_mem_singleton.mpr hvalid)
  · obtain ⟨message, hparse, -, hsender, hwindow, hmax⟩ :=
      hopening _ _ [0, 0, 0, 9, 1, 2, 3] [] 5 (.mk hzero rfl) hfive
    refine ⟨message, hparse, hsender, hwindow.mpr (by decide), fun hsome => ?_⟩
    exact absurd (hmax.mp hsome) (by decide)

end MockSsh.Message
