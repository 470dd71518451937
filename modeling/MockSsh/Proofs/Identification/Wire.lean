import MockSsh.Config.Document
import MockSsh.Proofs.Identification.RoundTrip
import MockSsh.Proofs.Stream.Faultless
import MockSsh.Proofs.Stream.Line
import MockSsh.Proofs.Text.Ascii
import MockSsh.Session
import MockSsh.Toml.Document

/-!
Identification lines as they travel. A reader of lines works on bytes and takes off one line feed and at
most one carriage return before it decodes; a reader of identifications works on text and takes off all
that ends a line. `parse_readIdentification` says that the first never hides anything from the second.
With it stands what the server announces itself: whatever version its settings name, if they were found
usable, the line that it sends is one line, and is read as that version (`Config.ownLine_readable`).
-/
namespace MockSsh

/-! ## Lines -/

theorem identificationText_return (text : Bytes) :
    identificationText (text ++ [0x0D]) = Utf8.decodeLossy text := by
  rw [identificationText, List.getLast?_concat, if_pos rfl, List.dropLast_concat]

theorem identificationText_of_getLast? {text : Bytes} (h : text.getLast? ≠ some 0x0D) :
    identificationText text = Utf8.decodeLossy text := by
  rw [identificationText, if_neg h]

/-- A line within the limit is taken with its line feed, and nothing behind it is. -/
theorem Transport.readIdentification_of_line {transport : Transport} {limit : Nat} {text rest : Bytes}
    (hinput : transport.stream.pending = text ++ lineFeed :: rest) (htext : lineFeed ∉ text)
    (hlimit : text.length < limit) :
    let read := transport.readIdentification limit
    read.1 = .ok (some (identificationText text)) ∧ read.2.stream.pending = rest ∧
      read.2.bytesRead = transport.bytesRead + (text.length + 1) := by
  intro read
  have hshort : ¬ max limit 1 ≤ text.length := by omega
  have hrest : transport.stream.pending.drop (text.length + 1) = rest := by
    rw [hinput, ← List.drop_drop, List.drop_left]
    rfl
  have hfits : text.length + 1 ≤ transport.stream.unread := by
    rw [Stream.unread, hinput, List.length_append, List.length_cons]
    omega
  obtain ⟨counted, hread⟩ := transport.readIdentification_alike limit
  rw [hinput, cutLine_of_line htext, if_neg hshort, identificationRead, ← hrest] at hread
  obtain ⟨hanswer, hleft, chunks, hafter⟩ :=
    exact_of_alike (transport.supply_readIdentification limit) hfits hread
  exact ⟨hanswer, hleft.trans hrest, congrArg Transport.bytesRead hafter⟩

namespace Identification

/-! ## Two readings of the end of a line -/

/-- Of a line only what is left without its terminators is read. -/
theorem parse_congr {line other : String}
    (h : stripTerminator line.toList = stripTerminator other.toList) : parse line = parse other := by
  unfold parse
  simp only [h]

/-- What the reader of lines leaves of a line feed and the carriage returns before it, the reader of
identifications takes off too, or leaves alike. -/
theorem stripTerminator_identificationText {text : Bytes} (h : Transport.lineFeed ∉ text) :
    stripTerminator (identificationText text).toList
      = stripTerminator (Utf8.decodeLossy (text ++ [Transport.lineFeed])).toList := by
  have hfeed : (Utf8.decodeLossy (text ++ [Transport.lineFeed])).toList
      = (Utf8.decodeLossy text).toList ++ ['\n'] := Utf8.decodeLossy_concat (by decide) text
  rw [hfeed]
  by_cases hreturn : text.getLast? = some 0x0D
  · obtain ⟨front, rfl⟩ := List.getLast?_eq_some_iff.mp hreturn
    have hends : (Utf8.decodeLossy (front ++ [0x0D])).toList
        = (Utf8.decodeLossy front).toList ++ ['\r'] := Utf8.decodeLossy_concat (by decide) front
    rw [identificationText_return, hends, List.append_assoc]
    exact (stripTerminator_lineEnd _).symm
  · -- neither character of a terminator is read at the end, for its byte would stand there
    have hnoReturn : (Utf8.decodeLossy text).toList.getLast? ≠ some '\r' := fun hlast =>
      hreturn (Utf8.getLast?_of_decodeLossy (by decide) hlast)
    have hnoFeed : (Utf8.decodeLossy text).toList.getLast? ≠ some '\n' := fun hlast =>
      h (List.mem_of_getLast? (Utf8.getLast?_of_decodeLossy (by decide) hlast))
    rw [identificationText_of_getLast? hreturn, stripTerminator_of_getLast? hnoFeed,
      stripTerminator_lineFeed hnoReturn hnoFeed]

/-- **The two readings agree.** A line that is read off a stream says the same, or is refused in the same
words, as all its bytes would with the terminator among them; whatever carriage returns stand before the
line feed, whether the bytes are text or not, and whatever follows. -/
theorem parse_readIdentification {raw : Bytes} (hends : raw.getLast? = some Transport.lineFeed)
    (honly : raw.count Transport.lineFeed = 1) {transport : Transport} {rest : Bytes}
    (hinput : transport.stream.pending = raw ++ rest) {limit : Nat} (hlimit : raw.length ≤ limit) :
    ∃ line, (transport.readIdentification limit).1 = .ok (some line) ∧
      parse line = parse (Utf8.decodeLossy raw) := by
  obtain ⟨text, rfl⟩ := List.getLast?_eq_some_iff.mp hends
  have htext : Transport.lineFeed ∉ text := by
    rw [List.count_append, List.count_singleton_self] at honly
    exact List.count_eq_zero.mp (Nat.add_right_cancel honly)
  rw [List.append_assoc, List.singleton_append] at hinput
  rw [List.length_append, List.length_singleton] at hlimit
  obtain ⟨hread, -, -⟩ := Transport.readIdentification_of_line hinput htext hlimit
  exact ⟨_, hread, parse_congr (stripTerminator_identificationText htext)⟩

/-- A line that ends in a character cut short, two carriage returns and the line feed, in two pieces that
part the character, under the least limit. -/
theorem parse_readIdentification_cut :
    let raw : Bytes := [0x53, 0x53, 0x48, 0x2D, 0x32, 0x2D, 0x78, 0xE2, 0x82, 0x0D, 0x0D, 0x0A]
    let transport : Transport := .ofStream (.ofChunks [raw.take 8, raw.drop 8 ++ [0x0A, 0x41]])
    raw.getLast? = some Transport.lineFeed ∧ raw.count Transport.lineFeed = 1 ∧
      transport.stream.pending = raw ++ [0x0A, 0x41] ∧
      ∃ line, (transport.readIdentification 12).1 = .ok (some line) ∧
        parse line = parse (Utf8.decodeLossy raw) ∧
        parse (Utf8.decodeLossy raw) = .ok ⟨"2", "x\uFFFD\r", none⟩ := by
  intro raw transport
  have hends : raw.getLast? = some Transport.lineFeed := by decide
  have honly : raw.count Transport.lineFeed = 1 := by decide
  have hinput : transport.stream.pending = raw ++ [0x0A, 0x41] := by decide
  have hlimit : raw.length ≤ 12 := by decide
  obtain ⟨line, hread, hparse⟩ := parse_readIdentification hends honly hinput hlimit
  exact ⟨hends, honly, hinput, line, hread, hparse, by decide +kernel⟩

end Identification

/-! ## The line of the server -/

namespace Config

/-- Settings that were found usable, whether they were put together or read from a document, by
whatever parser. -/
def Validated (config : Config) : Prop :=
  (∃ settings : Config, settings.validate = .ok config) ∨
    ∃ parse document, ofText parse document = .ok config

theorem validate_eq_ok_iff {settings config : Config} :
    settings.validate = .ok config ↔ settings.fault? = none ∧ settings = config := by
  unfold validate
  cases settings.fault? <;> simp

theorem Validated.fault?_eq_none {config : Config} (h : config.Validated) : config.fault? = none := by
  have hsettings : ∃ settings : Config, settings.validate = .ok config := by
    rcases h with hsettings | ⟨parse, document, hdocument⟩
    · exact hsettings
    · unfold ofText at hdocument
      cases hread : read? parse document with
      | error fault =>
        rw [hread] at hdocument
        cases hdocument
      | ok settings =>
        rw [hread] at hdocument
        exact ⟨settings, hdocument⟩
  obtain ⟨settings, hvalid⟩ := hsettings
  obtain ⟨hfault, rfl⟩ := validate_eq_ok_iff.mp hvalid
  exact hfault

/-- A usable version is not empty and holds nothing that would end the software or the line. -/
theorem serverVersion_of_fault? {config : Config} (h : config.fault? = none) :
    config.serverVersion ≠ "" ∧ ∀ c, endsSoftware c = true → c ∉ config.serverVersion.toList := by
  unfold fault? at h
  split at h
  · cases h
  split at h
  · cases h
  next hempty =>
  split at h
  · cases h
  next hends =>
  exact ⟨fun heq => hempty (by rw [heq]; rfl),
    fun c hend hmem => hends (List.any_eq_true.mpr ⟨c, hmem, hend⟩)⟩

/-- What the server announces, without the end of the line. -/
def ownText (config : Config) : String := "SSH-2.0-" ++ config.serverVersion

theorem display_ofSoftware (config : Config) :
    (Identification.ofSoftware config.serverVersion none).display = config.ownText := by
  have hfixed : "SSH-" ++ "2.0" ++ "-" = "SSH-2.0-" := by decide
  show "SSH-" ++ "2.0" ++ "-" ++ config.serverVersion ++ "" = "SSH-2.0-" ++ config.serverVersion
  rw [hfixed, String.append_empty]

theorem ownLine_eq (config : Config) :
    Session.ownLine config = (Utf8.encode config.ownText ++ [0x0D]) ++ [Transport.lineFeed] := by
  rw [Session.ownLine, Identification.wire, display_ofSoftware, List.append_assoc]
  rfl

/-- No byte of a terminator stands in the text, for its character does not. -/
theorem count_encode_ownText {config : Config} (h : config.fault? = none) {byte : UInt8}
    (hascii : byte < 0x80) (hends : endsSoftware (Char.ofNat byte.toNat) = true)
    (hfixed : Char.ofNat byte.toNat ∉ ("SSH-2.0-" : String).toList) :
    (Utf8.encode config.ownText).count byte = 0 := by
  have hversion := (serverVersion_of_fault? h).2 _ hends
  rw [Utf8.count_encode hascii, ownText, String.toList_append, List.count_append,
    List.count_eq_zero.mpr hfixed, List.count_eq_zero.mpr hversion]

theorem parse_ownText {config : Config} (h : config.fault? = none) :
    Identification.parse config.ownText = .ok ⟨"2.0", config.serverVersion, none⟩ := by
  obtain ⟨hnonempty, hversion⟩ := serverVersion_of_fault? h
  rw [← display_ofSoftware]
  refine Identification.parse_display_iff.mpr ⟨⟨?_, hnonempty, hversion ' ' (by decide), ?_⟩, ?_⟩
  · show '-' ∉ ("2.0" : String).toList
    decide
  · rintro _ ⟨⟩
  · rw [display_ofSoftware, ownText, String.toList_append]
    intro hlast
    rcases List.mem_append.mp (List.mem_of_getLast? hlast) with hmem | hmem
    · exact absurd hmem (by decide)
    · exact hversion '\n' (by decide) hmem

/-- **What the server announces** is read as what its settings say. Its line has one end, which is where
the line ends; a reader takes the line and nothing behind it, under any limit that admits the line; and
the line names the version of the settings, all of it, as software for protocol version 2.0. -/
theorem ownLine_readable {config : Config} (h : config.Validated) :
    let line := Session.ownLine config
    let text := "SSH-2.0-" ++ config.serverVersion
    (line.count 0x0D = 1 ∧ line.count Transport.lineFeed = 1 ∧ [0x0D, Transport.lineFeed] <:+ line) ∧
      (∀ (transport : Transport) (limit : Nat) (rest : Bytes),
        transport.stream.pending = line ++ rest → line.length ≤ limit →
          let read := transport.readIdentification limit
          read.1 = .ok (some text) ∧ read.2.stream.pending = rest ∧
            read.2.bytesRead = transport.bytesRead + line.length) ∧
      Identification.parse text = .ok ⟨"2.0", config.serverVersion, none⟩ := by
  intro line text
  have hvalid := h.fault?_eq_none
  have hline : line = (Utf8.encode text ++ [0x0D]) ++ [Transport.lineFeed] := config.ownLine_eq
  have hreturn : (Utf8.encode text).count 0x0D = 0 :=
    count_encode_ownText hvalid (by decide) (by decide) (by decide)
  have hfeed : (Utf8.encode text).count Transport.lineFeed = 0 :=
    count_encode_ownText hvalid (by decide) (by decide) (by decide)
  refine ⟨⟨?_, ?_, ?_⟩, ?_, parse_ownText hvalid⟩
  · rw [hline, List.count_append, List.count_append, hreturn]
    rfl
  · rw [hline, List.count_append, List.count_append, hfeed]
    rfl
  · rw [hline, List.append_assoc]
    exact List.suffix_append _ _
  · intro transport limit rest hinput hlimit
    rw [hline, List.append_assoc, List.singleton_append] at hinput
    have hlength : line.length = (Utf8.encode text ++ [0x0D]).length + 1 := by
      rw [hline, List.length_append, List.length_singleton]
    have hshort : (Utf8.encode text ++ [0x0D]).length < limit := by omega
    have hfree : Transport.lineFeed ∉ Utf8.encode text ++ [0x0D] := by
      rw [List.mem_append, not_or]
      exact ⟨List.count_eq_zero.mp hfeed, by decide⟩
    have hread := Transport.readIdentification_of_line hinput hfree hshort
    rw [identificationText_return, Utf8.decodeLossy_encode, ← hlength] at hread
    exact hread

/-- A version of letters and marks beyond ASCII, from a document, in three pieces that part a letter and
the terminator, with the next line behind it. -/
theorem ownLine_readable_accented :
    let config : Config := { default with serverVersion := "M\u00F6ck\u2028\uFFFD" }
    let line := Session.ownLine config
    let transport : Transport :=
      .ofStream (.ofChunks [line.take 10, (line.drop 10).dropLast, [0x0A, 0x0D, 0x0A]])
    ofText Toml.parse? "server_version = 'M\u00F6ck\u2028\uFFFD'" = .ok config ∧ config.Validated ∧
      (line.count 0x0D = 1 ∧ line.count Transport.lineFeed = 1 ∧
        [0x0D, Transport.lineFeed] <:+ line) ∧
      (transport.readIdentification line.length).1 = .ok (some "SSH-2.0-M\u00F6ck\u2028\uFFFD") ∧
      (transport.readIdentification line.length).2.stream.pending = [0x0D, 0x0A] ∧
      Identification.parse "SSH-2.0-M\u00F6ck\u2028\uFFFD"
        = .ok ⟨"2.0", "M\u00F6ck\u2028\uFFFD", none⟩ := by
  intro config line transport
  have hdocument : ofText Toml.parse? "server_version = 'M\u00F6ck\u2028\uFFFD'" = .ok config := by
    decide +kernel
  have hvalid : config.Validated := .inr ⟨_, _, hdocument⟩
  have hinput : transport.stream.pending = line ++ [0x0D, 0x0A] := by decide +kernel
  obtain ⟨hends, hread, hparse⟩ := ownLine_readable hvalid
  obtain ⟨htext, hrest, -⟩ := hread transport line.length [0x0D, 0x0A] hinput (Nat.le_refl _)
  exact ⟨hdocument, hvalid, hends, htext, hrest, hparse⟩

end Config
end MockSsh
