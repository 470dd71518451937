import Mathlib.Data.List.DropRight
import MockSsh.Identification
import MockSsh.Proofs.Text.Utf8

/-!
Identification lines come back. Which characters are read, and as what, is said by `Layout` without a
word about the ends of lines; a line is read if and only if it has the layout once its terminators are
gone (`parse_eq_ok_iff`). What was read is printed in the layout again (`Layout.display`), and what is
printed has no line feed at its end, so no trim takes anything from it (`parse_display`). A line that was
not read but made of any software and comments comes back only if its fields are `Separated`
(`parse_display_ofSoftware_iff`).
-/
namespace MockSsh

/-! ## Blanks at the ends -/

namespace Text

/-- Neither the first nor the last character is blank. -/
structure Trimmed (cs : List Char) : Prop where
  first : ∀ c ∈ cs.head?, isBlank c = false
  last : ∀ c ∈ cs.getLast?, isBlank c = false

theorem trimmed_trim (cs : List Char) : Trimmed (trim cs) where
  first c hc := by
    obtain ⟨dropped, hdropped⟩ : trim cs <+: cs.dropWhile isBlank := List.rdropWhile_prefix _ _
    have hhead : (cs.dropWhile isBlank).head? = some c := by
      rw [← hdropped, List.head?_append, hc]
      rfl
    have hfirst := List.head?_dropWhile_not isBlank cs
    rw [hhead] at hfirst
    exact hfirst
  last c hc := by
    obtain ⟨hne, rfl⟩ := List.mem_getLast?_eq_getLast hc
    exact Bool.eq_false_iff.mpr (List.rdropWhile_last_not isBlank _ hne)

theorem Trimmed.trim_eq {cs : List Char} (h : Trimmed cs) : trim cs = cs := by
  have hfirst : cs.dropWhile isBlank = cs := by
    cases cs with
    | nil => rfl
    | cons c rest => exact List.dropWhile_cons_of_neg (by simp [h.first c rfl])
  rw [trim, hfirst]
  refine List.rdropWhile_eq_self_iff.mpr fun hne => ?_
  simp [h.last _ (List.getLast?_eq_getLast_of_ne_nil hne)]

/-- A line feed is a blank. -/
theorem Trimmed.getLast?_ne {cs : List Char} (h : Trimmed cs) : cs.getLast? ≠ some '\n' := fun hlast =>
  absurd (h.last '\n' hlast) (by decide)

end Text

namespace Identification

/-! ## Separators and terminators -/

section Split

variable {separator : Char} {line : List Char}

/-- The part before the first separator is the one that holds none. -/
theorem splitAtFirst_eq_some_iff {before after : List Char} :
    splitAtFirst separator line = some (before, after) ↔
      separator ∉ before ∧ line = before ++ separator :: after := by
  induction line generalizing before with
  | nil => simp [splitAtFirst]
  | cons c rest ih =>
    rw [splitAtFirst]
    by_cases hc : c = separator
    · rw [if_pos hc]
      constructor
      · rintro ⟨⟩
        exact ⟨List.not_mem_nil, congrArg (· :: _) hc⟩
      · rintro ⟨hbefore, hline⟩
        cases before with
        | nil => rw [(List.cons.inj hline).2]
        | cons d before =>
          rw [← (List.cons.inj hline).1, hc] at hbefore
          exact absurd List.mem_cons_self hbefore
    · rw [if_neg hc]
      constructor
      · intro h
        obtain ⟨⟨found, after⟩, hfound, ⟨⟩⟩ := Option.map_eq_some_iff.mp h
        obtain ⟨hbefore, rfl⟩ := ih.mp hfound
        exact ⟨List.not_mem_cons_of_ne_of_not_mem (Ne.symm hc) hbefore, rfl⟩
      · rintro ⟨hbefore, hline⟩
        cases before with
        | nil => exact absurd (List.cons.inj hline).1 hc
        | cons d before =>
          obtain ⟨rfl, rfl⟩ := List.cons.inj hline
          rw [ih.mpr ⟨List.not_mem_of_not_mem_cons hbefore, rfl⟩]
          rfl

theorem splitAtFirst_eq_none_iff : splitAtFirst separator line = none ↔ separator ∉ line := by
  induction line with
  | nil => simp [splitAtFirst]
  | cons c rest ih =>
    rw [splitAtFirst, List.mem_cons, not_or, ← ih]
    by_cases hc : c = separator
    · simp [hc]
    · simp [hc, Ne.symm hc]

/-- No line feed is left at the end. -/
theorem getLast?_stripTerminator (line : List Char) :
    (stripTerminator line).getLast? ≠ some '\n' := by
  have hfirst := List.head?_dropWhile_not (· == '\n') (dropLineEnds line.reverse)
  rw [stripTerminator, List.getLast?_reverse]
  intro h
  rw [h] at hfirst
  cases hfirst

/-- From a line without one there is nothing to take. -/
theorem stripTerminator_of_getLast? (h : line.getLast? ≠ some '\n') : stripTerminator line = line := by
  rw [stripTerminator, List.reverse_eq_iff]
  rw [← List.head?_reverse] at h
  cases hline : line.reverse with
  | nil => rfl
  | cons c rest =>
    rw [hline] at h
    have hc : c ≠ '\n' := fun heq => h (congrArg some heq)
    have hends : dropLineEnds (c :: rest) = c :: rest := by
      unfold dropLineEnds
      split
      · next heq => exact absurd (List.cons.inj heq).1 hc
      · rfl
    rw [hends, List.dropWhile_cons_of_neg (by simpa using hc)]

theorem stripTerminator_lineEnd (line : List Char) :
    stripTerminator (line ++ ['\r', '\n']) = stripTerminator line := by
  rw [stripTerminator, List.reverse_append]
  rfl

/-- Behind a line that ends in neither character of a terminator, a line feed is all that is taken. -/
theorem stripTerminator_lineFeed (hreturn : line.getLast? ≠ some '\r')
    (hfeed : line.getLast? ≠ some '\n') : stripTerminator (line ++ ['\n']) = line := by
  rw [stripTerminator, List.reverse_append, List.reverse_eq_iff]
  rw [← List.head?_reverse] at hreturn hfeed
  cases hline : line.reverse with
  | nil => rfl
  | cons c rest =>
    rw [hline] at hreturn hfeed
    have hends : dropLineEnds ('\n' :: c :: rest) = '\n' :: c :: rest := by
      unfold dropLineEnds
      split
      · next heq =>
        obtain ⟨-, heq⟩ := List.cons.inj heq
        exact absurd (congrArg some (List.cons.inj heq).1) hreturn
      · rfl
    have hc : c ≠ '\n' := fun heq => hfeed (congrArg some heq)
    show (dropLineEnds ('\n' :: c :: rest)).dropWhile (· == '\n') = c :: rest
    rw [hends, List.dropWhile_cons_of_pos (by simp), List.dropWhile_cons_of_neg (by simpa using hc)]

end Split

/-! ## Lines -/

/-- What every line begins with. -/
def marker : List Char := ['S', 'S', 'H', '-']

theorem afterMarker_eq_some_iff {line rest : List Char} :
    afterMarker line = some rest ↔ line = marker ++ rest := by
  constructor
  · intro h
    unfold afterMarker at h
    split at h
    · cases h
      rfl
    · cases h
  · rintro rfl
    rfl

/-- The lines without terminators, and what they are read as. The version ends at the first dash and the
software at the first space, so the one holds no dash and the other no space. -/
inductive Layout : List Char → Identification → Prop
  | bare {version software : List Char} (hversion : '-' ∉ version) (hsoftware : software ≠ [])
      (hspace : ' ' ∉ software) :
    Layout (marker ++ (version ++ '-' :: software)) ⟨String.ofList version, String.ofList software, none⟩
  | commented {version software : List Char} (comments : List Char) (hversion : '-' ∉ version)
      (hsoftware : software ≠ []) (hspace : ' ' ∉ software) :
    Layout (marker ++ (version ++ '-' :: (software ++ ' ' :: comments)))
      ⟨String.ofList version, String.ofList software, some (String.ofList (Text.trim comments))⟩

/-- **A line is read** if it has the layout without its terminators, and only then. -/
theorem parse_eq_ok_iff {line : String} {id : Identification} :
    parse line = .ok id ↔ Layout (stripTerminator line.toList) id := by
  unfold parse
  simp only
  generalize stripTerminator line.toList = stripped
  constructor
  · intro h
    split at h
    · cases h
    next rest hmarker =>
    obtain rfl := afterMarker_eq_some_iff.mp hmarker
    split at h
    · cases h
    next version behind hdash =>
    obtain ⟨hversion, rfl⟩ := splitAtFirst_eq_some_iff.mp hdash
    cases hsplit : splitAtFirst ' ' behind with
    | none =>
      simp only [hsplit] at h
      split at h
      · cases h
      · next hsoftware =>
        cases h
        exact .bare hversion (by simpa using hsoftware) (splitAtFirst_eq_none_iff.mp hsplit)
    | some found =>
      obtain ⟨software, comments⟩ := found
      obtain ⟨hspace, rfl⟩ := splitAtFirst_eq_some_iff.mp hsplit
      simp only [hsplit] at h
      split at h
      · cases h
      · next hsoftware =>
        cases h
        exact .commented comments hversion (by simpa using hsoftware) hspace
  · intro h
    cases h with
    | bare hversion hsoftware hspace =>
      simp only [afterMarker_eq_some_iff.mpr rfl, splitAtFirst_eq_some_iff.mpr ⟨hversion, rfl⟩,
        splitAtFirst_eq_none_iff.mpr hspace, List.isEmpty_iff, if_neg hsoftware]
    | commented comments hversion hsoftware hspace =>
      simp only [afterMarker_eq_some_iff.mpr rfl, splitAtFirst_eq_some_iff.mpr ⟨hversion, rfl⟩,
        splitAtFirst_eq_some_iff.mpr ⟨hspace, rfl⟩, List.isEmpty_iff, if_neg hsoftware]

theorem toList_display (id : Identification) :
    id.display.toList = marker ++ (id.protocolVersion.toList ++ '-' :: (id.software.toList ++
      match id.comments with
      | none => []
      | some comments => ' ' :: comments.toList)) := by
  unfold display
  cases id.comments <;> simp [marker]

/-- Behind a separator it is the field that ends in a line feed. -/
theorem getLast?_cons_eq_lineFeed {separator : Char} (h : separator ≠ '\n') (field : List Char) :
    (separator :: field).getLast? = some '\n' ↔ field.getLast? = some '\n' := by
  rw [List.getLast?_cons]
  cases field.getLast? with
  | none => simp [h]
  | some c => rfl

/-- A text ends in a line feed if its last field does. -/
theorem getLast?_display (id : Identification) :
    id.display.toList.getLast? = some '\n' ↔
      (id.comments.getD id.software).toList.getLast? = some '\n' := by
  rw [toList_display]
  cases id.comments with
  | none =>
    rw [List.append_nil, ← List.append_assoc, List.getLast?_append_of_ne_nil _ (List.cons_ne_nil _ _)]
    exact getLast?_cons_eq_lineFeed (by decide) _
  | some comments =>
    rw [← List.cons_append, ← List.append_assoc, ← List.append_assoc,
      List.getLast?_append_of_ne_nil _ (List.cons_ne_nil _ _)]
    exact getLast?_cons_eq_lineFeed (by decide) _

/-- What is read off a line is printed in the layout again. -/
theorem Layout.display {line : List Char} {id : Identification} (h : Layout line id) :
    Layout id.display.toList id := by
  rw [toList_display]
  cases h with
  | bare hversion hsoftware hspace =>
    simp only [String.toList_ofList, List.append_nil]
    exact .bare hversion hsoftware hspace
  | commented comments hversion hsoftware hspace =>
    -- the comments lost their blanks when they were read, so they have none to lose
    have hagain := Layout.commented (Text.trim comments) hversion hsoftware hspace
    rw [(Text.trimmed_trim comments).trim_eq] at hagain
    simp only [String.toList_ofList]
    exact hagain

/-- A line feed that ends comments is a blank, so only software could end in one. -/
theorem Layout.getLast?_display {line : List Char} {id : Identification} (h : Layout line id)
    (hline : line.getLast? ≠ some '\n') : id.display.toList.getLast? ≠ some '\n' := by
  cases h with
  | bare =>
    rw [toList_display]
    simp only [String.toList_ofList, List.append_nil]
    exact hline
  | commented comments =>
    rw [ne_eq, Identification.getLast?_display, Option.getD_some, String.toList_ofList]
    exact (Text.trimmed_trim comments).getLast?_ne

/-- **Reading is stable under printing.** What was read off any line is read again, the same, off the text
that it is printed as, and off the line that is sent for it, which is that text with CR LF behind it. -/
theorem parse_display {line : String} {id : Identification} (h : parse line = .ok id) :
    parse id.display = .ok id ∧ id.wire = Utf8.encode (id.display ++ "\r\n") ∧
      parse (id.display ++ "\r\n") = .ok id := by
  have hlayout := parse_eq_ok_iff.mp h
  have hkept : stripTerminator id.display.toList = id.display.toList :=
    stripTerminator_of_getLast? (hlayout.getLast?_display (getLast?_stripTerminator line.toList))
  have hends : ("\r\n" : String).toList = ['\r', '\n'] := by decide
  have hbytes : Utf8.encode "\r\n" = [0x0D, 0x0A] := by decide
  refine ⟨parse_eq_ok_iff.mpr ?_, ?_, parse_eq_ok_iff.mpr ?_⟩
  · rw [hkept]
    exact hlayout.display
  · rw [Utf8.encode_append, hbytes]
    rfl
  · rw [String.toList_append, hends, stripTerminator_lineEnd, hkept]
    exact hlayout.display

/-- A line that ends twice over, with no version, software that holds a dash and the end of a line, and
comments between blanks of several kinds. -/
theorem parse_display_blanks :
    let line := "SSH--so-ft\r\nware\r \u2003in \u00A0side\u3000\t\n\r\n\r\n"
    let id : Identification := ⟨"", "so-ft\r\nware\r", some "in \u00A0side"⟩
    parse line = .ok id ∧ id.display = "SSH--so-ft\r\nware\r in \u00A0side" ∧
      parse id.display = .ok id ∧ id.wire = Utf8.encode (id.display ++ "\r\n") ∧
      parse (id.display ++ "\r\n") = .ok id := by
  intro line id
  have hparse : parse line = .ok id := by decide +kernel
  have hdisplay : id.display = "SSH--so-ft\r\nware\r in \u00A0side" := by decide +kernel
  exact ⟨hparse, hdisplay, parse_display hparse⟩

/-! ## Lines that were made -/

/-- The fields hold nothing that would be taken for an end of the field, and the comments no blanks that
would be taken off. -/
structure Separated (id : Identification) : Prop where
  version : '-' ∉ id.protocolVersion.toList
  software : id.software ≠ ""
  space : ' ' ∉ id.software.toList
  comments : ∀ comments ∈ id.comments, String.ofList (Text.trim comments.toList) = comments

/-- What is read off a line is separated. -/
theorem Layout.separated {line : List Char} {id : Identification} (h : Layout line id) :
    Separated id := by
  cases h with
  | bare hversion hsoftware hspace =>
    refine ⟨?_, ?_, ?_, ?_⟩
    · simpa using hversion
    · simpa using hsoftware
    · simpa using hspace
    · rintro _ ⟨⟩
  | commented comments hversion hsoftware hspace =>
    refine ⟨?_, ?_, ?_, ?_⟩
    · simpa using hversion
    · simpa using hsoftware
    · simpa using hspace
    · rintro _ ⟨⟩
      rw [String.toList_ofList, (Text.trimmed_trim comments).trim_eq]

theorem Separated.layout {id : Identification} (h : Separated id) : Layout id.display.toList id := by
  obtain ⟨version, software, comments⟩ := id
  obtain ⟨hversion, hsoftware, hspace, hcomments⟩ := h
  have hnonempty : software.toList ≠ [] := fun hnil => hsoftware (String.toList_eq_nil_iff.mp hnil)
  rw [toList_display]
  cases comments with
  | none =>
    have hlayout := Layout.bare hversion hnonempty hspace
    rw [String.ofList_toList, String.ofList_toList] at hlayout
    simp only [List.append_nil]
    exact hlayout
  | some comments =>
    have hlayout := Layout.commented comments.toList hversion hnonempty hspace
    rw [String.ofList_toList, String.ofList_toList, hcomments comments rfl] at hlayout
    exact hlayout

/-- A text comes back as it was printed if its fields are separated and it does not end in a line feed. -/
theorem parse_display_iff {id : Identification} :
    parse id.display = .ok id ↔ Separated id ∧ id.display.toList.getLast? ≠ some '\n' := by
  rw [parse_eq_ok_iff]
  constructor
  · intro h
    exact ⟨h.separated, h.getLast?_display (getLast?_stripTerminator _)⟩
  · rintro ⟨hseparated, hlast⟩
    rw [stripTerminator_of_getLast? hlast]
    exact hseparated.layout

/-- **Which lines come back** as the software and the comments that they were made of. The software must
not be empty or hold a space, and must not end in a line feed if nothing is behind it; comments must have
no blanks around them. Every other line is read as something else, or not at all. -/
theorem parse_display_ofSoftware_iff (software : String) (comments : Option String) :
    parse (ofSoftware software comments).display = .ok (ofSoftware software comments) ↔
      software ≠ "" ∧ ' ' ∉ software.toList ∧
        (comments = none → software.toList.getLast? ≠ some '\n') ∧
        ∀ text ∈ comments, String.ofList (Text.trim text.toList) = text := by
  have hversion : '-' ∉ (ofSoftware software comments).protocolVersion.toList := by
    show '-' ∉ ("2.0" : String).toList
    decide
  rw [parse_display_iff, ne_eq, getLast?_display]
  constructor
  · rintro ⟨⟨-, hsoftware, hspace, hcomments⟩, hlast⟩
    refine ⟨hsoftware, hspace, ?_, hcomments⟩
    rintro rfl
    exact hlast
  · rintro ⟨hsoftware, hspace, hlast, hcomments⟩
    refine ⟨⟨hversion, hsoftware, hspace, hcomments⟩, ?_⟩
    cases comments with
    | none => exact hlast rfl
    | some text =>
      have htrimmed := Text.trimmed_trim text.toList
      rw [← String.toList_ofList (l := Text.trim text.toList), hcomments text rfl] at htrimmed
      exact htrimmed.getLast?_ne

/-- A line feed at the end of the software is lost, unless comments follow; a carriage return is not. -/
example : parse (ofSoftware "ab\n" none).display = .ok (ofSoftware "ab" none) ∧
    parse (ofSoftware "ab\n" (some "")).display = .ok (ofSoftware "ab\n" (some "")) ∧
    parse (ofSoftware "ab\r" none).display = .ok (ofSoftware "ab\r" none) := by decide +kernel

end Identification
end MockSsh
