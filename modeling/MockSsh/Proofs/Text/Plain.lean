import MockSsh.Text.Escape

/-!
Texts that hold no control character, and so stay on their line. The one-line form of any text is
plain (`plain_escape`), and so is a number in digits; what is put together of plain texts is plain.
-/
namespace MockSsh.Text

/-- The text holds no control character. -/
def Plain (text : String) : Prop :=
  ∀ c ∈ text.toList, isControl c = false

instance (text : String) : Decidable (Plain text) :=
  List.decidableBAll (fun c => isControl c = false) text.toList

@[simp] theorem plain_append {text more : String} :
    Plain (text ++ more) ↔ Plain text ∧ Plain more := by
  simp only [Plain, String.toList_append, List.forall_mem_append]

theorem plain_ofList {cs : List Char} :
    Plain (String.ofList cs) ↔ ∀ c ∈ cs, isControl c = false := by
  rw [Plain, String.toList_ofList]

/-! ## Numbers -/

/-- The digits of a number are letters and decimal digits, in any base up to 16. -/
theorem isControl_of_mem_toDigits {base n : Nat} {c : Char} (hone : 1 < base) (hbase : base ≤ 16)
    (h : c ∈ Nat.toDigits base n) : isControl c = false := by
  have hdigit : ∀ digit < 16, isControl (Nat.digitChar digit) = false := by decide
  induction n using Nat.strongRecOn with
  | ind n ih =>
    rw [Nat.toDigits_eq_if hone] at h
    split at h
    · next hlt =>
      obtain rfl := List.mem_singleton.mp h
      exact hdigit n (Nat.lt_of_lt_of_le hlt hbase)
    · next hle =>
      rcases List.mem_append.mp h with hmore | hlast
      · exact ih (n / base) (Nat.div_lt_self (by omega) hone) hmore
      · obtain rfl := List.mem_singleton.mp hlast
        exact hdigit _ (Nat.lt_of_lt_of_le (Nat.mod_lt n (by omega)) hbase)

@[simp] theorem plain_toString (n : Nat) : Plain (toString n) := by
  rw [Nat.toString_eq_ofList_toDigits, plain_ofList]
  exact fun c h => isControl_of_mem_toDigits (by decide) (by decide) h

/-! ## The one-line form -/

theorem isControl_of_mem_codePoint {c shown : Char} (h : shown ∈ codePoint c) :
    isControl shown = false := by
  have hborder : Plain "\\u\x7b\x7d" := by decide
  rcases List.mem_append.mp h with hfront | hlast
  · rcases List.mem_append.mp hfront with hfirst | hdigit
    · exact hborder shown (List.mem_append_left ['\x7d'] hfirst)
    · exact isControl_of_mem_toDigits (by decide) (Nat.le_refl 16) hdigit
  · exact hborder shown (List.mem_append_right ['\\', 'u', '\x7b'] hlast)

/-- What stands for itself is printable; all else is written with these. -/
theorem isControl_of_mem_escapeChar {c shown : Char} (h : shown ∈ escapeChar c) :
    isControl shown = false := by
  have hpair (second : Char) (hsecond : isControl second = false) (h : shown ∈ ['\\', second]) :
      isControl shown = false := by
    simp only [List.mem_cons, List.not_mem_nil, or_false] at h
    rcases h with rfl | rfl
    · decide
    · exact hsecond
  unfold escapeChar at h
  split at h
  · exact hpair 't' (by decide) h
  split at h
  · exact hpair 'r' (by decide) h
  split at h
  · exact hpair 'n' (by decide) h
  split at h
  · next hmark =>
    refine hpair c ?_ h
    rcases hmark with rfl | rfl | rfl <;> decide
  split at h
  · next hprintable =>
    obtain rfl := List.mem_singleton.mp h
    simp only [isControl, Bool.or_eq_false_iff, Bool.and_eq_false_iff, decide_eq_false_iff_not]
    omega
  · exact isControl_of_mem_codePoint h

/-- **The one-line form** of a text is plain. -/
theorem plain_escape (text : String) : Plain (escape text) := by
  refine plain_ofList.mpr fun shown h => ?_
  obtain ⟨c, -, hshown⟩ := List.mem_flatMap.mp h
  exact isControl_of_mem_escapeChar hshown

end MockSsh.Text
