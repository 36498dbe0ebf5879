/-
What a masked phone number tells.  Only the digits count, of any script and as
they are written: whether there are more than four, then the last four and,
under the minimal pattern, whether the first is an ASCII one.
-/
import ContactPrivacy.Mask.Phone
import ContactPrivacy.Proofs.Mask.Email

namespace ContactPrivacy.Mask

/-- The decimal digits of a number, of any script and in order. -/
def numberDigits (number : String) : List Char := Text.decimalDigits number.toList

/-- Both numbers are starred out, or both are longer and end in the same four digits. -/
def SameEnding (first second : List Char) : Prop :=
  (first.length ≤ 4 ∧ second.length ≤ 4) ∨
    (4 < first.length ∧ 4 < second.length ∧ first.rtake 4 = second.rtake 4)

instance (first second : List Char) : Decidable (SameEnding first second) :=
  inferInstanceAs (Decidable (_ ∨ _))

/-! The digits as they are shown -/

/-- What stands before the last four digits of a longer number. -/
def numberStart : Pattern → List Char → List Char
  | .minimal, digits => countryText digits ++ ' ' :: groupStars
  | .standard, _ | .complete, _ => groupStars

def numberText (pattern : Pattern) (digits : List Char) : List Char :=
  if digits.length ≤ visibleDigits then stars
  else numberStart pattern digits ++ lastDigits digits

theorem numberText_of_short {pattern : Pattern} {digits : List Char} (hshort : digits.length ≤ 4) :
    numberText pattern digits = stars := if_pos hshort

theorem numberText_of_long {pattern : Pattern} {digits : List Char} (hlong : 4 < digits.length) :
    numberText pattern digits = numberStart pattern digits ++ digits.rtake 4 :=
  if_neg (Nat.not_le_of_lt hlong)

theorem toList_ne_nil_of_numberDigits {number : String} (hdigits : numberDigits number ≠ []) :
    number.toList ≠ [] := by
  intro hnil
  simp [numberDigits, hnil, Text.decimalDigits] at hdigits

/-- A number that is not hidden shows of its text the digits alone. -/
theorem phone_eq_numberText {pattern : Pattern} (hpattern : pattern ≠ .complete) {number : String}
    (hdigits : numberDigits number ≠ []) :
    phone pattern number = String.ofList (numberText pattern (numberDigits number)) := by
  have hchars := toList_ne_nil_of_numberDigits hdigits
  obtain ⟨digit, rest, hcons⟩ := List.exists_cons_of_ne_nil hdigits
  rw [numberDigits] at hcons
  cases pattern with
  | complete => exact absurd rfl hpattern
  | minimal =>
      simp only [phone, phoneText, numberText, numberStart, numberDigits, hchars, if_false, hcons,
        List.append_assoc, List.cons_append]
  | standard =>
      simp only [phone, phoneText, numberText, numberStart, numberDigits, hchars, if_false, hcons]

/-- The start tells under the minimal pattern whether the first digit is an ASCII one. -/
theorem numberStart_minimal_eq_iff (first second : List Char) :
    numberStart .minimal first = numberStart .minimal second ↔
      (first.head? = some '1' ↔ second.head? = some '1') := by
  by_cases hfirst : first.head? = some '1' <;> by_cases hsecond : second.head? = some '1' <;>
    simp [numberStart, countryText, hfirst, hsecond]

/-- Longer numbers are told by what is shown before the last four digits and by these. -/
theorem numberText_eq_iff_of_long {pattern : Pattern} {first second : List Char}
    (hfirst : 4 < first.length) (hsecond : 4 < second.length) :
    numberText pattern first = numberText pattern second ↔
      first.rtake 4 = second.rtake 4 ∧ numberStart pattern first = numberStart pattern second := by
  rw [numberText_of_long hfirst, numberText_of_long hsecond]
  constructor
  · intro hsame
    have hlength : (first.rtake 4).length = (second.rtake 4).length := by
      rw [Lists.length_rtake_of_le hfirst.le, Lists.length_rtake_of_le hsecond.le]
    obtain ⟨hstart, hending⟩ := List.append_inj' hsame hlength
    exact ⟨hending, hstart⟩
  · rintro ⟨hending, hstart⟩
    rw [hending, hstart]

theorem stars_length_lt_numberText {pattern : Pattern} {digits : List Char}
    (hlong : 4 < digits.length) : stars.length < (numberText pattern digits).length := by
  rw [numberText_of_long hlong, List.length_append, Lists.length_rtake_of_le hlong.le]
  exact Nat.lt_of_lt_of_le (by decide) (Nat.le_add_left 4 _)

theorem numberText_eq_iff (pattern : Pattern) (first second : List Char) :
    numberText pattern first = numberText pattern second ↔
      SameEnding first second ∧
        (4 < first.length → numberStart pattern first = numberStart pattern second) := by
  rw [masked_eq_iff (fun _ => numberText_of_short) (fun _ => stars_length_lt_numberText),
    SameEnding]
  constructor
  · rintro (⟨hfirst, hsecond⟩ | ⟨hfirst, hsecond, hsame⟩)
    · exact ⟨Or.inl ⟨hfirst, hsecond⟩, fun hlong => absurd hlong (Nat.not_lt_of_le hfirst)⟩
    · obtain ⟨hending, hstart⟩ := (numberText_eq_iff_of_long hfirst hsecond).mp hsame
      exact ⟨Or.inr ⟨hfirst, hsecond, hending⟩, fun _ => hstart⟩
  · rintro ⟨hshort | ⟨hfirst, hsecond, hending⟩, hstart⟩
    · exact Or.inl hshort
    · have hsame := (numberText_eq_iff_of_long hfirst hsecond).mpr ⟨hending, hstart hfirst⟩
      exact Or.inr ⟨hfirst, hsecond, hsame⟩

/-! The number -/

section

variable {first second : String} (hfirst : numberDigits first ≠ [])
  (hsecond : numberDigits second ≠ [])

include hfirst hsecond

theorem phone_eq_iff_numberText_eq {pattern : Pattern} (hpattern : pattern ≠ .complete) :
    phone pattern first = phone pattern second ↔
      numberText pattern (numberDigits first) = numberText pattern (numberDigits second) := by
  rw [phone_eq_numberText hpattern hfirst, phone_eq_numberText hpattern hsecond, String.ofList_inj]

theorem phone_standard_eq_iff :
    phone .standard first = phone .standard second ↔
      SameEnding (numberDigits first) (numberDigits second) := by
  rw [phone_eq_iff_numberText_eq hfirst hsecond (by decide), numberText_eq_iff]
  exact and_iff_left fun _ => rfl

theorem phone_minimal_eq_iff :
    phone .minimal first = phone .minimal second ↔
      SameEnding (numberDigits first) (numberDigits second) ∧
        (4 < (numberDigits first).length →
          ((numberDigits first).head? = some '1' ↔ (numberDigits second).head? = some '1')) := by
  rw [phone_eq_iff_numberText_eq hfirst hsecond (by decide), numberText_eq_iff,
    numberStart_minimal_eq_iff]

end

theorem phone_complete {number : String} (hdigits : numberDigits number ≠ []) :
    phone .complete number = String.ofList hidden := by
  simp [phone, phoneText, toList_ne_nil_of_numberDigits hdigits]

/-- What two masked numbers have in common, exactly.  Under the standard pattern
it is whether there are more than four digits and which four are the last, under
the minimal pattern also whether a longer number starts with an ASCII one, and
under the complete pattern nothing. -/
theorem phone_eq_iff (first second : String) (hfirst : numberDigits first ≠ [])
    (hsecond : numberDigits second ≠ []) :
    (∀ name : Option String, name ≠ some "minimal" → name ≠ some "complete" →
        (phone (Pattern.ofRule name) first = phone (Pattern.ofRule name) second ↔
          SameEnding (numberDigits first) (numberDigits second))) ∧
      (phone .minimal first = phone .minimal second ↔
        SameEnding (numberDigits first) (numberDigits second) ∧
          (4 < (numberDigits first).length →
            ((numberDigits first).head? = some '1' ↔
              (numberDigits second).head? = some '1'))) ∧
      phone .complete first = phone .complete second := by
  refine ⟨?_, phone_minimal_eq_iff hfirst hsecond, ?_⟩
  · intro name hminimal hcomplete
    rw [(Pattern.ofRule_eq_standard_iff name).mpr ⟨hminimal, hcomplete⟩]
    exact phone_standard_eq_iff hfirst hsecond
  · rw [phone_complete hfirst, phone_complete hsecond]

/-- A first digit of another script is no ASCII one, which only the minimal
pattern tells. -/
theorem phone_eq_iff_of_fullwidth_one :
    numberDigits "+1 (800) 234-5678" ≠ [] ∧ numberDigits "１.800.234.5678" ≠ [] ∧
      phone .standard "+1 (800) 234-5678" = phone .standard "１.800.234.5678" ∧
      phone .minimal "+1 (800) 234-5678" ≠ phone .minimal "１.800.234.5678" := by
  have hfirst : numberDigits "+1 (800) 234-5678" ≠ [] := by decide
  have hsecond : numberDigits "１.800.234.5678" ≠ [] := by decide
  obtain ⟨hstandard, hminimal, -⟩ := phone_eq_iff _ _ hfirst hsecond
  refine ⟨hfirst, hsecond, (hstandard none (by decide) (by decide)).mpr (by decide),
    fun hsame => ?_⟩
  exact absurd (hminimal.mp hsame).2 (by decide)

end ContactPrivacy.Mask
